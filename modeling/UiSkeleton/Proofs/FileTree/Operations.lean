/-
Runs of operations on files. Each operation makes directories, writes or copies, and it may be
refused at any point on its way; a run goes on with the next one. Whatever is asked for, directories
stay directories, files stay files, and every entry lies in a directory; and what one operation
leaves can be told from whether it succeeded (`orderly_afterAll`).
-/
import UiSkeleton.Proofs.FileTree.Change

namespace UiSkeleton

/-- What can be asked for. -/
inductive FileOperation where
  | ensureDirectory (p : Path)
  | write (p : Path) (content : String)
  | copy (source target : Path)
  deriving DecidableEq, Repr

namespace FileOperation

open FileTree (Changes Makes)

def action : FileOperation → FileAction Unit
  | .ensureDirectory p => .ensureDirectory p
  | .write p content => .writeText p content
  | .copy source target => .copyFile source target

/-- The file that is written to. -/
def target? : FileOperation → Option Path
  | .ensureDirectory _ => none
  | .write p _ => some p
  | .copy _ target => some target

/-- The directories that are made where they are missing. -/
def directories : FileOperation → List Path
  | .ensureDirectory p => p :: p.ancestors
  | .write p _ => p.ancestors
  | .copy _ target => target.ancestors

/-- Whether the operation succeeds. -/
def result (op : FileOperation) (t : FileTree) : Except Failure Unit := (op.action.run.run t).1

/-- The tree that the operation leaves. -/
def after (op : FileOperation) (t : FileTree) : FileTree := (op.action.run.run t).2

/-- The tree that some operations leave, one after the other. -/
def afterAll (ops : List FileOperation) (t : FileTree) : FileTree := ops.foldl (fun t op => op.after t) t

/-- The operation succeeds, and its target is the file at a place. -/
def Writes (op : FileOperation) (t : FileTree) (place : Location) : Prop :=
  op.result t = .ok () ∧ ∃ p ∈ op.target?, (op.after t).locate p = .ok place

/-- What one operation does to a tree. -/
structure Orderly (op : FileOperation) (t : FileTree) : Prop where
  /-- A file has other bytes only if it is the target and the operation succeeds. -/
  bytes : ∀ {place bytes}, t.get? place = some (.file bytes) →
    (op.after t).get? place = some (.file bytes) ∨ op.Writes t place
  /-- When it fails, it has added directories above its target, or up to the one that was asked
  for. -/
  refused : ∀ {failure}, op.result t = .error failure → ∀ place, (op.after t).get? place = t.get? place ∨
    (t.get? place = none ∧ (op.after t).get? place = some .directory ∧
      Path.PlaceOf op.directories t.workingDirectory place)
  /-- A text that is written is there. -/
  written : ∀ {p content}, op = .write p content → op.result t = .ok () → (op.after t).hasFile p = true ∧
    (op.after t).hasDirectory p = false ∧ (op.after t).read p = .ok (Text.toBytes content)

/-! ## One operation -/

variable (op : FileOperation) (t : FileTree)

/-- **An operation** makes some of its `directories`, and if it succeeds it has also written to its
`target?`. -/
theorem changes_after :
    ((∃ failure, op.result t = .error failure) ∧
      Makes (Path.PlaceOf op.directories t.workingDirectory) t (op.after t)) ∨
      (op.result t = .ok () ∧ Changes (Path.PlaceOf op.directories t.workingDirectory)
          (fun place => ∃ p ∈ op.target?, place = p.place t.workingDirectory) t (op.after t) ∧
        ∀ p ∈ op.target?, ∃ bytes, (op.after t).find? p = some (.file bytes)) := by
  have htarget {p : Path} (hp : op.target? = some p) (place : Location)
      (hplace : place = p.place t.workingDirectory) :
      ∃ p ∈ op.target?, place = p.place t.workingDirectory := ⟨p, hp, hplace⟩
  have hrun : op.action.run.run t = (op.result t, op.after t) := rfl
  cases op with
  | ensureDirectory p =>
    obtain ⟨hmakes, -⟩ := FileAction.makes_ensureDirectory hrun
    rcases hresult : (ensureDirectory p).result t with failure | u
    · exact .inl ⟨⟨failure, rfl⟩, hmakes⟩
    · exact .inr ⟨rfl, hmakes.mono (fun _ => id) fun _ => False.elim, fun q hq => nomatch hq⟩
  | write p content =>
    refine (FileAction.changes_writeText hrun).imp_right fun ⟨hok, hchanges, hfind⟩ => ?_
    refine ⟨hok, hchanges.mono (fun _ => id) (htarget rfl), fun q hq => ?_⟩
    cases hq
    exact ⟨_, hfind⟩
  | copy source p =>
    refine (FileAction.changes_copyFile hrun).imp_right fun ⟨hok, hchanges, hfind⟩ => ?_
    refine ⟨hok, hchanges.mono (fun _ => id) (htarget rfl), fun q hq => ?_⟩
    cases hq
    exact hfind

theorem grows_after : t.Grows (op.after t) := by
  rcases op.changes_after t with ⟨-, hmakes⟩ | ⟨-, hchanges, -⟩
  · exact hmakes.grows
  · exact hchanges.grows

theorem closed_after (h : t.Closed) : (op.after t).Closed := by
  rcases op.changes_after t with ⟨-, hmakes⟩ | ⟨-, hchanges, -⟩
  · exact hmakes.closed h
  · exact hchanges.closed h

variable {t} {place : Location} {bytes : List UInt8}

/-- A file stays a file, and keeps its bytes unless the operation `Writes` there. -/
theorem file_after (h : t.get? place = some (.file bytes)) :
    ∃ bytes', (op.after t).get? place = some (.file bytes') ∧ (bytes' = bytes ∨ op.Writes t place) := by
  rcases op.changes_after t with ⟨-, hmakes⟩ | ⟨hok, hchanges, hfound⟩
  · exact ⟨bytes, (hmakes.file h).resolve_right id, .inl rfl⟩
  · rcases hchanges.file h with hsame | ⟨p, hp, rfl⟩
    · exact ⟨bytes, hsame, .inl rfl⟩
    · obtain ⟨bytes', hfind⟩ := hfound p hp
      obtain ⟨hlocate, hplace⟩ := FileTree.exists_locate_of_find? hfind
      rw [hchanges.grows.workingDirectory] at hlocate hplace
      exact ⟨bytes', hplace, .inr ⟨hok, p, hp, hlocate⟩⟩

variable (t) in
/-- **Every operation is `Orderly`**, in every tree. -/
theorem orderly : op.Orderly t where
  bytes h := by
    obtain ⟨bytes', hfile, rfl | hwrites⟩ := op.file_after h
    · exact .inl hfile
    · exact .inr hwrites
  refused {failure} hfailure place := by
    rcases op.changes_after t with ⟨-, hmakes⟩ | ⟨hok, -⟩
    · exact (hmakes.place place).imp_right fun h => h.resolve_right id
    · rw [hfailure] at hok
      cases hok
  written {p content} hop hok := by
    subst hop
    have hrun : (FileAction.writeText p content).run.run t =
        ((write p content).result t, (write p content).after t) := rfl
    rcases FileAction.changes_writeText hrun with ⟨⟨failure, hfailure⟩, -⟩ | ⟨-, -, hfind⟩
    · rw [hfailure] at hok
      cases hok
    · refine ⟨?_, ?_, FileTree.read_of_find? hfind⟩
      · rw [FileTree.hasFile, hfind]
      · rw [FileTree.hasDirectory, hfind]
        rfl

/-! ## Runs -/

variable {ops : List FileOperation}

theorem grows_afterAll (ops : List FileOperation) (t : FileTree) : t.Grows (afterAll ops t) := by
  induction ops generalizing t with
  | nil => exact .refl t
  | cons op ops ih => exact (op.grows_after t).trans (ih (op.after t))

theorem closed_afterAll (h : t.Closed) : (afterAll ops t).Closed := by
  induction ops generalizing t with
  | nil => exact h
  | cons op ops ih => exact ih (op.closed_after t h)

/-- After a run a file has the bytes that it had, or one of the operations `Writes` there. -/
theorem file_afterAll (h : t.get? place = some (.file bytes)) :
    ∃ bytes', (afterAll ops t).get? place = some (.file bytes') ∧
      (bytes' = bytes ∨ ∃ before op later, ops = before ++ op :: later ∧
        op.Writes (afterAll before t) place) := by
  induction ops generalizing t bytes with
  | nil => exact ⟨bytes, h, .inl rfl⟩
  | cons op ops ih =>
    obtain ⟨bytes₁, hfirst, hbytes₁⟩ := op.file_after h
    obtain ⟨bytes₂, hlast, rfl | ⟨before, later, rest, rfl, hwrites⟩⟩ := ih hfirst
    · refine ⟨bytes₂, hlast, hbytes₁.imp_right fun hwrites => ?_⟩
      exact ⟨[], op, ops, rfl, hwrites⟩
    · exact ⟨bytes₂, hlast, .inr ⟨op :: before, later, rest, rfl, hwrites⟩⟩

/-- **What runs of operations keep.** Directories stay, files stay, and their bytes change only by
an operation that `Writes` there; `Closed` is kept; and every further operation is `Orderly`. -/
theorem orderly_afterAll (t : FileTree) (ops : List FileOperation) :
    (∀ place, t.get? place = some .directory → (afterAll ops t).get? place = some .directory) ∧
    (∀ place bytes, t.get? place = some (.file bytes) →
      ∃ bytes', (afterAll ops t).get? place = some (.file bytes') ∧
      (bytes' = bytes ∨ ∃ before op later, ops = before ++ op :: later ∧
        op.Writes (afterAll before t) place)) ∧
    (t.Closed → (afterAll ops t).Closed) ∧
    ∀ op : FileOperation, op.Orderly (afterAll ops t) :=
  ⟨fun _ => (grows_afterAll ops t).directory, fun _ _ => file_afterAll, closed_afterAll,
    fun op => op.orderly _⟩

/-- A directory is made for a step up from it, a copy of nothing is refused, and so is a text in
place of the directory. -/
theorem orderly_afterAll_detour :
    ∃ t, t = afterAll [.write ⟨"out/../b/f".toList⟩ "x", .copy ⟨"missing".toList⟩ ⟨"c/d".toList⟩]
        (FileTree.empty ["work".toList]) ∧
      t.Closed ∧ t.get? ["work".toList, "out".toList] = some .directory ∧
      t.read ⟨"b/f".toList⟩ = .ok (Text.toBytes "x") ∧
      (∃ failure, (write ⟨"out".toList⟩ "y").result t = .error failure) ∧
      (write ⟨"out".toList⟩ "y").Orderly t := by
  obtain ⟨-, -, hclosed, horderly⟩ := orderly_afterAll (FileTree.empty ["work".toList])
    [.write ⟨"out/../b/f".toList⟩ "x", .copy ⟨"missing".toList⟩ ⟨"c/d".toList⟩]
  exact ⟨_, rfl, hclosed (FileTree.closed_empty _), rfl, rfl, ⟨_, rfl⟩, horderly _⟩

end FileOperation
end UiSkeleton
