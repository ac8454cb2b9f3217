/-
Actions within bounds. Bounds say where entries may be added and which bytes may be written where; a
tree evolves within them if nothing else happens to it. Every action on files evolves the tree, also
when it fails halfway, and what is found after it succeeded is found from then on, as long as only
the same bytes may be written there.
-/
import UiSkeleton.Proofs.FileTree.Change

namespace UiSkeleton

/-- What may happen to a tree. -/
structure Bounds where
  /-- The working directory. -/
  start : Location
  /-- Where entries may be added. -/
  made : Location → Prop
  /-- Which bytes may be written where. -/
  wrote : Location → List UInt8 → Prop

namespace Bounds

/-- The changes from one tree to the other stay within the bounds: directories stay, files keep
their bytes or get others that may be written there, and whatever is new may be there. -/
structure Evolves (b : Bounds) (t t' : FileTree) : Prop where
  workingDirectory : t'.workingDirectory = t.workingDirectory
  directory : ∀ {place}, t.get? place = some .directory → t'.get? place = some .directory
  file : ∀ {place bytes}, t.get? place = some (.file bytes) →
    ∃ bytes', t'.get? place = some (.file bytes') ∧ (bytes' = bytes ∨ b.wrote place bytes')
  new : ∀ {place}, t.get? place = none → (t'.get? place).isSome → b.made place

variable {b : Bounds} {t t' t'' : FileTree} {p : Path}

theorem Evolves.refl (t : FileTree) : b.Evolves t t where
  workingDirectory := rfl
  directory := id
  file h := ⟨_, h, .inl rfl⟩
  new h hnew := by simp [h] at hnew

theorem Evolves.trans (h : b.Evolves t t') (h' : b.Evolves t' t'') : b.Evolves t t'' where
  workingDirectory := h'.workingDirectory.trans h.workingDirectory
  directory hplace := h'.directory (h.directory hplace)
  file {place bytes} hfile := by
    obtain ⟨bytes', hfile', hbytes'⟩ := h.file hfile
    obtain ⟨bytes'', hfile'', hbytes''⟩ := h'.file hfile'
    refine ⟨bytes'', hfile'', ?_⟩
    rcases hbytes'' with rfl | hwrote
    · exact hbytes'
    · exact .inr hwrote
  new {place} hnone hnew := by
    cases hplace : t'.get? place with
    | none => exact h'.new hplace hnew
    | some entry => exact h.new hnone (by simp [hplace])

theorem Evolves.grows (h : b.Evolves t t') : t.Grows t' where
  workingDirectory := h.workingDirectory
  directory := h.directory
  entry {place} hplace := by
    obtain ⟨entry, hentry⟩ := Option.isSome_iff_exists.1 hplace
    cases entry with
    | directory => simp [h.directory hentry]
    | file bytes =>
      obtain ⟨bytes', hfile, -⟩ := h.file hentry
      simp [hfile]

/-- A tree `Evolves` by directories where entries may be added, and by files where their bytes may
be written. -/
theorem Evolves.of_changes {made wrote : Location → Prop} (h : FileTree.Changes made wrote t t')
    (hmade : ∀ place, made place → b.made place) (hwrote : ∀ place, wrote place →
      b.made place ∧ ∃ bytes, t'.get? place = some (.file bytes) ∧ b.wrote place bytes) : b.Evolves t t' where
  workingDirectory := h.grows.workingDirectory
  directory := h.grows.directory
  file {place bytes} hfile := by
    rcases h.file hfile with hsame | hplace
    · exact ⟨bytes, hsame, .inl rfl⟩
    · obtain ⟨-, bytes', hfile', hbytes'⟩ := hwrote place hplace
      exact ⟨bytes', hfile', .inr hbytes'⟩
  new {place} hnone hnew := by
    rcases h.place place with hsame | ⟨-, -, hplace⟩ | hplace
    · rw [hsame, hnone] at hnew
      cases hnew
    · exact hmade place hplace
    · exact (hwrote place hplace).1

theorem Evolves.of_target {bytes : List UInt8} (hstart : t.workingDirectory = b.start)
    (hmade : b.made (p.place b.start)) (hwrote : b.wrote (p.place b.start) bytes)
    (h : FileTree.Changes b.made (· = p.place t.workingDirectory) t t')
    (hfind : t'.find? p = some (.file bytes)) : b.Evolves t t' := by
  obtain ⟨-, hplace⟩ := FileTree.exists_locate_of_find? hfind
  rw [h.grows.workingDirectory, hstart] at hplace
  rw [hstart] at h
  refine .of_changes h (fun _ => id) ?_
  rintro place rfl
  exact ⟨hmade, bytes, hplace, hwrote⟩

theorem evolves_write {bytes : List UInt8} (hstart : t.workingDirectory = b.start)
    (hmade : b.made (p.place b.start))
    (hwrote : b.wrote (p.place b.start) bytes) (h : t.write p bytes = .ok t') : b.Evolves t t' :=
  .of_target hstart hmade hwrote (FileTree.changes_write h) (FileTree.write_ok h).2.2.2

theorem evolves_copy {source : Path} (hstart : t.workingDirectory = b.start)
    (hmade : b.made (p.place b.start))
    (hwrote : ∀ bytes, b.wrote (p.place b.start) bytes) (h : t.copy source p = .ok t') : b.Evolves t t' := by
  obtain ⟨hchanges, bytes, hfind⟩ := FileTree.changes_copy h
  exact .of_target hstart hmade (hwrote bytes) hchanges hfind

/-! ## What stays -/

/-- What is true of a tree stays true within the bounds. -/
def Stable (b : Bounds) (P : FileTree → Prop) : Prop :=
  ∀ {t t'}, t.workingDirectory = b.start → b.Evolves t t' → P t → P t'

theorem stable_directory (p : Path) : b.Stable fun t => t.find? p = some .directory := by
  intro t t' _ h hfind
  obtain ⟨hlocate, hplace⟩ := FileTree.exists_locate_of_find? hfind
  rw [FileTree.find?, h.grows.locate hlocate]
  exact h.directory hplace

/-- A file keeps its bytes where no other bytes may be written. -/
theorem stable_file {bytes : List UInt8} (hwrote : ∀ other, b.wrote (p.place b.start) other → other = bytes) :
    b.Stable fun t => t.find? p = some (.file bytes) := by
  intro t t' hstart h hfind
  obtain ⟨hlocate, hplace⟩ := FileTree.exists_locate_of_find? hfind
  obtain ⟨bytes', hplace', hbytes'⟩ := h.file hplace
  show t'.find? p = _
  rw [FileTree.find?, h.grows.locate hlocate]
  show t'.get? _ = _
  rw [hplace']
  rcases hbytes' with rfl | hbytes'
  · rfl
  · rw [hwrote bytes' (hstart ▸ hbytes')]

theorem stable_true : b.Stable fun _ => True := fun _ _ _ => trivial

/-! ## Computations on a tree -/

section Keeps

variable {σ α β : Type} {view : σ → FileTree}

/-- Whatever comes of a computation, its tree evolves within the bounds; and when it gives a result,
this and the tree have a property. -/
def Keeps (b : Bounds) (view : σ → FileTree)
    (x : ExceptT Failure (StateM σ) α) (Q : α → FileTree → Prop) : Prop :=
  ∀ s, (view s).workingDirectory = b.start → b.Evolves (view s) (view (x.run.run s).2) ∧
    ∀ a, (x.run.run s).1 = .ok a → Q a (view (x.run.run s).2)

theorem Keeps.mono {x : ExceptT Failure (StateM σ) α} {Q Q' : α → FileTree → Prop} (h : b.Keeps view x Q)
    (hQ : ∀ a t, Q a t → Q' a t) : b.Keeps view x Q' := fun s hs =>
  ⟨(h s hs).1, fun a ha => hQ a _ ((h s hs).2 a ha)⟩

theorem keeps_pure {a : α} {Q : α → FileTree → Prop} (h : ∀ t, Q a t) :
    b.Keeps view (pure a : ExceptT Failure (StateM σ) α) Q := by
  refine fun s _ => ⟨Evolves.refl _, fun c hc => ?_⟩
  cases hc
  exact h _

theorem keeps_throw {f : Failure} {Q : α → FileTree → Prop} :
    b.Keeps view (throw f : ExceptT Failure (StateM σ) α) Q :=
  fun _ _ => ⟨Evolves.refl _, fun _ hc => nomatch hc⟩

theorem keeps_get : b.Keeps view (get : ExceptT Failure (StateM σ) σ) fun _ _ => True :=
  fun _ _ => ⟨Evolves.refl _, fun _ _ => trivial⟩

theorem keeps_modify {f : σ → σ} (h : ∀ s, view (f s) = view s) :
    b.Keeps view (modify f : ExceptT Failure (StateM σ) Unit) fun _ _ => True := by
  refine fun s _ => ⟨?_, fun _ _ => trivial⟩
  show b.Evolves (view s) (view (f s))
  rw [h s]
  exact Evolves.refl _

/-- What the first computation leaves stays true through the second one. -/
theorem Keeps.bind {x : ExceptT Failure (StateM σ) α} {f : α → ExceptT Failure (StateM σ) β}
    {P : α → FileTree → Prop} {Q : β → FileTree → Prop} (hx : b.Keeps view x P) (hP : ∀ a, b.Stable (P a))
    (hf : ∀ a, b.Keeps view (f a) fun c t => P a t → Q c t) : b.Keeps view (x >>= f) Q := by
  intro s hs
  obtain ⟨hevolves, hresult⟩ := hx s hs
  rw [FileAction.run_bind]
  rcases hrun : x.run.run s with ⟨_ | a, s'⟩
  · rw [hrun] at hevolves
    exact ⟨hevolves, fun c hc => nomatch hc⟩
  · rw [hrun] at hevolves hresult
    obtain ⟨hafter, hlast⟩ := hf a s' (hevolves.workingDirectory.trans hs)
    refine ⟨hevolves.trans hafter, fun c hc => ?_⟩
    exact hlast c hc (hP a (hevolves.workingDirectory.trans hs) hafter (hresult a rfl))

theorem Keeps.next {x : ExceptT Failure (StateM σ) α} {f : α → ExceptT Failure (StateM σ) β}
    {Q : β → FileTree → Prop} (hx : b.Keeps view x fun _ _ => True) (hf : ∀ a, b.Keeps view (f a) Q) :
    b.Keeps view (x >>= f) Q :=
  hx.bind (fun _ => stable_true) fun a => (hf a).mono fun _ _ h _ => h

theorem Keeps.catch {x : ExceptT Failure (StateM σ) α} {handle : Failure → ExceptT Failure (StateM σ) α}
    {Q : α → FileTree → Prop} (hx : b.Keeps view x Q) (hhandle : ∀ f, b.Keeps view (handle f) Q) :
    b.Keeps view (tryCatch x handle) Q := by
  intro s hs
  obtain ⟨hevolves, hresult⟩ := hx s hs
  rw [ExceptT.run_tryCatch, StateT.run_bind]
  rcases hrun : x.run.run s with ⟨f | a, s'⟩
  · rw [hrun] at hevolves
    obtain ⟨hafter, hlast⟩ := hhandle f s' (hevolves.workingDirectory.trans hs)
    exact ⟨hevolves.trans hafter, hlast⟩
  · rw [hrun] at hevolves hresult
    exact ⟨hevolves, hresult⟩

end Keeps

/-! ## Actions -/

section Actions

open FileAction

theorem keeps_change {context : String} {f : FileTree → Except FileFault FileTree} {Q : FileTree → Prop}
    (h : ∀ {t t'}, t.workingDirectory = b.start → f t = .ok t' → b.Evolves t t' ∧ Q t') :
    b.Keeps id (change context f) fun _ => Q := by
  intro t (ht : t.workingDirectory = b.start)
  cases hf : f t with
  | ok t' =>
    rw [run_change_ok hf]
    exact ⟨(h ht hf).1, fun _ _ => (h ht hf).2⟩
  | error fault =>
    rw [run_change_error hf]
    refine ⟨Evolves.refl _, fun _ hc => ?_⟩
    cases hc

/-- The directories along a path may be made. -/
def MadeAlong (b : Bounds) (p : Path) : Prop := ∀ q : Path, q.Above p → b.made (q.place b.start)

theorem keeps_ensureDirectory (h : b.MadeAlong p) :
    b.Keeps id (ensureDirectory p) fun _ t => p.chars ≠ [] → t.find? p = some .directory := by
  intro t (ht : t.workingDirectory = b.start)
  rcases hrun : (ensureDirectory p).run.run t with ⟨result, t'⟩
  obtain ⟨hmakes, hfound⟩ := makes_ensureDirectory hrun
  rw [ht] at hmakes
  refine ⟨.of_changes hmakes (fun place hplace => ?_) fun _ => False.elim, fun _ hok => hfound hok⟩
  obtain ⟨q, hq, rfl⟩ := hplace.along
  exact h q hq

theorem keeps_ensureParent (h : b.MadeAlong p) : b.Keeps id (ensureParent p) fun _ _ => True := by
  rw [ensureParent]
  split
  · exact keeps_pure fun _ => trivial
  · rename_i parent hparent
    exact (keeps_ensureDirectory fun q hq => h q (hq.trans (Path.above_of_parent? hparent))).mono
      fun _ _ _ => trivial

theorem keeps_writeText {content : String} (h : b.MadeAlong p)
    (hwrote : b.wrote (p.place b.start) (Text.toBytes content)) :
    b.Keeps id (writeText p content) fun _ t => t.find? p = some (.file (Text.toBytes content)) :=
  (keeps_ensureParent h).next fun _ => keeps_change fun ht hwrite =>
    ⟨evolves_write ht (h p (Path.Above.refl p)) hwrote hwrite, (FileTree.write_ok hwrite).2.2.2⟩

theorem keeps_copyFile {source : Path} (h : b.MadeAlong p)
    (hwrote : ∀ bytes, b.wrote (p.place b.start) bytes) :
    b.Keeps id (copyFile source p) fun _ _ => True := by
  have hcopy : b.Keeps id (ensureParent p >>= fun _ =>
      change ("Failed to copy " ++ source.quoted ++ " to " ++ p.quoted) fun t => t.copy source p)
        fun _ _ => True :=
    (keeps_ensureParent h).next fun _ => keeps_change fun ht hcopy =>
      ⟨evolves_copy ht (h p (Path.Above.refl p)) hwrote hcopy, trivial⟩
  refine keeps_get.next fun t => ?_
  simp only
  split
  · exact keeps_throw.next fun _ => hcopy
  · exact hcopy

end Actions

end Bounds
end UiSkeleton
