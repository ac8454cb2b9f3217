/-
Where paths lead. A path spells a location, whatever is in the tree; if the walk along the path gets
through, it ends there. A change of the tree is a `put` at that location, and as long as the tree
only grows, every walk that got through still does. So what a path leads to after an action can be
told from the spelling alone.
-/
import Mathlib.Data.List.TakeWhile
import UiSkeleton.FileTree.Walk
import UiSkeleton.Proofs.Path

namespace UiSkeleton

/-- Where a name that counts leads from a location. -/
def Path.stepTo (place : Location) (name : List Char) : Location :=
  if name = ['.', '.'] then place.dropLast else place ++ [name]

/-- The location that a path spells, seen from a working directory. -/
def Path.place (p : Path) (workingDirectory : Location) : Location :=
  p.steps.foldl stepTo (if p.isAbsolute then [] else workingDirectory)

namespace FileTree

variable {t t' : FileTree} {p : Path} {place place' : Location} {name : List Char}

/-- Nothing is lost and directories stay. -/
structure Grows (t t' : FileTree) : Prop where
  workingDirectory : t'.workingDirectory = t.workingDirectory
  directory : ∀ {place}, t.get? place = some .directory → t'.get? place = some .directory
  entry : ∀ {place}, (t.get? place).isSome → (t'.get? place).isSome

theorem grows_put {entry : FileEntry} (h : t.get? place ≠ some .directory) : t.Grows (t.put place entry) where
  workingDirectory := rfl
  directory {other} hother := by
    have hne : other ≠ place := by
      rintro rfl
      exact h hother
    rwa [get?_put_of_ne hne]
  entry {other} hother := by
    by_cases hplace : other = place
    · subst hplace
      have hne : other ≠ [] := by
        rintro rfl
        exact h get?_root
      simp [get?_put_self hne]
    · rwa [get?_put_of_ne hplace]

/-- Every entry lies in a directory. -/
def Closed (t : FileTree) : Prop := ∀ {place entry}, t.get? place = some entry →
    t.get? place.dropLast = some .directory

theorem Closed.put {entry : FileEntry} (h : t.Closed) (hold : t.get? place ≠ some .directory)
    (hparent : t.get? place.dropLast = some .directory) : (t.put place entry).Closed := by
  intro other found hother
  refine (grows_put hold).directory ?_
  by_cases hplace : other = place
  · rw [hplace]
    exact hparent
  · rw [get?_put_of_ne hplace] at hother
    exact h hother

theorem directory_of_lookup_empty {workingDirectory : Location} {entry : FileEntry}
    (h : (empty workingDirectory).entries.lookup place = some entry) :
    place <+: workingDirectory ∧ entry = .directory := by
  obtain ⟨before, after, hentries, -⟩ := List.lookup_eq_some_iff.1 h
  have hmem : (place, entry) ∈ (empty workingDirectory).entries :=
    hentries ▸ List.mem_append_right _ List.mem_cons_self
  obtain ⟨n, -, hentry⟩ := List.mem_map.1 hmem
  cases hentry
  exact ⟨List.take_prefix _ _, rfl⟩

/-- A new tree has the directories down to the working directory. -/
theorem get?_empty_iff {workingDirectory : Location} {entry : FileEntry} :
    (empty workingDirectory).get? place = some entry ↔ place <+: workingDirectory ∧ entry = .directory := by
  rw [get?]
  split
  · rename_i hroot
    simp [hroot, eq_comm]
  · rename_i hroot
    constructor
    · exact directory_of_lookup_empty
    · rintro ⟨hfront, rfl⟩
      have hpos : 0 < place.length := List.length_pos_iff.2 hroot
      have hmem : (place, FileEntry.directory) ∈ (empty workingDirectory).entries := by
        refine List.mem_map.2 ⟨place.length - 1, List.mem_range.2 ?_, ?_⟩
        · have := hfront.length_le
          omega
        · rw [Nat.sub_add_cancel hpos, ← List.prefix_iff_eq_take.1 hfront]
      obtain ⟨entry, hentry⟩ :=
        Option.isSome_iff_exists.1 (List.lookup_isSome_iff.2 ⟨_, hmem, beq_self_eq_true _⟩)
      rw [hentry, (directory_of_lookup_empty hentry).2]

theorem closed_empty (workingDirectory : Location) : (empty workingDirectory).Closed := by
  intro place entry h
  obtain ⟨hfront, -⟩ := get?_empty_iff.1 h
  exact get?_empty_iff.2 ⟨(List.dropLast_prefix place).trans hfront, rfl⟩

/-! ## Walks -/

theorem directoryAt_eq_ok_iff :
    t.directoryAt place = .ok place' ↔ t.get? place = some .directory ∧ place' = place := by
  rw [directoryAt]
  split <;> rename_i h <;> simp [h, eq_comm]

theorem bind_eq_ok_iff {α β ε : Type} {x : Except ε α} {f : α → Except ε β} {b : β} :
    x >>= f = .ok b ↔ ∃ a, x = .ok a ∧ f a = .ok b := by
  cases x with
  | error e => exact ⟨fun h => (nomatch h), fun ⟨_, h, _⟩ => (nomatch h)⟩
  | ok a => exact ⟨fun h => ⟨a, rfl, h⟩, fun ⟨_, h, hf⟩ => by cases h; exact hf⟩

theorem directory_of_follow (h : t.follow place name = .ok place') : t.get? place = some .directory := by
  obtain ⟨_, hplace, -⟩ := bind_eq_ok_iff.1 h
  exact (directoryAt_eq_ok_iff.1 hplace).1

/-- From a directory a name leads to the directory itself, to the one above it or to an entry in
it. -/
theorem follow_of_directory (h : t.get? place = some .directory) : t.follow place name =
    if Path.isIdle name then .ok place
    else if name = ['.', '.'] then .ok place.dropLast
    else checkName name >>= fun _ =>
      if (t.get? (place ++ [name])).isNone then .error .notFound else .ok (place ++ [name]) := by
  rw [follow, directoryAt_eq_ok_iff.2 ⟨h, rfl⟩]
  simp only [beq_iff_eq]
  show (if _ then _ else _) = _
  split
  · rfl
  · show (if _ then _ else _) = _
    split
    · rfl
    · rfl

theorem followAll_append (names more : List (List Char)) :
    t.followAll place (names ++ more) = t.followAll place names >>= fun place => t.followAll place more := by
  induction names generalizing place with
  | nil => rfl
  | cons name names ih =>
    rw [List.cons_append, followAll, followAll, bind_assoc]
    exact congrArg _ (funext fun _ => ih)

/-- A walk that gets through ends where the names that count lead. -/
theorem followAll_ok {names : List (List Char)} (h : t.followAll place names = .ok place') :
    place' = (names.filter fun name => !Path.isIdle name).foldl Path.stepTo place := by
  induction names generalizing place with
  | nil => cases h; rfl
  | cons name names ih =>
    obtain ⟨next, hnext, hrest⟩ := bind_eq_ok_iff.1 h
    rw [follow_of_directory (directory_of_follow hnext)] at hnext
    rw [ih hrest, List.filter_cons]
    split at hnext
    · rename_i hidle
      cases hnext
      rw [if_neg (by simp [hidle])]
    · rename_i hidle
      rw [if_pos (by simp [hidle]), List.foldl_cons, Path.stepTo]
      split at hnext
      · rename_i hup
        cases hnext
        rw [if_pos hup]
      · rename_i hup
        obtain ⟨_, -, hentry⟩ := bind_eq_ok_iff.1 hnext
        split at hentry
        · cases hentry
        · cases hentry
          rw [if_neg hup]

theorem Grows.follow (hg : t.Grows t') (h : t.follow place name = .ok place') :
    t'.follow place name = .ok place' := by
  have hplace := directory_of_follow h
  rw [follow_of_directory hplace] at h
  rw [follow_of_directory (hg.directory hplace)]
  split at h
  · rename_i hidle
    rw [if_pos hidle]
    exact h
  · rename_i hidle
    rw [if_neg hidle]
    split at h
    · rename_i hup
      rw [if_pos hup]
      exact h
    · rename_i hup
      rw [if_neg hup]
      obtain ⟨u, hcheck, hentry⟩ := bind_eq_ok_iff.1 h
      refine bind_eq_ok_iff.2 ⟨u, hcheck, ?_⟩
      split at hentry
      · cases hentry
      · rename_i hsome
        rw [Option.isNone_iff_eq_none, ← Ne, Option.ne_none_iff_isSome] at hsome
        have hsome' := hg.entry hsome
        rw [if_neg (by simp [Option.isSome_iff_ne_none.1 hsome'])]
        exact hentry

/-- A walk that gets through still does in a tree that has grown. -/
theorem Grows.followAll (hg : t.Grows t')
    {names : List (List Char)} (h : t.followAll place names = .ok place') :
    t'.followAll place names = .ok place' := by
  induction names generalizing place with
  | nil => exact h
  | cons name names ih =>
    obtain ⟨next, hnext, hrest⟩ := bind_eq_ok_iff.1 h
    exact bind_eq_ok_iff.2 ⟨next, hg.follow hnext, ih hrest⟩

theorem Grows.start (hg : t.Grows t') (p : Path) : t'.start p = t.start p := by
  rw [FileTree.start, FileTree.start, hg.workingDirectory]

theorem Grows.locate (hg : t.Grows t') (h : t.locate p = .ok place) : t'.locate p = .ok place := by
  obtain ⟨_, hcheck, hwalk⟩ := bind_eq_ok_iff.1 h
  exact bind_eq_ok_iff.2 ⟨_, hcheck, by rw [hg.start]; exact hg.followAll hwalk⟩

/-- What a path leads to is at its `place`. -/
theorem locate_ok (h : t.locate p = .ok place) : place = p.place t.workingDirectory := by
  obtain ⟨_, -, hwalk⟩ := bind_eq_ok_iff.1 h
  exact followAll_ok hwalk

theorem exists_locate_of_find? {entry : FileEntry} (h : t.find? p = some entry) :
    t.locate p = .ok (p.place t.workingDirectory) ∧ t.get? (p.place t.workingDirectory) = some entry := by
  rw [find?] at h
  split at h
  · rename_i place hplace
    rw [← locate_ok hplace]
    exact ⟨hplace, h⟩
  · cases h

theorem read_of_find? {bytes : List UInt8} (h : t.find? p = some (.file bytes)) : t.read p = .ok bytes := by
  obtain ⟨hlocate, hplace⟩ := exists_locate_of_find? h
  refine bind_eq_ok_iff.2 ⟨_, hlocate, ?_⟩
  rw [hplace]
  rfl

/-! ## The last name -/

theorem dropEmptyEnd_append (names : List (List Char)) :
    ∃ tail, names = dropEmptyEnd names ++ tail ∧ ∀ name ∈ tail, name = [] := by
  refine ⟨(names.reverse.takeWhile List.isEmpty).reverse, ?_, fun name hname => ?_⟩
  · rw [dropEmptyEnd, ← List.reverse_append, List.takeWhile_append_dropWhile, List.reverse_reverse]
  · exact List.isEmpty_iff.1 (List.mem_takeWhile_imp (List.mem_reverse.1 hname))

/-- The walk to the directory of the `lastName`, and what stands behind that name. -/
theorem exists_of_lastName (h : t.lastName p = .ok (place, name)) (hname : isStep name = false) :
    checkPath p = .ok () ∧ t.get? place = some .directory ∧ ∃ init tail, p.names = init ++ name :: tail ∧
      (∀ n ∈ tail, n = []) ∧ t.followAll (t.start p) init = .ok place := by
  obtain ⟨_, hcheck, hafter⟩ := bind_eq_ok_iff.1 h
  obtain ⟨above, hwalk, hlast⟩ := bind_eq_ok_iff.1 hafter
  obtain ⟨_, hdirectory, hpair⟩ := bind_eq_ok_iff.1 hlast
  obtain ⟨hplace, rfl⟩ := directoryAt_eq_ok_iff.1 hdirectory
  cases hpair
  refine ⟨hcheck, hplace, ?_⟩
  obtain ⟨tail, hnames, htail⟩ := dropEmptyEnd_append p.names
  have hne : dropEmptyEnd p.names ≠ [] := fun hnil => by
    rw [hnil] at hname
    exact absurd hname (by decide)
  refine ⟨_, tail, ?_, htail, hwalk⟩
  rw [List.getLastD_eq_getLast?, List.getLast?_eq_some_getLast hne, Option.getD_some, ← List.singleton_append,
    ← List.append_assoc, List.dropLast_concat_getLast hne]
  exact hnames

theorem place_eq_of_names {init tail : List (List Char)} (hnames : p.names = init ++ name :: tail)
    (hname : isStep name = false)
    (htail : ∀ n ∈ tail, n = []) (hwalk : t.followAll (t.start p) init = .ok place) :
    p.place t.workingDirectory = place ++ [name] := by
  obtain ⟨hidle, hup⟩ := Bool.or_eq_false_iff.1 hname
  have htailIdle : tail.filter (fun name => !Path.isIdle name) = [] := by
    rw [List.filter_eq_nil_iff]
    intro n hn
    simp [htail n hn, Path.isIdle]
  have hsteps : p.steps = init.filter (fun name => !Path.isIdle name) ++ [name] := by
    rw [Path.steps, hnames, List.filter_append, List.filter_cons_of_pos (by simp [hidle]), htailIdle]
  rw [followAll_ok hwalk, Path.place, hsteps, List.foldl_append, List.foldl_cons, List.foldl_nil, Path.stepTo,
    if_neg (by simpa using hup)]
  rfl

theorem endsInSlash_of_names {init tail : List (List Char)} (hnames : p.names = init ++ name :: tail)
    (htail : ∀ n ∈ tail, n = []) (hne : tail ≠ []) : p.endsInSlash = true := by
  have hchars : p.chars = ['/'].intercalate p.names := (Text.intercalate_cutWhere '/' p.chars).symm
  have hlast : tail = tail.dropLast ++ [[]] := by
    rw [← htail _ (List.getLast_mem hne), List.dropLast_concat_getLast hne]
  rw [hnames, hlast, ← List.cons_append, ← List.append_assoc, Text.intercalate_concat (by simp),
    List.append_nil] at hchars
  rw [Path.endsInSlash, hchars, List.getLast?_concat]
  rfl

theorem followAll_empty {names : List (List Char)} (h : t.get? place = some .directory)
    (hnames : ∀ n ∈ names, n = []) : t.followAll place names = .ok place := by
  induction names with
  | nil => rfl
  | cons n names ih =>
    have hfollow : t.follow place n = .ok place := by
      rw [follow_of_directory h, hnames n (by simp)]
      rfl
    exact bind_eq_ok_iff.2 ⟨place, hfollow, ih fun m hm => hnames m (by simp [hm])⟩

/-- An entry put under the last name of a path is what the path leads to. -/
theorem find?_put {entry : FileEntry} (h : t.lastName p = .ok (place, name)) (hname : isStep name = false)
    (hcheck : checkName name = .ok ()) (hold : t.get? (place ++ [name]) ≠ some .directory)
    (hend : p.endsInSlash = false ∨ entry = .directory) :
    (t.put (place ++ [name]) entry).find? p = some entry := by
  obtain ⟨hpath, hplace, init, tail, hnames, htail, hwalk⟩ := exists_of_lastName h hname
  obtain ⟨hidle, hup⟩ := Bool.or_eq_false_iff.1 hname
  have hgrows : t.Grows (t.put (place ++ [name]) entry) := grows_put hold
  have hself : (t.put (place ++ [name]) entry).get? (place ++ [name]) = some entry := get?_put_self (by simp)
  have hfollow : (t.put (place ++ [name]) entry).follow place name = .ok (place ++ [name]) := by
    rw [follow_of_directory (hgrows.directory hplace), if_neg (by simp [hidle]),
      if_neg (by simpa using hup), hcheck, hself]
    rfl
  have hrest : (t.put (place ++ [name]) entry).followAll (place ++ [name]) tail = .ok (place ++ [name]) := by
    rcases hend with hend | rfl
    · cases tail with
      | nil => rfl
      | cons n tail =>
        rw [endsInSlash_of_names hnames htail (by simp)] at hend
        cases hend
    · exact followAll_empty hself htail
  have hlocate : (t.put (place ++ [name]) entry).locate p = .ok (place ++ [name]) := by
    refine bind_eq_ok_iff.2 ⟨_, hpath, ?_⟩
    rw [hnames, followAll_append, hgrows.start, hgrows.followAll hwalk]
    exact bind_eq_ok_iff.2 ⟨place, rfl, bind_eq_ok_iff.2 ⟨_, hfollow, hrest⟩⟩
  rw [find?, hlocate]
  exact hself

/-! ## Changes -/

/-- **A directory that is made** stands where its path says and nothing stood, in a directory. -/
theorem makeDirectory_ok (h : t.makeDirectory p = .ok t') :
    t.get? (p.place t.workingDirectory) = none ∧ t.get? (p.place t.workingDirectory).dropLast =
      some .directory ∧
      t' = t.put (p.place t.workingDirectory) .directory ∧ t'.find? p = some .directory := by
  obtain ⟨⟨place, name⟩, hlast, hafter⟩ := bind_eq_ok_iff.1 h
  simp only at hafter
  split at hafter
  · cases hafter
  · rename_i hname
    rw [Bool.not_eq_true] at hname
    obtain ⟨_, hcheck, hput⟩ := bind_eq_ok_iff.1 hafter
    split at hput
    · cases hput
    · rename_i hnone
      cases hput
      obtain ⟨-, hplace, init, tail, hnames, htail, hwalk⟩ := exists_of_lastName hlast hname
      have hnew : t.get? (place ++ [name]) = none := by simpa using hnone
      rw [place_eq_of_names hnames hname htail hwalk, List.dropLast_concat]
      exact ⟨hnew, hplace, rfl, find?_put hlast hname hcheck (by simp [hnew]) (.inr rfl)⟩

/-- **A file that is written** stands where its path says, in a directory, and no directory stood
there. -/
theorem write_ok {bytes : List UInt8} (h : t.write p bytes = .ok t') :
    t.get? (p.place t.workingDirectory) ≠ some .directory ∧
      t.get? (p.place t.workingDirectory).dropLast = some .directory ∧
      t' = t.put (p.place t.workingDirectory) (.file bytes) ∧ t'.find? p = some (.file bytes) := by
  obtain ⟨⟨place, name⟩, hlast, hafter⟩ := bind_eq_ok_iff.1 h
  simp only at hafter
  split at hafter
  · cases hafter
  · rename_i hname
    rw [Bool.not_eq_true, Bool.or_eq_false_iff] at hname
    obtain ⟨_, hcheck, hput⟩ := bind_eq_ok_iff.1 hafter
    split at hput
    · cases hput
    · rename_i hnone
      cases hput
      obtain ⟨-, hplace, init, tail, hnames, htail, hwalk⟩ := exists_of_lastName hlast hname.1
      have hold : t.get? (place ++ [name]) ≠ some .directory := by simpa using hnone
      rw [place_eq_of_names hnames hname.1 htail hwalk, List.dropLast_concat]
      exact ⟨hold, hplace, rfl, find?_put hlast hname.1 hcheck hold (.inl hname.2)⟩

end FileTree
end UiSkeleton
