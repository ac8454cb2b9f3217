/-
What an action changes, place by place. A tree changes in two ways only: a directory is made where
nothing was, or the bytes of a file are written. An action that fails has written nothing, but it
keeps the directories that it made on its way, and these lie along the path that it was given.
-/
import UiSkeleton.FileTree.Action
import UiSkeleton.Proofs.FileTree.Place

namespace UiSkeleton

/-- The places that a path leads past: those of the paths above it, and its own. -/
def Path.Along (p : Path) (workingDirectory place : Location) : Prop :=
  ∃ q : Path, q.Above p ∧ place = q.place workingDirectory

/-- The places of some paths. -/
def Path.PlaceOf (paths : List Path) (workingDirectory place : Location) : Prop :=
  ∃ q ∈ paths, place = q.place workingDirectory

theorem Path.PlaceOf.mono {paths more : List Path} {workingDirectory place : Location}
    (h : PlaceOf paths workingDirectory place) (hmore : paths ⊆ more) :
    PlaceOf more workingDirectory place := by
  obtain ⟨q, hq, hplace⟩ := h
  exact ⟨q, hmore hq, hplace⟩

theorem Path.PlaceOf.along {p : Path} {workingDirectory place : Location}
    (h : PlaceOf (p :: p.ancestors) workingDirectory place) : p.Along workingDirectory place := by
  obtain ⟨q, hq, hplace⟩ := h
  exact ⟨q, Path.above_of_mem_ancestors hq, hplace⟩

namespace FileTree

/-- Every place has what it had, or a directory was made there where nothing was, or it is one of
those that something was written to; and whatever is new lies in a directory. -/
structure Changes (made wrote : Location → Prop) (t t' : FileTree) : Prop where
  grows : t.Grows t'
  closed : t.Closed → t'.Closed
  place : ∀ place, t'.get? place = t.get? place ∨
    (t.get? place = none ∧ t'.get? place = some .directory ∧ made place) ∨ wrote place

/-- Nothing happened but that directories were made. -/
abbrev Makes (made : Location → Prop) (t t' : FileTree) : Prop := Changes made (fun _ => False) t t'

variable {made made' wrote wrote' : Location → Prop} {t t' t'' : FileTree} {p : Path}

theorem Grows.refl (t : FileTree) : t.Grows t := ⟨rfl, id, id⟩

theorem Grows.trans (h : t.Grows t') (h' : t'.Grows t'') : t.Grows t'' where
  workingDirectory := h'.workingDirectory.trans h.workingDirectory
  directory hplace := h'.directory (h.directory hplace)
  entry hplace := h'.entry (h.entry hplace)

theorem Changes.refl (t : FileTree) : Changes made wrote t t := ⟨.refl t, id, fun _ => .inl rfl⟩

theorem Changes.mono (h : Changes made wrote t t') (hmade : ∀ place, made place → made' place)
    (hwrote : ∀ place, wrote place → wrote' place) : Changes made' wrote' t t' := by
  refine ⟨h.grows, h.closed, fun place => ?_⟩
  rcases h.place place with hsame | ⟨hnone, hdirectory, hplace⟩ | hplace
  · exact .inl hsame
  · exact .inr (.inl ⟨hnone, hdirectory, hmade place hplace⟩)
  · exact .inr (.inr (hwrote place hplace))

theorem Changes.trans (h : Changes made wrote t t') (h' : Changes made wrote t' t'') :
    Changes made wrote t t'' := by
  refine ⟨h.grows.trans h'.grows, fun hclosed => h'.closed (h.closed hclosed), fun place => ?_⟩
  rcases h.place place with hsame | ⟨hnone, hdirectory, hplace⟩ | hplace
  · rw [← hsame]
    exact h'.place place
  · exact .inr (.inl ⟨hnone, h'.grows.directory hdirectory, hplace⟩)
  · exact .inr (.inr hplace)

/-- A file keeps its bytes where nothing is written. -/
theorem Changes.file (h : Changes made wrote t t') {place : Location} {bytes : List UInt8}
    (hfile : t.get? place = some (.file bytes)) : t'.get? place = some (.file bytes) ∨ wrote place := by
  rcases h.place place with hsame | ⟨hnone, -, -⟩ | hplace
  · exact .inl (hsame.trans hfile)
  · rw [hnone] at hfile
    cases hfile
  · exact .inr hplace

theorem Makes.changes (h : Makes made t t') (h' : Changes made (· = p.place t'.workingDirectory) t' t'') :
    Changes made (· = p.place t.workingDirectory) t t'' := by
  rw [h.grows.workingDirectory] at h'
  exact (Changes.mono h (fun _ => id) fun _ => False.elim).trans h'

theorem changes_put {place : Location} {entry : FileEntry} (hold : t.get? place ≠ some .directory)
    (hparent : t.get? place.dropLast = some .directory) (hwrote : wrote place) :
    Changes made wrote t (t.put place entry) := by
  refine ⟨grows_put hold, fun hclosed => hclosed.put hold hparent, fun other => ?_⟩
  by_cases hother : other = place
  · exact .inr (.inr (hother ▸ hwrote))
  · exact .inl (get?_put_of_ne hother)

theorem makes_makeDirectory (h : t.makeDirectory p = .ok t') :
    Makes (· = p.place t.workingDirectory) t t' := by
  obtain ⟨hnone, hparent, rfl, -⟩ := makeDirectory_ok h
  have hold : t.get? (p.place t.workingDirectory) ≠ some .directory := by simp [hnone]
  have hne : p.place t.workingDirectory ≠ [] := fun hroot => by
    rw [hroot] at hnone
    cases hnone
  refine ⟨grows_put hold, fun hclosed => hclosed.put hold hparent, fun other => ?_⟩
  by_cases hother : other = p.place t.workingDirectory
  · subst hother
    exact .inr (.inl ⟨hnone, get?_put_self hne, rfl⟩)
  · exact .inl (get?_put_of_ne hother)

theorem changes_write {bytes : List UInt8} (h : t.write p bytes = .ok t') :
    Changes made (· = p.place t.workingDirectory) t t' := by
  obtain ⟨hold, hparent, rfl, -⟩ := write_ok h
  exact changes_put hold hparent rfl

/-- Copying a file writes to the target only, first nothing and then the bytes. -/
theorem changes_copy {source : Path} (h : t.copy source p = .ok t') :
    Changes made (· = p.place t.workingDirectory) t t' ∧ ∃ bytes, t'.find? p = some (.file bytes) := by
  obtain ⟨_, -, hafter⟩ := bind_eq_ok_iff.1 h
  obtain ⟨emptied, hempty, hread⟩ := bind_eq_ok_iff.1 hafter
  obtain ⟨bytes, -, hwrite⟩ := bind_eq_ok_iff.1 hread
  have hfirst : Changes made (· = p.place t.workingDirectory) t emptied := changes_write hempty
  have hsecond : Changes made (· = p.place emptied.workingDirectory) emptied t' := changes_write hwrite
  rw [hfirst.grows.workingDirectory] at hsecond
  exact ⟨hfirst.trans hsecond, bytes, (write_ok hwrite).2.2.2⟩

end FileTree

namespace FileAction

open FileTree (Changes Makes)

variable {t t' : FileTree} {p : Path}

theorem run_bind {σ α β : Type}
    (x : ExceptT Failure (StateM σ) α) (f : α → ExceptT Failure (StateM σ) β) (s : σ) :
    (x >>= f).run.run s = match x.run.run s with
      | (.error failure, s') => (.error failure, s')
      | (.ok a, s') => (f a).run.run s' := by
  rw [ExceptT.run_bind, StateT.run_bind]
  rcases x.run.run s with ⟨_ | _, _⟩ <;> rfl

theorem run_get_bind {σ α : Type} (f : σ → ExceptT Failure (StateM σ) α) (s : σ) :
    (get >>= f).run.run s = (f s).run.run s := rfl

variable {context : String} {f : FileTree → Except FileFault FileTree}

theorem run_change_ok (h : f t = .ok t') : (change context f).run.run t = (.ok (), t') := by
  rw [change, run_get_bind, h]
  rfl

/-- A change that is refused leaves the tree as it is. -/
theorem run_change_error {fault : FileFault} (h : f t = .error fault) :
    (change context f).run.run t = (.error ⟨[context], .file fault⟩, t) := by
  rw [change, run_get_bind, h]
  rfl

/-! ## Directories -/

theorem makes_addDirectory (p : Path) (t : FileTree) :
    Makes (· = p.place t.workingDirectory) t (addDirectory p t).2 ∧
    ((addDirectory p t).1 = .ok () → (addDirectory p t).2.find? p = some .directory) := by
  rw [addDirectory]
  split
  · rename_i t' ht'
    exact ⟨FileTree.makes_makeDirectory ht', fun _ => (FileTree.makeDirectory_ok ht').2.2.2⟩
  · refine ⟨.refl t, fun hok => ?_⟩
    simp only at hok ⊢
    split at hok
    · rename_i hdirectory
      exact beq_iff_eq.1 hdirectory
    · cases hok

/-- Of some paths, each in the next one, only their own places become directories. -/
theorem makes_addDirectories : ∀ (paths : List Path) (t : FileTree),
    Makes (Path.PlaceOf paths t.workingDirectory) t (addDirectories paths t).2 ∧
      ((addDirectories paths t).1 = .ok () → ∀ p ∈ paths.head?, p.chars ≠ [] →
        (addDirectories paths t).2.find? p = some .directory)
  | [], t => ⟨.refl t, fun h => nomatch h⟩
  | p :: above, t => by
    have ih := makes_addDirectories above t
    have hself : ∀ u : FileTree, u.workingDirectory = t.workingDirectory →
        Makes (Path.PlaceOf (p :: above) t.workingDirectory) u (addDirectory p u).2 := fun u hu =>
      (makes_addDirectory p u).1.mono (fun place hplace => ⟨p, List.mem_cons_self, hu ▸ hplace⟩) fun _ => id
    have habove : Makes (Path.PlaceOf (p :: above) t.workingDirectory) t (addDirectories above t).2 :=
      ih.1.mono (fun place hplace => hplace.mono (List.subset_cons_self p above)) fun _ => id
    rw [addDirectories]
    split
    · rename_i hempty
      refine ⟨.refl t, fun _ q hq hne => ?_⟩
      cases hq
      exact absurd (List.isEmpty_iff.1 hempty) hne
    · split
      · split
        · rename_i t' hadded
          rw [hadded] at habove
          refine ⟨habove.trans (hself t' habove.grows.workingDirectory), fun hok q hq _ => ?_⟩
          cases hq
          exact (makes_addDirectory p t').2 hok
        · rename_i hrefused
          exact ⟨habove, fun hok => (hrefused _ (Prod.ext hok rfl)).elim⟩
      · refine ⟨hself t rfl, fun hok q hq _ => ?_⟩
        cases hq
        exact (makes_addDirectory p t).2 hok

/-- **`ensureDirectory`** makes its directory and some above it, and nothing else, also when it
fails. -/
theorem makes_ensureDirectory {result : Except Failure Unit}
    (h : (ensureDirectory p).run.run t = (result, t')) :
    Makes (Path.PlaceOf (p :: p.ancestors) t.workingDirectory) t t' ∧
      (result = .ok () → p.chars ≠ [] → t'.find? p = some .directory) := by
  obtain ⟨hmakes, hfound⟩ := makes_addDirectories (p :: p.ancestors) t
  rw [ensureDirectory, run_get_bind] at h
  split at h
  · rename_i hdirectory
    cases h
    exact ⟨.refl t, fun _ _ => beq_iff_eq.1 hdirectory⟩
  · rcases hadd : addDirectories (p :: p.ancestors) t with ⟨fault | u, t₁⟩
    · rw [hadd] at h hmakes
      cases h
      exact ⟨hmakes, fun hok => nomatch hok⟩
    · rw [hadd] at h hmakes hfound
      cases h
      exact ⟨hmakes, fun _ hne => hfound rfl p rfl hne⟩

theorem makes_ensureParent {result : Except Failure Unit} (h : (ensureParent p).run.run t = (result, t')) :
    Makes (Path.PlaceOf p.ancestors t.workingDirectory) t t' := by
  rw [ensureParent] at h
  split at h
  · cases h
    exact .refl t
  · rename_i parent hparent
    rw [Path.ancestors_of_parent? hparent]
    exact (makes_ensureDirectory h).1

/-! ## Files -/

/-- A change behind `ensureParent` is refused, or done after directories were made above it. -/
theorem run_ensureParent_change {result : Except Failure Unit}
    (h : (ensureParent p >>= fun _ => change context f).run.run t = (result, t')) :
    ((∃ failure, result = .error failure) ∧ Makes (Path.PlaceOf p.ancestors t.workingDirectory) t t') ∨
      (result = .ok () ∧ ∃ t₁, Makes (Path.PlaceOf p.ancestors t.workingDirectory) t t₁ ∧ f t₁ = .ok t') := by
  rw [run_bind] at h
  rcases hparent : (ensureParent p).run.run t with ⟨failure | u, t₁⟩
  · rw [hparent] at h
    cases h
    exact .inl ⟨⟨_, rfl⟩, makes_ensureParent hparent⟩
  · rw [hparent] at h
    simp only at h
    cases hf : f t₁ with
    | error fault =>
      rw [run_change_error hf] at h
      cases h
      exact .inl ⟨⟨_, rfl⟩, makes_ensureParent hparent⟩
    | ok t₂ =>
      rw [run_change_ok hf] at h
      cases h
      exact .inr ⟨rfl, t₁, makes_ensureParent hparent, hf⟩

/-- **`writeText`** makes directories above its path. If it fails nothing else happens, and if it
succeeds the path leads to the file. -/
theorem changes_writeText {content : String} {result : Except Failure Unit}
    (h : (writeText p content).run.run t = (result, t')) :
    ((∃ failure, result = .error failure) ∧ Makes (Path.PlaceOf p.ancestors t.workingDirectory) t t') ∨
      (result = .ok () ∧ Changes (Path.PlaceOf p.ancestors t.workingDirectory)
        (· = p.place t.workingDirectory) t t' ∧
        t'.find? p = some (.file (Text.toBytes content))) := by
  refine (run_ensureParent_change h).imp_right fun ⟨hok, t₁, hmakes, hwrite⟩ => ?_
  exact ⟨hok, hmakes.changes (FileTree.changes_write hwrite), (FileTree.write_ok hwrite).2.2.2⟩

/-- **`copyFile`** makes directories above the target. If it fails nothing else happens, and if it
succeeds the target is a file. -/
theorem changes_copyFile {source : Path} {result : Except Failure Unit}
    (h : (copyFile source p).run.run t = (result, t')) :
    ((∃ failure, result = .error failure) ∧ Makes (Path.PlaceOf p.ancestors t.workingDirectory) t t') ∨
      (result = .ok () ∧ Changes (Path.PlaceOf p.ancestors t.workingDirectory)
        (· = p.place t.workingDirectory) t t' ∧
        ∃ bytes, t'.find? p = some (.file bytes)) := by
  rw [copyFile, run_get_bind] at h
  split at h
  · cases h
    exact .inl ⟨⟨_, rfl⟩, .refl t⟩
  · refine (run_ensureParent_change h).imp_right fun ⟨hok, t₁, hmakes, hcopy⟩ => ?_
    obtain ⟨hchanges, hfound⟩ := FileTree.changes_copy hcopy
    exact ⟨hok, hmakes.changes hchanges, hfound⟩

end FileAction
end UiSkeleton
