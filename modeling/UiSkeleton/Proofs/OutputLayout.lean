/-
Places below the root of the output. Every path of the layout goes on from the root through names of
entries, so it spells the place of the root with these names behind it, and different names give
different places.
-/
import UiSkeleton.ExampleName
import UiSkeleton.Proofs.FileTree.Place

namespace UiSkeleton

namespace Path

theorem foldl_stepTo {entries : List (List Char)} (h : ∀ e ∈ entries, e ≠ ['.', '.']) (place : Location) :
    entries.foldl stepTo place = place ++ entries := by
  induction entries generalizing place with
  | nil => simp
  | cons e entries ih =>
    rw [List.foldl_cons, stepTo, if_neg (h e (by simp)), ih fun d hd => h d (by simp [hd])]
    simp

/-- A path that goes on from another one through some entries. -/
structure Below (root p : Path) (entries : List (List Char)) : Prop where
  isAbsolute : p.isAbsolute = root.isAbsolute
  steps : p.steps = root.steps ++ entries
  isEntry : ∀ e ∈ entries, IsEntry e

theorem Below.refl (root : Path) : root.Below root [] := ⟨rfl, by simp, by simp⟩

theorem Below.join {root p : Path} {entries : List (List Char)} {name : List Char} (h : root.Below p entries)
    (hname : IsEntry name) : root.Below (p.join ⟨name⟩) (entries ++ [name]) where
  isAbsolute := (isAbsolute_join hname.isAbsolute).trans h.isAbsolute
  steps := by rw [steps_join hname.isAbsolute, h.steps, hname.steps, List.append_assoc]
  isEntry e he := by
    rcases List.mem_append.1 he with he | he
    · exact h.isEntry e he
    · rw [List.mem_singleton.1 he]
      exact hname

theorem Below.place {root p : Path} {entries : List (List Char)} (h : root.Below p entries) (wd : Location) :
    p.place wd = root.place wd ++ entries := by
  rw [Path.place, Path.place, h.steps, h.isAbsolute, List.foldl_append,
    foldl_stepTo fun e he => (h.isEntry e he).up]

theorem Below.chars_ne_nil {root p : Path}
    {entries : List (List Char)} (h : root.Below p entries) (hne : entries ≠ []) :
    p.chars ≠ [] := by
  intro hempty
  have hsteps := h.steps
  rw [steps_of_chars hempty] at hsteps
  exact hne (List.append_eq_nil_iff.1 hsteps.symm).2

/-- What is above a path below the root is above the root, or goes on from the root through the
first of the entries. -/
theorem Below.place_above {root p q : Path}
    {entries : List (List Char)} (h : root.Below p entries) (hq : q.Above p)
    (wd : Location) : q.Above root ∨ ∃ rest, rest <+: entries ∧ q.place wd = root.place wd ++ rest := by
  have hsteps := hq.2
  rw [h.steps] at hsteps
  rcases List.prefix_or_prefix_of_prefix hsteps (List.prefix_append root.steps entries) with
      habove | ⟨rest, hrest⟩
  · exact .inl ⟨hq.1.trans h.isAbsolute, habove⟩
  · right
    rw [← hrest] at hsteps
    have hentries : rest <+: entries := List.prefix_append_right_inj _ |>.1 hsteps
    refine ⟨rest, hentries, ?_⟩
    rw [Path.place, Path.place, ← hrest, hq.1, h.isAbsolute, List.foldl_append,
      foldl_stepTo fun e he => (h.isEntry e (hentries.subset he)).up]

theorem isEntry_cons {c : Char} {r : List Char} (hc : c ≠ '.') (hslash : '/' ∉ c :: r) :
    IsEntry (c :: r) where
  slash := hslash
  idle := by simp [isIdle, hc]
  up := by simp [hc]

end Path

theorem ExampleName.isEntry_append (name : ExampleName) {ending : String} (h : '/' ∉ ending.toList) :
    Path.IsEntry (name.text ++ ending).toList := by
  obtain ⟨c, r, hname⟩ := List.exists_cons_of_ne_nil name.nonempty
  have hslash : '/' ∉ name.text.toList := fun hs => absurd (name.plain _ hs) (by decide)
  have hc : c ≠ '.' := by
    rintro rfl
    exact absurd (name.plain '.' (by simp [hname])) (by decide)
  rw [String.toList_append, hname, List.cons_append]
  refine Path.isEntry_cons hc ?_
  rw [← List.cons_append, List.mem_append, not_or, ← hname]
  exact ⟨hslash, h⟩

end UiSkeleton
