/-
Sets kept as strictly ascending lists. The order of a set follows from its members alone, so two
sets with the same members are equal (`SortedSet.ext`), however they were built.
-/

namespace UiSkeleton

open Std (TransOrd LawfulEqOrd)

/-- The list with `a` put at its place, unless it is there already. -/
def insertSorted {α : Type} [Ord α] (a : α) : List α → List α
  | [] => [a]
  | b :: r =>
    match compare a b with
    | .lt => a :: b :: r
    | .eq => b :: r
    | .gt => b :: insertSorted a r

/-- Whether every element comes strictly before all later ones. -/
abbrev Ascending {α : Type} [Ord α] (l : List α) : Prop := l.Pairwise fun a b => compare a b = .lt

theorem mem_insertSorted {α : Type} [Ord α] [LawfulEqOrd α] {a x : α} {l : List α} :
    x ∈ insertSorted a l ↔ x = a ∨ x ∈ l := by
  induction l with
  | nil => simp [insertSorted]
  | cons b r ih =>
    rw [insertSorted]
    split
    · simp
    · rename_i h
      cases Std.LawfulEqOrd.eq_of_compare h
      simp
    · simp [ih]
      grind

theorem ascending_insertSorted {α : Type} [Ord α] [TransOrd α] [LawfulEqOrd α] {a : α} {l : List α}
    (h : Ascending l) : Ascending (insertSorted a l) := by
  induction l with
  | nil => simp [insertSorted]
  | cons b r ih =>
    obtain ⟨hb, hr⟩ := List.pairwise_cons.1 h
    rw [insertSorted]
    split
    · rename_i hab
      refine List.pairwise_cons.2 ⟨fun x hx => ?_, h⟩
      rcases List.mem_cons.1 hx with rfl | hx
      · exact hab
      · exact Std.TransCmp.lt_trans hab (hb x hx)
    · exact h
    · rename_i hab
      refine List.pairwise_cons.2 ⟨fun x hx => ?_, ih hr⟩
      rcases mem_insertSorted.1 hx with rfl | hx
      · exact Std.OrientedCmp.gt_iff_lt.1 hab
      · exact hb x hx

/-- A set as the strictly ascending list of its members. -/
structure SortedSet (α : Type) [Ord α] where
  /-- The members in ascending order. -/
  toList : List α
  /-- No member comes twice and all are in order. -/
  ascending : Ascending toList

namespace SortedSet

variable {α : Type} [Ord α]

/-- The set without members. -/
def empty : SortedSet α := ⟨[], .nil⟩

instance : EmptyCollection (SortedSet α) := ⟨empty⟩

instance : Inhabited (SortedSet α) := ⟨empty⟩

instance : Membership α (SortedSet α) := ⟨fun s a => a ∈ s.toList⟩

instance [DecidableEq α] : DecidableEq (SortedSet α) := fun s t =>
  decidable_of_iff (s.toList = t.toList) ⟨fun h => by cases s; cases t; cases h; rfl, congrArg _⟩

/-- How many members the set has. -/
def size (s : SortedSet α) : Nat := s.toList.length

variable [TransOrd α] [LawfulEqOrd α]

/-- The set with one more member. -/
def insert (s : SortedSet α) (a : α) : SortedSet α :=
  ⟨insertSorted a s.toList, ascending_insertSorted s.ascending⟩

/-- The set with the members of a list added in the list's order. -/
def insertMany (s : SortedSet α) (l : List α) : SortedSet α := l.foldl insert s

/-- The set of the members of a list. -/
def ofList (l : List α) : SortedSet α := empty.insertMany l

omit [TransOrd α] [LawfulEqOrd α] in
theorem mem_iff {s : SortedSet α} {a : α} : a ∈ s ↔ a ∈ s.toList := .rfl

omit [TransOrd α] [LawfulEqOrd α] in
@[simp] theorem not_mem_empty {a : α} : a ∉ (empty : SortedSet α) := List.not_mem_nil

@[simp] theorem mem_insert {s : SortedSet α} {a x : α} : x ∈ s.insert a ↔ x = a ∨ x ∈ s :=
  mem_insertSorted

@[simp] theorem mem_insertMany {s : SortedSet α} {l : List α} {x : α} :
    x ∈ s.insertMany l ↔ x ∈ l ∨ x ∈ s := by
  induction l generalizing s with
  | nil => simp [insertMany]
  | cons b r ih =>
    have : s.insertMany (b :: r) = (s.insert b).insertMany r := rfl
    rw [this, ih]
    simp
    grind

@[simp] theorem mem_ofList {l : List α} {x : α} : x ∈ ofList l ↔ x ∈ l := by simp [ofList]

/-- Ascending lists with the same members are equal. -/
theorem eq_of_ascending {l m : List α} (hl : Ascending l) (hm : Ascending m)
    (h : ∀ x, x ∈ l ↔ x ∈ m) : l = m := by
  induction l generalizing m with
  | nil =>
    cases m with
    | nil => rfl
    | cons b t => exact absurd ((h b).2 (by simp)) (by simp)
  | cons a r ih =>
    cases m with
    | nil => exact absurd ((h a).1 (by simp)) (by simp)
    | cons b t =>
      obtain ⟨ha, hr⟩ := List.pairwise_cons.1 hl
      obtain ⟨hb, ht⟩ := List.pairwise_cons.1 hm
      have hab : a = b := by
        rcases List.mem_cons.1 ((h a).1 (by simp)) with e | hat
        · exact e
        · rcases List.mem_cons.1 ((h b).2 (by simp)) with e | hbr
          · exact e.symm
          · have := Std.OrientedCmp.gt_iff_lt.2 (hb a hat)
            rw [ha b hbr] at this
            cases this
      subst hab
      have hirr : ∀ x : α, compare x x ≠ .lt := fun x => by simp
      congr 1
      refine ih hr ht fun x => ⟨fun hx => ?_, fun hx => ?_⟩
      · rcases List.mem_cons.1 ((h x).1 (List.mem_cons_of_mem _ hx)) with e | hx'
        · exact absurd (e ▸ ha x hx) (hirr a)
        · exact hx'
      · rcases List.mem_cons.1 ((h x).2 (List.mem_cons_of_mem _ hx)) with e | hx'
        · exact absurd (e ▸ hb x hx) (hirr a)
        · exact hx'

/-- **A set is known by its members.** -/
theorem ext {s t : SortedSet α} (h : ∀ x, x ∈ s ↔ x ∈ t) : s = t := by
  have : s.toList = t.toList := eq_of_ascending s.ascending t.ascending h
  cases s
  cases t
  cases this
  rfl

end SortedSet
end UiSkeleton
