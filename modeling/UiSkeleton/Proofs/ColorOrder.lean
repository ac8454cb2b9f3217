/-
The order of colors, and what it makes of a set of them. Colors are ordered by their texts, and
behind digits that spell a name comes the color of this name; so two colors are level only if they
are one, and a set keeps each color once, at a place that has nothing to do with when the color was
put in.
-/
import Mathlib.Data.List.Nodup
import Mathlib.Order.Compare
import UiSkeleton.Color

namespace UiSkeleton

namespace SortedSet

variable {α : Type} [Ord α] [Std.TransOrd α] [Std.LawfulEqOrd α]

omit [Std.TransOrd α] in
theorem nodup_toList (s : SortedSet α) : s.toList.Nodup := by
  refine List.Pairwise.imp (fun {a b} hlt => ?_) s.ascending
  rintro rfl
  rw [Std.LawfulEqOrd.compare_eq_iff_eq.2 rfl] at hlt
  cases hlt

theorem ofList_eq_iff {l m : List α} : ofList l = ofList m ↔ ∀ a, a ∈ l ↔ a ∈ m := by
  constructor
  · intro h a
    rw [← mem_ofList (l := l), h, mem_ofList]
  · intro h
    refine ext fun a => ?_
    rw [mem_ofList, mem_ofList, h a]

end SortedSet

namespace ColorToken

variable {a b c : ColorToken}

/-- `compare` goes by `ColorToken.text`, and digits that spell a name come before it. -/
theorem compare_eq_lt_iff : compare a b = .lt ↔
    a.text < b.text ∨ a.text = b.text ∧ a.isNamed = false ∧ b.isNamed = true := by
  have htext : compare a.text b.text = .lt ↔ a.text < b.text := compareOfLessAndEq_eq_lt
  have hkind : compare a.isNamed b.isNamed = .lt ↔ a.isNamed = false ∧ b.isNamed = true := by
    cases a.isNamed <;> cases b.isNamed <;> decide
  rw [compare_eq, Ordering.then_eq_lt, htext, Std.LawfulEqOrd.compare_eq_iff_eq, hkind]

theorem compare_trans {answer : Ordering} (hab : compare a b = answer) (hbc : compare b c = answer) :
    compare a c = answer := by
  cases answer with
  | lt => exact Std.TransCmp.lt_trans hab hbc
  | eq => exact Std.TransCmp.eq_trans hab hbc
  | gt => exact Std.TransCmp.gt_trans hab hbc

/-- **`compare` is a total order on `ColorToken` that agrees with equality**, by `ColorToken.text`
and then `isNamed`. So `SortedSet.ofList` holds each token of a list once, in ascending order, and
two lists have one set exactly if they have the same members. -/
theorem totalOrder_and_sets :
    (∀ a b : ColorToken, compare a b = .eq ↔ a = b) ∧
    (∀ a b : ColorToken, compare b a = (compare a b).swap) ∧
    (∀ (a b c : ColorToken) (answer : Ordering), compare a b = answer → compare b c = answer →
      compare a c = answer) ∧
    (∀ a b c : ColorToken, (compare a b).isLE → (compare b c).isLE → (compare a c).isLE) ∧
    (∀ a b : ColorToken, compare a b = .lt ↔ a.text < b.text ∨ a.text = b.text ∧ a.isNamed = false ∧
      b.isNamed = true) ∧
    (∀ (l : List ColorToken) (token : ColorToken), (SortedSet.ofList l).toList.count token =
      if token ∈ l then 1 else 0) ∧
    (∀ l : List ColorToken, (SortedSet.ofList l).toList.Pairwise fun a b => compare a b = .lt) ∧
    (∀ l m : List ColorToken, (SortedSet.ofList l).toList = (SortedSet.ofList m).toList ↔
      ∀ token, token ∈ l ↔ token ∈ m) := by
  refine ⟨fun a b => Std.LawfulEqOrd.compare_eq_iff_eq, fun a b => Std.OrientedOrd.eq_swap,
    fun a b c answer => compare_trans, fun a b c => Std.TransOrd.isLE_trans, fun a b => compare_eq_lt_iff, ?_,
    fun l => (SortedSet.ofList l).ascending, ?_⟩
  · intro l token
    rw [(SortedSet.nodup_toList _).count]
    exact if_congr SortedSet.mem_ofList rfl rfl
  · intro l m
    rw [← SortedSet.ofList_eq_iff]
    exact ⟨fun h => SortedSet.ext fun token => by rw [SortedSet.mem_iff, h, SortedSet.mem_iff], congrArg _⟩

example : (SortedSet.ofList [.named .white, .hex "red", .named .red, .hex "00",
    .hex "red"]).toList.map ColorToken.text =
    ["00", "red", "red", "white"] := by decide

end ColorToken
end UiSkeleton
