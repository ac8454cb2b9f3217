/-
Patterns that are rows of characters and groups. Such a pattern spells a replacement, its characters
and its groups in their order, and an occurrence with this replacement in its place is the
occurrence again: a rule that puts back what its pattern spells changes no text
(`replaceAll_eq_self`).
-/
import Mathlib.Data.List.Nodup
import UiSkeleton.Proofs.Pattern.Group

namespace UiSkeleton

/-- The numbers of the groups that a replacement uses. -/
def Replacement.numbers (r : Replacement) : List Nat :=
  r.filterMap fun
    | .number index => some index
    | _ => none

namespace Pattern

/-- Whether a pattern has no group. -/
def groupless : Pattern → Bool
  | .empty | .atom _ | .edge _ => true
  | .seq first second => first.groupless && second.groupless
  | .alt _ left right => left.groupless && right.groupless
  | .star _ _ body | .plus _ _ body => body.groupless
  | .group _ _ => false

/-- The replacement that a row of characters and groups spells. -/
def spelling : Pattern → Option Replacement
  | .empty | .edge _ => some []
  | .atom (.range first last) => if first = last then some [.char first] else none
  | .seq first second =>
    match first.spelling, second.spelling with
    | some r, some s => some (r ++ s)
    | _, _ => none
  | .group index body => if body.groupless then some [.number index] else none
  | _ => none

variable {p : Pattern} {b : Option Char} {w a : List Char} {g : List (Nat × List Char)}

theorem Matches.groups_eq_nil (h : p.Matches b w a g) (hp : p.groupless = true) : g = [] := by
  induction h with
  | empty | atom | edge | stop => rfl
  | seq _ _ ih₁ ih₂ =>
    simp only [groupless, Bool.and_eq_true] at hp
    rw [ih₁ hp.1, ih₂ hp.2, List.append_nil]
  | left _ ih =>
    simp only [groupless, Bool.and_eq_true] at hp
    exact ih hp.1
  | right _ ih =>
    simp only [groupless, Bool.and_eq_true] at hp
    exact ih hp.2
  | more _ _ ih₁ ih₂ | plus _ _ ih₁ ih₂ => rw [ih₁ hp, ih₂ hp, List.append_nil]
  | group => cases hp

theorem spelling_seq {p q : Pattern} {r : Replacement} (h : (Pattern.seq p q).spelling = some r) :
    ∃ s t, p.spelling = some s ∧ q.spelling = some t ∧ r = s ++ t := by
  rw [spelling] at h
  split at h
  · rename_i s t hs ht
    exact ⟨s, t, hs, ht, (Option.some.inj h).symm⟩
  · cases h

theorem spelling_group {index : Nat} {r : Replacement} (h : (Pattern.group index p).spelling = some r) :
    p.groupless = true ∧ r = [.number index] := by
  rw [spelling] at h
  split at h
  · rename_i hp
    exact ⟨hp, (Option.some.inj h).symm⟩
  · cases h

theorem Matches.map_fst_groups {r : Replacement} (h : p.Matches b w a g) (hr : p.spelling = some r) :
    g.map Prod.fst = r.numbers.reverse := by
  induction h generalizing r with
  | empty | edge =>
    cases hr
    rfl
  | @atom charClass =>
    cases charClass <;> try cases hr
    rw [spelling] at hr
    split at hr <;> cases hr
    rfl
  | seq _ _ ih₁ ih₂ =>
    obtain ⟨s, t, hs, ht, rfl⟩ := spelling_seq hr
    rw [List.map_append, ih₁ hs, ih₂ ht, Replacement.numbers, Replacement.numbers, Replacement.numbers,
      List.filterMap_append, List.reverse_append]
  | group h =>
    obtain ⟨hp, rfl⟩ := spelling_group hr
    rw [h.groups_eq_nil hp]
    rfl
  | _ => cases hr

/-- A match is the `spelling` of its pattern, with the texts of its groups. -/
theorem Matches.flatMap_expand {r : Replacement} (h : p.Matches b w a g) (hr : p.spelling = some r)
    {o : Occurrence}
    {names : List (String × Nat)} (ho : ∀ index x, (index, x) ∈ g → o.group? index = some x) :
    r.expand names o = w := by
  rw [Replacement.expand]
  induction h generalizing r with
  | empty | edge =>
    cases hr
    rfl
  | @atom charClass _ c _ hc =>
    cases charClass <;> try cases hr
    rw [spelling] at hr
    split at hr
    · rename_i first last heq
      cases hr
      subst heq
      rw [contains_single.1 hc]
      rfl
    · cases hr
  | seq _ _ ih₁ ih₂ =>
    obtain ⟨s, t, hs, ht, rfl⟩ := spelling_seq hr
    rw [List.flatMap_append, ih₁ hs fun i x hx => ho i x (List.mem_append_right _ hx),
      ih₂ ht fun i x hx => ho i x (List.mem_append_left _ hx)]
  | @group index _ _ w _ _ h =>
    obtain ⟨hp, rfl⟩ := spelling_group hr
    rw [List.flatMap_singleton, ReplacementPart.expand, ho index w List.mem_cons_self]
    rfl
  | _ => cases hr

theorem group?_of_mem {o : Occurrence}
    (hnodup : (o.groups.map Prod.fst).Nodup) (hzero : 0 ∉ o.groups.map Prod.fst)
    {index : Nat} {x : List Char} (hx : (index, x) ∈ o.groups) : o.group? index = some x := by
  have hindex : index ≠ 0 := by
    rintro rfl
    exact hzero (List.mem_map.2 ⟨_, hx, rfl⟩)
  have hsome : (o.groups.lookup index).isSome = true := List.lookup_isSome_iff.2 ⟨_, hx, by simp⟩
  obtain ⟨y, hy⟩ := Option.isSome_iff_exists.1 hsome
  have hsame : (index, y) = (index, x) := List.inj_on_of_nodup_map hnodup (mem_of_lookup hy) hx rfl
  rw [Occurrence.group?, if_neg hindex, hy, (Prod.mk.inj hsame).2]

end Pattern

theorem Matcher.replaceAll_eq_of_found {m : Matcher} {r : Replacement} {text : List Char}
    (h : ∀ o, .found o ∈ m.pieces text → r.expand m.names o = o.text) : m.replaceAll text r = text := by
  have hpieces : (m.pieces text).flatMap Piece.text = text := Pattern.flatMap_text_pieces
  rw [replaceAll]
  refine Eq.trans (List.flatMap_congr fun piece hpiece => ?_) hpieces
  cases piece with
  | plain c => rfl
  | found o => exact h o hpiece

/-- **Putting back the `spelling` of a pattern changes nothing.** -/
theorem Matcher.replaceAll_eq_self {m : Matcher} {r : Replacement} (h : m.pattern.spelling = some r)
    (hnumbers : (0 :: r.numbers).Nodup) (text : List Char) : m.replaceAll text r = text := by
  obtain ⟨hzero, hnodup⟩ := List.nodup_cons.1 hnumbers
  refine Matcher.replaceAll_eq_of_found fun o ho => ?_
  obtain ⟨a, after, -, hmatches⟩ := Pattern.exists_matches_of_mem_pieces ho
  have hgroups : o.groups.map Prod.fst = r.numbers.reverse := hmatches.map_fst_groups h
  refine hmatches.flatMap_expand h fun index x hx => Pattern.group?_of_mem ?_ ?_ hx
  · rwa [hgroups, List.nodup_reverse]
  · rwa [hgroups, List.mem_reverse]

end UiSkeleton
