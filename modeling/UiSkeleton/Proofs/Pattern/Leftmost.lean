/-
The leftmost place where a pattern matches. A search stops there; and if a match stays one whatever
stands behind it, then text that is appended brings no match further to the left, since a clear
pattern does not match across the start of another match.
-/
import UiSkeleton.Proofs.Pattern.Pieces

namespace UiSkeleton.Pattern

variable {p : Pattern} {before : Option Char}

/-- **A search stops at the leftmost place where the pattern matches.** -/
theorem leftmost_of_search (hp : p.plain = true) {text : List Char} {o : Occurrence}
    (h : p.search before text = some o) :
    ∃ a c, text = a ++ (o.text ++ c) ∧ p.Matches (lastOr before a) o.text c o.groups ∧
      ∀ {a' w' c' g'}, text = a' ++ (w' ++ c') → p.Matches (lastOr before a') w' c' g' →
        a.length ≤ a'.length := by
  induction text generalizing before with
  | nil =>
    rw [search] at h
    obtain ⟨c, htext, hmatches⟩ := matches_of_matchAt h
    exact ⟨[], c, htext, hmatches, fun _ _ => Nat.zero_le _⟩
  | cons d text ih =>
    rw [search] at h
    cases hm : p.matchAt before (d :: text) with
    | some found =>
      rw [hm] at h
      cases h
      obtain ⟨c, htext, hmatches⟩ := matches_of_matchAt hm
      exact ⟨[], c, htext, hmatches, fun _ _ => Nat.zero_le _⟩
    | none =>
      rw [hm] at h
      obtain ⟨a, c, rfl, hmatches, hfirst⟩ := ih h
      refine ⟨d :: a, c, rfl, by rwa [lastOr_cons], fun {a' w' c' g'} htext hmatches' => ?_⟩
      cases a' with
      | nil =>
        have hsome := (isSome_matchAt_iff hp).2 ⟨w', c', g', htext, hmatches'⟩
        rw [lastOr_nil, hm] at hsome
        cases hsome
      | cons e a' =>
        rw [List.cons_append, List.cons.injEq] at htext
        obtain ⟨rfl, htext⟩ := htext
        rw [lastOr_cons] at hmatches'
        exact Nat.succ_le_succ (hfirst htext hmatches')

/-- A match stays one whatever stands behind it. -/
def Steady (p : Pattern) : Prop := ∀ {b w a a' g}, p.Matches b w a g → p.Matches b w a' g

theorem isSome_search_of_matches (hp : p.plain = true) {a w c : List Char} {g : List (Nat × List Char)}
    (h : p.Matches (lastOr before a) w c g) : (p.search before (a ++ (w ++ c))).isSome = true :=
  isSome_search_iff.2 ⟨a, w ++ c, rfl, (isSome_matchAt_iff hp).2 ⟨w, c, g, rfl, h⟩⟩

variable (hp : p.Clear) (hsteady : p.Steady)
include hp hsteady

/-- A match behind a text without one is the match that is found. -/
theorem Clear.search_append {a w c : List Char}
    {g : List (Nat × List Char)} (hnone : p.search before a = none)
    (h : p.Matches (lastOr before a) w c g) : p.search before (a ++ (w ++ c)) = some ⟨w, g⟩ := by
  obtain ⟨⟨v, gv⟩, hfound⟩ := Option.isSome_iff_exists.1 (isSome_search_of_matches hp.plain h)
  rw [hfound]
  obtain ⟨x, rest, htext, hmatches, hfirst⟩ := leftmost_of_search hp.plain hfound
  simp only at htext hmatches
  obtain ⟨y, rfl⟩ := List.prefix_of_prefix_length_le ⟨_, htext.symm⟩ (List.prefix_append a (w ++ c))
    (hfirst rfl h)
  rw [List.append_assoc, List.append_right_inj] at htext
  by_cases hy : y = []
  · obtain rfl := hy
    rw [List.append_nil] at h
    obtain ⟨rfl, rfl⟩ := hp.unique h hmatches htext
    rfl
  · exfalso
    -- what is found would either lie before the match or reach into it
    by_cases hlength : v.length ≤ y.length
    · obtain ⟨z, rfl⟩ := List.prefix_of_prefix_length_le ⟨rest, htext.symm⟩
        (List.prefix_append y (w ++ c)) hlength
      have hsome := isSome_search_of_matches hp.plain (c := z) (hsteady hmatches)
      rw [hnone] at hsome
      cases hsome
    · obtain ⟨z, rfl⟩ := List.prefix_of_prefix_length_le (List.prefix_append y (w ++ c))
        ⟨rest, htext.symm⟩ (Nat.le_of_not_le hlength)
      have hz : z ≠ [] := by
        rintro rfl
        simp at hlength
      rw [List.append_assoc, List.append_right_inj] at htext
      exact hp.apart hmatches hy hz h htext.symm

/-- **The first occurrence in a text stays the first one** whatever is appended. -/
theorem Clear.search_eq {a b : List Char} (h : (p.search before a).isSome = true) :
    p.search before (a ++ b) = p.search before a := by
  obtain ⟨o, ho⟩ := Option.isSome_iff_exists.1 h
  obtain ⟨x, c, rfl, hmatches, hfirst⟩ := leftmost_of_search hp.plain ho
  have hnone : p.search before x = none := by
    refine Option.eq_none_iff_forall_ne_some.2 fun o' ho' => ?_
    obtain ⟨a', c', rfl, hmatches', -⟩ := leftmost_of_search hp.plain ho'
    have htext : a' ++ (o'.text ++ c') ++ (o.text ++ c) = a' ++ (o'.text ++ (c' ++ (o.text ++ c))) := by simp
    have hlength := hfirst htext (hsteady hmatches')
    have hpos := List.length_pos_iff.2 (hmatches'.ne_nil hp.reads)
    simp only [List.length_append] at hlength
    omega
  rw [ho, List.append_assoc, List.append_assoc]
  exact hp.search_append hsteady hnone (hsteady hmatches)

end UiSkeleton.Pattern
