/-
How long a fence is. The rows of backticks in a text are what is left of it when it is cut at every
other character: such a piece is a row that stands in the text, and a row in the text lies within
one piece. So the longest piece is the longest row, and a fence with one backtick more stands
nowhere in its text, while every shorter one of three backticks or more does.
-/
import Mathlib.Order.Bounds.Defs
import UiSkeleton.Report.Generator

namespace UiSkeleton.Fenced

/-! ## The greatest of some numbers -/

theorem le_foldl_max {n start : Nat} {ns : List Nat} (h : n ∈ ns ∨ n ≤ start) : n ≤ ns.foldl max start := by
  induction ns generalizing start with
  | nil => simpa using h
  | cons m ns ih =>
    rw [List.foldl_cons]
    refine ih ?_
    rcases h with h | h
    · rcases List.mem_cons.1 h with rfl | h
      · exact .inr (Nat.le_max_right ..)
      · exact .inl h
    · exact .inr (Nat.le_trans h (Nat.le_max_left ..))

theorem foldl_max_eq_or_mem (start : Nat) (ns : List Nat) :
    ns.foldl max start = start ∨ ns.foldl max start ∈ ns := by
  rw [List.foldl_max]
  cases hmax : ns.max? with
  | none => exact .inl (Nat.max_self start)
  | some m =>
    have hm : m ∈ ns := List.max?_mem hmax
    rcases Nat.le_total start m with hle | hle
    · exact .inr (by simpa [Nat.max_eq_right hle] using hm)
    · exact .inl (Nat.max_eq_left hle)

/-! ## The pieces of a text -/

theorem length_le_of_prefix {p : Char → Bool} :
    ∀ {row cs : List Char}, (∀ c ∈ row, p c = false) → row <+: cs →
      ∃ first more, Text.cutWhere p cs = first :: more ∧ row.length ≤ first.length
  | [], cs, _, _ => by
    obtain ⟨first, more, hcs⟩ := List.exists_cons_of_ne_nil (Text.cutWhere_ne_nil p cs)
    exact ⟨first, more, hcs, Nat.zero_le _⟩
  | c :: row, [], _, h => by simp at h
  | c :: row, d :: cs, hrow, h => by
    obtain ⟨rfl, hrest⟩ := List.cons_prefix_cons.1 h
    obtain ⟨first, more, hcs, hlength⟩ := length_le_of_prefix (fun e he => hrow e (by simp [he])) hrest
    refine ⟨c :: first, more, ?_, Nat.succ_le_succ hlength⟩
    rw [Text.cutWhere, if_neg (by simp [hrow c (by simp)]), hcs]

theorem length_le_of_infix {p : Char → Bool} {row cs : List Char} (hrow : ∀ c ∈ row, p c = false)
    (h : row <:+: cs) : ∃ piece ∈ Text.cutWhere p cs, row.length ≤ piece.length := by
  induction cs with
  | nil => exact ⟨[], by simp [Text.cutWhere], by simpa using h⟩
  | cons d cs ih =>
    rcases List.infix_cons_iff.1 h with h | h
    · obtain ⟨first, more, hcs, hlength⟩ := length_le_of_prefix hrow h
      exact ⟨first, by simp [hcs], hlength⟩
    · obtain ⟨piece, hpiece, hlength⟩ := ih h
      rw [Text.cutWhere]
      split
      · exact ⟨piece, List.mem_cons_of_mem _ hpiece, hlength⟩
      · split
        · rename_i hnone
          exact absurd hnone (Text.cutWhere_ne_nil p cs)
        · rename_i first more hcs
          rw [hcs] at hpiece
          rcases List.mem_cons.1 hpiece with rfl | hpiece
          · exact ⟨d :: piece, by simp, Nat.le_succ_of_le hlength⟩
          · exact ⟨piece, List.mem_cons_of_mem _ hpiece, hlength⟩

/-- The first piece is the front of the text, and each of the others stands somewhere in it. -/
theorem standing_pieces {p : Char → Bool} (cs : List Char) :
    ∃ first more, Text.cutWhere p cs = first :: more ∧ first <+: cs ∧ ∀ piece ∈ more, piece <:+: cs := by
  induction cs with
  | nil => exact ⟨[], [], rfl, List.nil_prefix, by simp⟩
  | cons c cs ih =>
    obtain ⟨first, more, hcs, hfirst, hmore⟩ := ih
    have hlater : cs <:+: c :: cs := (List.suffix_cons c cs).isInfix
    have hrest : ∀ piece ∈ more, piece <:+: c :: cs := fun piece hpiece => (hmore piece hpiece).trans hlater
    rw [Text.cutWhere, hcs]
    cases p c with
    | true =>
      refine ⟨[], first :: more, rfl, List.nil_prefix, fun piece hpiece => ?_⟩
      rcases List.mem_cons.1 hpiece with rfl | hpiece
      · exact hfirst.isInfix.trans hlater
      · exact hrest piece hpiece
    | false => exact ⟨c :: first, more, rfl, List.cons_prefix_cons.2 ⟨rfl, hfirst⟩, hrest⟩

theorem infix_of_mem_cutWhere {p : Char → Bool} {cs piece : List Char}
    (h : piece ∈ Text.cutWhere p cs) : piece <:+: cs := by
  obtain ⟨first, more, hcs, hfirst, hmore⟩ := standing_pieces (p := p) cs
  rw [hcs] at h
  rcases List.mem_cons.1 h with rfl | h
  · exact hfirst.isInfix
  · exact hmore piece h

/-! ## Rows of backticks -/

theorem length_le_longestRow {row cs : List Char} (hrow : ∀ c ∈ row, c = backtick) (h : row <:+: cs) :
    row.length ≤ longestRow cs := by
  obtain ⟨piece, hpiece, hlength⟩ := length_le_of_infix (p := (· != backtick)) (by simpa using hrow) h
  exact Nat.le_trans hlength (le_foldl_max (.inl (List.mem_map.2 ⟨piece, hpiece, rfl⟩)))

/-- A row of `longestRow` backticks stands in the text. -/
theorem longestRow_stands (cs : List Char) : List.replicate (longestRow cs) backtick <:+: cs := by
  rcases foldl_max_eq_or_mem 0 ((Text.cutWhere (· != backtick) cs).map List.length) with h | h
  · rw [longestRow, h]
    exact List.nil_infix
  · obtain ⟨piece, hpiece, hlength⟩ := List.mem_map.1 h
    have hticks : piece = List.replicate piece.length backtick := by
      refine List.eq_replicate_of_mem fun c hc => ?_
      simpa using Text.not_of_mem_cutWhere hpiece c hc
    rw [longestRow, ← hlength, ← hticks]
    exact infix_of_mem_cutWhere hpiece

/-- The rows of backticks in a text are those up to its `longestRow`. -/
theorem replicate_infix_iff {n : Nat} {cs : List Char} :
    List.replicate n backtick <:+: cs ↔ n ≤ longestRow cs := by
  constructor
  · intro h
    simpa using length_le_longestRow (fun c hc => List.eq_of_mem_replicate hc) h
  · intro h
    obtain ⟨more, hmore⟩ := Nat.exists_eq_add_of_le h
    have hprefix : List.replicate n backtick <+: List.replicate (longestRow cs) backtick :=
      ⟨List.replicate more backtick, by rw [hmore, List.replicate_append_replicate]⟩
    exact hprefix.isInfix.trans (longestRow_stands cs)

/-- **`codeFence` is the shortest fence that its text allows**: one backtick more than the longest
row in the text, and at least three. The text does not hold it, and holds every shorter row of three
or more. -/
theorem codeFence_shortest (text : String) :
    ∃ longest, IsGreatest {n | List.replicate n backtick <:+: text.toList} longest ∧
      (codeFence text).toList = List.replicate (max 3 (1 + longest)) backtick ∧
      ¬ (codeFence text).toList <:+: text.toList ∧
      ∀ n, 3 ≤ n → ¬ List.replicate n backtick <:+: text.toList → (codeFence text).length ≤ n := by
  have hfence : (codeFence text).toList = List.replicate (max 3 (1 + longestRow text.toList)) backtick := by
    rw [codeFence, String.toList_ofList]
    congr 1
    omega
  refine ⟨longestRow text.toList, ⟨longestRow_stands _, fun n => replicate_infix_iff.1⟩, hfence, ?_, ?_⟩
  · rw [hfence, replicate_infix_iff]
    omega
  · intro n hn hfree
    rw [replicate_infix_iff] at hfree
    rw [← String.length_toList, hfence, List.length_replicate]
    omega

end UiSkeleton.Fenced
