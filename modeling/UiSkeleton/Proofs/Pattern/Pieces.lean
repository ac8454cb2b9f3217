/-
Where the searches find a pattern. The pieces of a text join up to it, and every found piece is an
occurrence at its place. The other way round an occurrence can be passed over, since it may begin
inside an earlier one; a clear pattern has no such occurrences, so that the found pieces are all the
places where it matches (`Clear.mem_pieces_iff`).
-/
import UiSkeleton.Pattern.Matcher
import UiSkeleton.Proofs.Pattern.Matches

namespace UiSkeleton

theorem Piece.mem_occurrences_iff {pieces : List Piece} {o : Occurrence} :
    o ∈ pieces.filterMap Piece.occurrence? ↔ .found o ∈ pieces := by
  rw [List.mem_filterMap]
  constructor
  · rintro ⟨piece, hpiece, ho⟩
    cases piece with
    | plain c => cases ho
    | found o' => cases ho; exact hpiece
  · exact fun h => ⟨_, h, rfl⟩

namespace Pattern

variable {p : Pattern} {before : Option Char} {touching : Bool}

theorem Matches.ne_nil {b : Option Char} {w a : List Char}
    {g : List (Nat × List Char)} (h : p.Matches b w a g)
    (hp : p.nullable = false) : w ≠ [] := by
  induction h with
  | empty | edge | stop | more => cases hp
  | atom => simp
  | seq _ _ ih₁ ih₂ =>
    rcases Bool.and_eq_false_iff.1 hp with hp | hp
    · simp [ih₁ hp]
    · simp [ih₂ hp]
  | left _ ih => exact ih (Bool.or_eq_false_iff.1 hp).1
  | right _ ih => exact ih (Bool.or_eq_false_iff.1 hp).2
  | plus _ _ ih₁ _ => simp [ih₁ hp]
  | group _ ih => exact ih hp

/-! ## The first occurrence -/

/-- A search succeeds exactly when the pattern matches somewhere. -/
theorem isSome_search_iff {text : List Char} : (p.search before text).isSome = true ↔
    ∃ a rest, text = a ++ rest ∧ (p.matchAt (lastOr before a) rest).isSome = true := by
  induction text generalizing before with
  | nil =>
    rw [search]
    constructor
    · exact fun h => ⟨[], [], rfl, h⟩
    · rintro ⟨a, rest, hnil, h⟩
      obtain ⟨rfl, rfl⟩ := List.append_eq_nil_iff.1 hnil.symm
      exact h
  | cons c r ih =>
    have hstep : (p.search before (c :: r)).isSome = true ↔
        (p.matchAt before (c :: r)).isSome = true ∨ (p.search (some c) r).isSome = true := by
      rw [search]
      cases p.matchAt before (c :: r) <;> simp
    rw [hstep, ih]
    constructor
    · rintro (h | ⟨a, rest, rfl, h⟩)
      · exact ⟨[], c :: r, rfl, h⟩
      · exact ⟨c :: a, rest, rfl, by rwa [lastOr_cons]⟩
    · rintro ⟨a, rest, htext, h⟩
      cases a with
      | nil => exact .inl (htext ▸ h)
      | cons d a =>
        obtain ⟨rfl, rfl⟩ := List.cons.inj htext
        exact .inr ⟨a, rest, rfl, by rwa [lastOr_cons] at h⟩

/-! ## The pieces of a text -/

/-- Every found piece is an occurrence at some place of the text. -/
theorem exists_matchAt_of_mem_pieces {o : Occurrence} {text : List Char} {busy : Nat}
    (h : .found o ∈ p.pieces before busy touching text) :
    ∃ a rest, text = a ++ rest ∧ p.matchAt (lastOr before a) rest = some o := by
  induction text generalizing before busy touching with
  | nil =>
    unfold pieces at h
    split at h
    · rename_i o' hm
      split at h
      · cases h
      · simp only [List.mem_singleton, Piece.found.injEq] at h
        exact ⟨[], [], rfl, h ▸ hm⟩
    · cases h
  | cons c r ih =>
    have later : ∀ {busy touching}, .found o ∈ p.pieces (some c) busy touching r →
        ∃ a rest, c :: r = a ++ rest ∧ p.matchAt (lastOr before a) rest = some o := fun h => by
      obtain ⟨a, rest, rfl, hm⟩ := ih h
      exact ⟨c :: a, rest, rfl, by rwa [lastOr_cons]⟩
    have here : ∀ {o'}, p.matchAt before (c :: r) = some o' → o = o' →
        ∃ a rest, c :: r = a ++ rest ∧ p.matchAt (lastOr before a) rest = some o := fun hm ho =>
      ⟨[], c :: r, rfl, ho ▸ hm⟩
    unfold pieces at h
    split at h
    · exact later h
    · split at h
      · simp only [List.mem_cons, reduceCtorEq, false_or] at h
        exact later h
      · rename_i o' hm
        split at h
        · split at h
          · simp only [List.mem_cons, reduceCtorEq, false_or] at h
            exact later h
          · simp only [List.mem_cons, Piece.found.injEq, reduceCtorEq, false_or] at h
            exact h.elim (here hm) later
        · simp only [List.mem_cons, Piece.found.injEq] at h
          exact h.elim (here hm) later

theorem exists_matches_of_mem_pieces {o : Occurrence} {text : List Char} {busy : Nat}
    (h : .found o ∈ p.pieces before busy touching text) :
    ∃ a c, text = a ++ (o.text ++ c) ∧ p.Matches (lastOr before a) o.text c o.groups := by
  obtain ⟨a, rest, rfl, hm⟩ := exists_matchAt_of_mem_pieces h
  obtain ⟨c, rfl, hmatches⟩ := matches_of_matchAt hm
  exact ⟨a, c, rfl, hmatches⟩

/-- The `pieces` join up to the text behind the characters that are taken already. -/
theorem flatMap_text_pieces {text : List Char} {busy : Nat} :
    (p.pieces before busy touching text).flatMap Piece.text = text.drop busy := by
  induction text generalizing before busy touching with
  | nil =>
    unfold pieces
    split
    · rename_i o hm
      obtain ⟨after, hnil, -⟩ := matches_of_matchAt hm
      split <;> simp [Piece.text, (List.append_eq_nil_iff.1 hnil.symm).1]
    · simp
  | cons c r ih =>
    unfold pieces
    split
    · rw [ih, List.drop_succ_cons]
    · split
      · rw [List.flatMap_cons, ih]
        rfl
      · rename_i o hm
        obtain ⟨after, hrest, -⟩ := matches_of_matchAt hm
        split
        · rename_i ho
          split <;> simp [ih, Piece.text, ho]
        · rename_i d t ho
          rw [ho] at hrest
          obtain ⟨rfl, hr⟩ := List.cons.inj hrest
          rw [List.flatMap_cons, ih, Piece.text, ho, hr, List.append_eq, List.drop_left]
          rfl

theorem pieces_ne_nil {text : List Char} (h : text ≠ []) : p.pieces before 0 touching text ≠ [] := by
  intro hnil
  have htext : (p.pieces before 0 touching text).flatMap Piece.text = text := flatMap_text_pieces
  rw [hnil] at htext
  exact h htext.symm

theorem pieces_append (x text : List Char) : p.pieces before x.length touching (x ++ text) =
    p.pieces (lastOr before x) 0 (touching || !x.isEmpty) text := by
  induction x generalizing before touching with
  | nil => simp
  | cons c x ih =>
    rw [List.length_cons, List.cons_append, pieces, ih, lastOr_cons]
    simp

/-- An occurrence at the start of a text is its first piece. -/
theorem pieces_of_matchAt {w after : List Char} {g : List (Nat × List Char)}
    (h : p.matchAt before (w ++ after) = some ⟨w, g⟩) (hne : w ≠ []) :
    p.pieces before 0 touching (w ++ after) = .found ⟨w, g⟩ :: p.pieces (lastOr before w) 0 true after := by
  obtain ⟨c, w, rfl⟩ := List.exists_cons_of_ne_nil hne
  rw [List.cons_append] at h ⊢
  rw [pieces, h]
  simp only [pieces_append, lastOr_cons, Bool.true_or]

theorem pieces_of_matchAt_eq_none {c : Char} {r : List Char} (h : p.matchAt before (c :: r) = none) :
    p.pieces before 0 touching (c :: r) = .plain c :: p.pieces (some c) 0 false r := by
  rw [pieces, h]

theorem pieces_nil (hp : p.nullable = false) : p.pieces before 0 touching [] = [] := by
  unfold pieces
  split
  · rename_i o hm
    obtain ⟨after, hnil, hmatches⟩ := matches_of_matchAt hm
    exact absurd (List.append_eq_nil_iff.1 hnil.symm).1 (hmatches.ne_nil hp)
  · rfl

/-- Whether an occurrence ends here matters only to occurrences that read nothing. -/
theorem pieces_touching (hp : p.nullable = false) {text : List Char} :
    p.pieces before 0 touching text = p.pieces before 0 false text := by
  cases text with
  | nil => rw [pieces_nil hp, pieces_nil hp]
  | cons c r =>
    cases hm : p.matchAt before (c :: r) with
    | none => rw [pieces_of_matchAt_eq_none hm, pieces_of_matchAt_eq_none hm]
    | some o =>
      obtain ⟨w, g⟩ := o
      obtain ⟨after, hrest, hmatches⟩ := matches_of_matchAt hm
      have hne : w ≠ [] := hmatches.ne_nil hp
      rw [hrest] at hm ⊢
      rw [pieces_of_matchAt hm hne, pieces_of_matchAt hm hne]

/-- The first of the `pieces` that was found is what `search` finds. -/
theorem head?_occurrences {text : List Char} :
    ((p.pieces before 0 false text).filterMap Piece.occurrence?).head? = p.search before text := by
  induction text generalizing before with
  | nil => cases hm : p.matchAt before [] <;> simp [search, pieces, hm, Piece.occurrence?]
  | cons c r ih =>
    cases hm : p.matchAt before (c :: r) with
    | none =>
      rw [pieces_of_matchAt_eq_none hm, search, hm]
      exact ih
    | some o =>
      rw [pieces, hm, search, hm]
      simp only
      split <;> rfl

theorem exists_found_iff {text : List Char} :
    (∃ o, .found o ∈ p.pieces before 0 false text) ↔ (p.search before text).isSome = true := by
  rw [← head?_occurrences, List.isSome_head?]
  constructor
  · rintro ⟨o, ho⟩
    exact List.ne_nil_of_mem (Piece.mem_occurrences_iff.2 ho)
  · intro hne
    obtain ⟨o, ho⟩ := List.exists_mem_of_ne_nil _ hne
    exact ⟨o, Piece.mem_occurrences_iff.1 ho⟩

/-! ## Clear patterns -/

/-- A pattern that can match a text in one way only, and never inside another match. -/
structure Clear (p : Pattern) : Prop where
  plain : p.plain = true
  reads : p.nullable = false
  unique : ∀ {b w a g w' a' g'}, p.Matches b w a g → p.Matches b w' a' g' → w ++ a = w' ++ a' →
    w = w' ∧ g = g'
  apart : ∀ {b x y a g b' w' a' g'}, p.Matches b (x ++ y) a g → x ≠ [] → y ≠ [] → p.Matches b' w' a' g' →
    y ++ a ≠ w' ++ a'

variable (hp : p.Clear)
include hp

theorem Clear.matchAt_eq {b : Option Char} {w a : List Char}
    {g : List (Nat × List Char)} (h : p.Matches b w a g) : p.matchAt b (w ++ a) = some ⟨w, g⟩ := by
  obtain ⟨o, ho⟩ := Option.isSome_iff_exists.1 ((isSome_matchAt_iff hp.plain).2 ⟨w, a, g, rfl, h⟩)
  obtain ⟨after, hrest, hmatches⟩ := matches_of_matchAt ho
  obtain ⟨rfl, rfl⟩ := hp.unique h hmatches hrest
  exact ho

/-- No match of a `Clear` pattern is passed over. -/
theorem Clear.mem_pieces {w c : List Char} {g : List (Nat × List Char)} {a : List Char} :
    ∀ {before : Option Char} {touching : Bool}, p.Matches (lastOr before a) w c g →
      .found ⟨w, g⟩ ∈ p.pieces before 0 touching (a ++ (w ++ c)) := by
  induction hn : a.length using Nat.strongRecOn generalizing a with
  | ind n ih =>
    intro before touching h
    cases a with
    | nil =>
      rw [lastOr_nil] at h
      rw [List.nil_append, pieces_of_matchAt (hp.matchAt_eq h) (h.ne_nil hp.reads)]
      exact List.mem_cons_self
    | cons d a =>
      cases hm : p.matchAt before (d :: a ++ (w ++ c)) with
      | none =>
        rw [List.cons_append] at hm ⊢
        rw [pieces_of_matchAt_eq_none hm]
        rw [lastOr_cons] at h
        exact List.mem_cons_of_mem _ (ih a.length (by simp [← hn]) rfl h)
      | some o =>
        obtain ⟨v, gv⟩ := o
        obtain ⟨after, hrest, hv⟩ := matches_of_matchAt hm
        change d :: a ++ (w ++ c) = v ++ after at hrest
        change p.Matches before v after gv at hv
        have hne : v ≠ [] := hv.ne_nil hp.reads
        have hpos : 0 < v.length := List.length_pos_iff.2 hne
        by_cases hlength : v.length ≤ (d :: a).length
        · obtain ⟨x, hx⟩ := List.prefix_of_prefix_length_le ⟨after, hrest.symm⟩
            (List.prefix_append _ _) hlength
          have hshorter : x.length < n := by
            rw [← hn, ← hx, List.length_append]
            omega
          rw [← hx, List.append_assoc] at hm hrest ⊢
          rw [← hx, lastOr_append] at h
          rw [pieces_of_matchAt hm hne]
          exact List.mem_cons_of_mem _ (ih x.length hshorter rfl h)
        · -- the match would begin inside the occurrence
          obtain ⟨y, hy⟩ := List.prefix_of_prefix_length_le (List.prefix_append _ _)
            ⟨after, hrest.symm⟩ (Nat.le_of_not_le hlength)
          have hy' : y ≠ [] := by
            rintro rfl
            rw [← hy, List.append_nil] at hlength
            exact hlength (Nat.le_refl _)
          rw [← hy, List.append_assoc, List.append_right_inj] at hrest
          exact absurd hrest.symm (hp.apart (hy ▸ hv) (by simp) hy' h)

/-- **The found pieces are the places where a `Clear` pattern matches.** -/
theorem Clear.mem_pieces_iff {text : List Char} {o : Occurrence} :
    .found o ∈ p.pieces before 0 touching text ↔
    ∃ a c, text = a ++ (o.text ++ c) ∧ p.Matches (lastOr before a) o.text c o.groups := by
  constructor
  · exact exists_matches_of_mem_pieces
  · rintro ⟨a, c, rfl, h⟩
    exact hp.mem_pieces h

end Pattern

/-- `occursIn` is `true` exactly if the pattern matches somewhere. -/
theorem Matcher.occursIn_iff {m : Matcher} (hp : m.pattern.plain = true) {text : List Char} :
    m.occursIn text = true ↔
    ∃ a w c g, text = a ++ (w ++ c) ∧ m.pattern.Matches a.getLast? w c g := by
  rw [occursIn, find?, Pattern.isSome_search_iff]
  constructor
  · rintro ⟨a, rest, rfl, h⟩
    obtain ⟨w, c, g, rfl, hmatches⟩ := (Pattern.isSome_matchAt_iff hp).1 h
    exact ⟨a, w, c, g, rfl, by simpa using hmatches⟩
  · rintro ⟨a, w, c, g, rfl, h⟩
    exact ⟨a, w ++ c, rfl, (Pattern.isSome_matchAt_iff hp).2 ⟨w, c, g, rfl, by simpa using h⟩⟩

/-- What `findAll` gives for a `Clear` pattern are the groups of its matches. -/
theorem Matcher.mem_findAll_iff {m : Matcher} (hp : m.pattern.Clear) (hcount : m.groupCount ≠ 0)
    {text x : List Char} :
    x ∈ m.findAll text ↔
      ∃ a w c g, text = a ++ (w ++ c) ∧ m.pattern.Matches a.getLast? w c g ∧ g.lookup 1 = some x := by
  have hfound : x ∈ m.findAll text ↔ ∃ o, .found o ∈ m.pieces text ∧ o.group? 1 = some x := by
    simp only [findAll, if_neg hcount]
    rw [List.mem_filterMap]
    simp only [Piece.mem_occurrences_iff]
  simp only [hfound, pieces, hp.mem_pieces_iff, Pattern.lastOr_none]
  constructor
  · rintro ⟨o, ⟨a, c, rfl, hmatches⟩, ho⟩
    exact ⟨a, _, c, _, rfl, hmatches, ho⟩
  · rintro ⟨a, w, c, g, rfl, hmatches, hg⟩
    exact ⟨⟨w, g⟩, ⟨a, c, rfl, hmatches⟩, hg⟩

end UiSkeleton
