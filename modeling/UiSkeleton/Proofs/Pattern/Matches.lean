/-
What a pattern matches, said of texts alone: a text between the character before it and the text
after it, with the texts of its groups. Every occurrence matches, and what matches at a place is
found there (`isSome_matchAt_iff`), if no repetition of the pattern can go around without reading.
The search prefers one way among several; where a text can be matched in one way only, that is the
one it takes.
-/
import UiSkeleton.Proofs.Pattern.Way

namespace UiSkeleton

/-- The cursor stands in the text where its place says. -/
def Cursor.On (s : Cursor) (text : List Char) : Prop := text.drop s.place = s.rest

theorem Cursor.On.reads {s t : Cursor} {text w : List Char} (h : s.On text) (hr : s.Reads w t) :
    t.On text := by
  rw [On, hr.place, ← List.drop_drop, h, hr.rest, List.drop_left]

theorem Cursor.On.enter {s t : Cursor} {mark : Option Nat} {text : List Char} (h : s.On text)
    (hs : s.enter mark = some t) : t.On text := by
  obtain ⟨_, rfl⟩ := Cursor.eq_of_enter hs
  exact h

namespace Pattern

/-- The character before a place with some text in front of it. -/
def lastOr (before : Option Char) (text : List Char) : Option Char := text.getLast?.or before

@[simp] theorem lastOr_nil (before : Option Char) : lastOr before [] = before := rfl

@[simp] theorem lastOr_none (text : List Char) : lastOr none text = text.getLast? := by simp [lastOr]

theorem lastOr_append (before : Option Char) (w x : List Char) :
    lastOr before (w ++ x) = lastOr (lastOr before w) x := by
  simp [lastOr, List.getLast?_append, Option.or_assoc]

@[simp] theorem lastOr_cons (before : Option Char) (c : Char) (w : List Char) :
    lastOr before (c :: w) = lastOr (some c) w := lastOr_append before [c] w

/-- The pattern matches `text`, which stands after the character `before` and before the text
`after`; the texts of the groups are listed with the latest first. -/
inductive Matches : Pattern → (before : Option Char) → (text after : List Char) →
    (groups : List (Nat × List Char)) → Prop
  | empty {b a} : Matches .empty b [] a []
  | atom {charClass b c a} : charClass.contains c = true → Matches (.atom charClass) b [c] a []
  | edge {condition b a} : condition.holds (.start b a) = true → Matches (.edge condition) b [] a []
  | seq {p q b w x a g h} : Matches p b w (x ++ a) g → Matches q (lastOr b w) x a h →
      Matches (.seq p q) b (w ++ x) a (h ++ g)
  | left {mark p q b w a g} : Matches p b w a g → Matches (.alt mark p q) b w a g
  | right {mark p q b w a g} : Matches q b w a g → Matches (.alt mark p q) b w a g
  | stop {mark isLazy p b a} : Matches (.star mark isLazy p) b [] a []
  | more {mark isLazy p b w x a g h} :
      Matches p b w (x ++ a) g → Matches (.star mark isLazy p) (lastOr b w) x a h →
      Matches (.star mark isLazy p) b (w ++ x) a (h ++ g)
  | plus {mark isLazy p b w x a g h} :
      Matches p b w (x ++ a) g → Matches (.star mark isLazy p) (lastOr b w) x a h →
      Matches (.plus mark isLazy p) b (w ++ x) a (h ++ g)
  | group {index p b w a g} : Matches p b w a g → Matches (.group index p) b w a ((index, w) :: g)

/-! ## Occurrences match -/

/-- The text of a closed group. -/
def spanText (text : List Char) (entry : Nat × Span) : Nat × List Char :=
  (entry.1, (text.drop entry.2.start).take (entry.2.stop - entry.2.start))

/-- What a way reads since `s` is matched by its pattern, and the groups that it closes are
listed. -/
structure Follows (p : Pattern) (text : List Char) (s : Cursor) (w : List Char)
    (g : List (Nat × List Char)) (t : Cursor) :
    Prop where
  reads : s.Reads w t
  before : t.before = lastOr s.before w
  isMatch : p.Matches s.before w t.rest g
  groups : t.groups.map (spanText text) = g ++ s.groups.map (spanText text)

theorem Follows.append {p q r : Pattern} {text w x : List Char}
    {g h : List (Nat × List Char)} {s t u : Cursor}
    (h₁ : p.Follows text s w g t) (h₂ : q.Follows text t x h u)
    (hr : p.Matches s.before w (x ++ u.rest) g → q.Matches (lastOr s.before w) x u.rest h →
      r.Matches s.before (w ++ x) u.rest (h ++ g)) : r.Follows text s (w ++ x) (h ++ g) u where
  reads := h₁.reads.trans h₂.reads
  before := by rw [h₂.before, h₁.before, lastOr_append]
  isMatch := hr (h₂.reads.rest ▸ h₁.isMatch) (h₁.before ▸ h₂.isMatch)
  groups := by rw [h₂.groups, h₁.groups, List.append_assoc]

/-- A mark that was set on the way is no part of what was read. -/
theorem Follows.of_enter {p q : Pattern} {mark : Option Nat} {text w : List Char} {g : List (Nat × List Char)}
    {s s' t : Cursor} (hs : s.enter mark = some s') (h : p.Follows text s' w g t)
    (hq : p.Matches s.before w t.rest g → q.Matches s.before w t.rest g) : q.Follows text s w g t := by
  obtain ⟨_, rfl⟩ := Cursor.eq_of_enter hs
  exact ⟨⟨h.reads.rest, h.reads.place⟩, h.before, hq h.isMatch, h.groups⟩

theorem Way.follows {p : Pattern} {s t : Cursor} {text : List Char} (h : Way p s t) (hs : s.On text) :
    ∃ w g, p.Follows text s w g t := by
  induction h with
  | empty => exact ⟨[], [], .refl, rfl, .empty, rfl⟩
  | @atom _ s c r hrest hc => exact ⟨[c], [], ⟨hrest, rfl⟩, rfl, .atom hc, rfl⟩
  | edge hc => exact ⟨[], [], .refl, rfl, .edge hc, rfl⟩
  | seq _ _ ih₁ ih₂ =>
    obtain ⟨w, g, h₁⟩ := ih₁ hs
    obtain ⟨x, h, h₂⟩ := ih₂ (hs.reads h₁.reads)
    exact ⟨w ++ x, h ++ g, h₁.append h₂ .seq⟩
  | left hs' _ ih =>
    obtain ⟨w, g, h⟩ := ih (hs.enter hs')
    exact ⟨w, g, h.of_enter hs' .left⟩
  | right hs' _ ih =>
    obtain ⟨w, g, h⟩ := ih (hs.enter hs')
    exact ⟨w, g, h.of_enter hs' .right⟩
  | stop hs' =>
    obtain ⟨_, rfl⟩ := Cursor.eq_of_enter hs'
    exact ⟨[], [], ⟨rfl, rfl⟩, rfl, .stop, rfl⟩
  | @more mark isLazy p s s' t u hs' _ _ ih₁ ih₂ =>
    obtain ⟨w, g, h₁⟩ := ih₁ (hs.enter hs')
    obtain ⟨x, h, h₂⟩ := ih₂ ((hs.enter hs').reads h₁.reads)
    have hround : (Pattern.star mark isLazy p).Follows text s' (w ++ x) (h ++ g) u := h₁.append h₂ .more
    exact ⟨w ++ x, h ++ g, hround.of_enter hs' id⟩
  | plus _ _ ih₁ ih₂ =>
    obtain ⟨w, g, h₁⟩ := ih₁ hs
    obtain ⟨x, h, h₂⟩ := ih₂ (hs.reads h₁.reads)
    exact ⟨w ++ x, h ++ g, h₁.append h₂ .plus⟩
  | @group index p s t _ ih =>
    obtain ⟨w, g, h⟩ := ih hs
    refine ⟨w, (index, w) :: g, ⟨h.reads.rest, h.reads.place⟩, h.before, .group h.isMatch, ?_⟩
    have hw : spanText text (index, ⟨s.place, t.place⟩) = (index, w) := by
      rw [spanText, hs, h.reads.rest, h.reads.place, Nat.add_sub_cancel_left, List.take_left]
    rw [Cursor.close, List.map_cons, hw, h.groups, List.cons_append]

/-- **Every occurrence is one of the `Matches`**, with the groups that it reports. -/
theorem matches_of_matchAt {p : Pattern} {before : Option Char} {rest : List Char} {o : Occurrence}
    (h : p.matchAt before rest = some o) :
    ∃ after, rest = o.text ++ after ∧ p.Matches before o.text after o.groups := by
  obtain ⟨t, -, hway, hreads, hgroups⟩ := way_of_matchAt h
  have hon : (Cursor.start before rest).On rest := rfl
  obtain ⟨w, g, hfollows⟩ := hway.follows hon
  have hw : w = o.text := by
    have hlength : w.length = o.text.length :=
      Nat.add_left_cancel (hfollows.reads.place.symm.trans hreads.place)
    exact List.append_inj_left (hfollows.reads.rest.symm.trans hreads.rest) hlength
  have hg : g = o.groups := by
    rw [hgroups]
    exact (hfollows.groups.trans (List.append_nil g)).symm
  exact ⟨t.rest, hreads.rest, hw ▸ hg ▸ hfollows.isMatch⟩

/-! ## What matches is found -/

/-- Whether the pattern has no marks and no repetition that could go around without reading. -/
def plain : Pattern → Bool
  | .empty | .atom _ | .edge _ => true
  | .seq first second => first.plain && second.plain
  | .alt mark left right => mark.isNone && left.plain && right.plain
  | .star mark _ body | .plus mark _ body => mark.isNone && !body.nullable && body.plain
  | .group _ body => body.plain

theorem isSome_loop {p : Pattern} {mark : Option Nat} {isLazy : Bool} (hread : p.nullable = false)
    (hbody : ∀ {s t : Cursor} {k}, Way p s t → (k t).isSome = true → (p.run s k).isSome = true) :
    ∀ {visits : Nat} {s t : Cursor} {k}, Way (.star mark isLazy p) s t → s.rest.length < visits →
      (k t).isSome = true →
      (loop p.run mark isLazy visits s k).isSome = true := by
  intro visits
  induction visits with
  | zero => intro s t k _ hvisits; exact absurd hvisits (Nat.not_lt_zero _)
  | succ visits ih =>
    intro s t k hway hvisits hk
    cases hway with
    | stop hs =>
      rw [loop, hs]
      cases isLazy <;> simp [Option.orElse_eq_or, Option.isSome_or, hk]
    | @more _ _ _ _ s' u _ hs hfirst hrest =>
      obtain ⟨w, hw, hne⟩ := hfirst.reads
      have hlength : s'.rest.length = w.length + u.rest.length := by rw [hw.rest, List.length_append]
      have hpos : 0 < w.length := List.length_pos_iff.2 (hne hread)
      obtain ⟨_, rfl⟩ := Cursor.eq_of_enter hs
      have hmore := hbody hfirst (k := fun t => loop p.run mark isLazy visits t k)
        (ih hrest (by simp at hlength; omega) hk)
      rw [loop, hs]
      cases isLazy <;> simp [Option.orElse_eq_or, Option.isSome_or, hmore]

/-- The search finds something where there is a `Way`. -/
theorem isSome_run {p : Pattern} (hp : p.plain = true) :
    ∀ {s t : Cursor} {k}, Way p s t → (k t).isSome = true → (p.run s k).isSome = true := by
  induction p with
  | empty => intro s t k h hk; cases h; exact hk
  | atom charClass =>
    intro s t k h hk
    cases h with
    | atom hrest hc => rw [run, hrest]; simpa [hc] using hk
  | edge condition =>
    intro s t k h hk
    cases h with
    | edge hc => rw [run, if_pos hc]; exact hk
  | seq first second ih₁ ih₂ =>
    intro s t k h hk
    simp only [plain, Bool.and_eq_true] at hp
    cases h with
    | seq h₁ h₂ => exact ih₁ hp.1 h₁ (ih₂ hp.2 h₂ hk)
  | alt mark left right ih₁ ih₂ =>
    intro s t k h hk
    simp only [plain, Bool.and_eq_true] at hp
    cases h with
    | left hs h =>
      have hleft := ih₁ hp.1.2 h hk
      simp [run, hs, Option.orElse_eq_or, Option.isSome_or, hleft]
    | right hs h =>
      have hright := ih₂ hp.2 h hk
      simp [run, hs, Option.orElse_eq_or, Option.isSome_or, hright]
  | star mark isLazy body ih =>
    intro s t k h hk
    simp only [plain, Bool.and_eq_true, Bool.not_eq_true'] at hp
    exact isSome_loop hp.1.2 (ih hp.2) h (Nat.lt_succ_self _) hk
  | plus mark isLazy body ih =>
    intro s t k h hk
    simp only [plain, Bool.and_eq_true, Bool.not_eq_true'] at hp
    cases h with
    | plus h₁ h₂ => exact ih hp.2 h₁ (isSome_loop hp.1.2 (ih hp.2) h₂ (Nat.lt_succ_self _) hk)
  | group index body ih =>
    intro s t k h hk
    cases h with
    | group h => exact ih hp h hk

theorem holds_start {condition : Edge} (s : Cursor) :
    condition.holds s = condition.holds (.start s.before s.rest) := rfl

/-- What `Matches` has a `Way`, wherever its text stands. -/
theorem Matches.exists_way {p : Pattern} {b : Option Char} {w a : List Char} {g : List (Nat × List Char)}
    (h : p.Matches b w a g) (hp : p.plain = true) {s : Cursor} (hb : s.before = b) (hs : s.rest = w ++ a) :
    ∃ t, Way p s t ∧ t.before = lastOr b w ∧ t.rest = a := by
  have enter : ∀ {mark : Option Nat} {s : Cursor}, mark.isNone = true → s.enter mark = some s := by
    intro mark s hmark
    rw [Option.isNone_iff_eq_none.1 hmark]
    rfl
  induction h generalizing s with
  | empty => exact ⟨s, .empty, hb, hs⟩
  | atom hc => exact ⟨_, .atom hs hc, rfl, rfl⟩
  | edge hc => exact ⟨s, .edge (by rwa [holds_start, hb, hs]), hb, hs⟩
  | seq _ _ ih₁ ih₂ =>
    simp only [plain, Bool.and_eq_true] at hp
    obtain ⟨t, hway, hb', hs'⟩ := ih₁ hp.1 hb (by rw [hs, List.append_assoc])
    obtain ⟨u, hway', hb'', hs''⟩ := ih₂ hp.2 hb' hs'
    exact ⟨u, .seq hway hway', by rw [hb'', lastOr_append], hs''⟩
  | left _ ih =>
    simp only [plain, Bool.and_eq_true] at hp
    obtain ⟨t, hway, ht⟩ := ih hp.1.2 hb hs
    exact ⟨t, .left (enter hp.1.1) hway, ht⟩
  | right _ ih =>
    simp only [plain, Bool.and_eq_true] at hp
    obtain ⟨t, hway, ht⟩ := ih hp.2 hb hs
    exact ⟨t, .right (enter hp.1.1) hway, ht⟩
  | stop =>
    simp only [plain, Bool.and_eq_true] at hp
    exact ⟨s, .stop (enter hp.1.1), hb, hs⟩
  | more _ _ ih₁ ih₂ =>
    have hparts := hp
    simp only [plain, Bool.and_eq_true] at hparts
    obtain ⟨t, hway, hb', hs'⟩ := ih₁ hparts.2 hb (by rw [hs, List.append_assoc])
    obtain ⟨u, hway', hb'', hs''⟩ := ih₂ hp hb' hs'
    exact ⟨u, .more (enter hparts.1.1) hway hway', by rw [hb'', lastOr_append], hs''⟩
  | plus _ _ ih₁ ih₂ =>
    have hparts := hp
    simp only [plain, Bool.and_eq_true] at hparts
    obtain ⟨t, hway, hb', hs'⟩ := ih₁ hparts.2 hb (by rw [hs, List.append_assoc])
    obtain ⟨u, hway', hb'', hs''⟩ := ih₂ hp hb' hs'
    exact ⟨u, .plus hway hway', by rw [hb'', lastOr_append], hs''⟩
  | group _ ih =>
    obtain ⟨t, hway, ht⟩ := ih hp hb hs
    exact ⟨_, .group hway, ht⟩

/-- **A `plain` pattern is found at a place exactly when it `Matches` there.** -/
theorem isSome_matchAt_iff {p : Pattern} (hp : p.plain = true) {before : Option Char} {rest : List Char} :
    (p.matchAt before rest).isSome = true ↔ ∃ w a g, rest = w ++ a ∧ p.Matches before w a g := by
  constructor
  · intro h
    obtain ⟨o, ho⟩ := Option.isSome_iff_exists.1 h
    obtain ⟨after, hrest, hmatches⟩ := matches_of_matchAt ho
    exact ⟨_, _, _, hrest, hmatches⟩
  · rintro ⟨w, a, g, rfl, h⟩
    obtain ⟨t, hway, -, -⟩ := h.exists_way hp (s := .start before (w ++ a)) rfl rfl
    rw [matchAt, Option.isSome_map]
    exact isSome_run hp hway rfl

/-! ## What each form of a pattern matches -/

variable {p q : Pattern} {b : Option Char} {w a : List Char} {g : List (Nat × List Char)}

theorem matches_atom {charClass : CharClass} :
    Matches (.atom charClass) b w a g ↔ (∃ c, w = [c] ∧ charClass.contains c = true) ∧ g = [] := by
  constructor
  · rintro (_ | hc)
    exact ⟨⟨_, rfl, hc⟩, rfl⟩
  · rintro ⟨⟨c, rfl, hc⟩, rfl⟩
    exact .atom hc

theorem matches_edge {condition : Edge} :
    Matches (.edge condition) b w a g ↔ condition.holds (.start b a) = true ∧ w = [] ∧ g = [] := by
  constructor
  · rintro (_ | _ | hc)
    exact ⟨hc, rfl, rfl⟩
  · rintro ⟨hc, rfl, rfl⟩
    exact .edge hc

theorem matches_seq : Matches (.seq p q) b w a g ↔
    ∃ x y gx gy, w = x ++ y ∧ g = gy ++ gx ∧ p.Matches b x (y ++ a) gx ∧ q.Matches (lastOr b x) y a gy := by
  constructor
  · intro h
    cases h with
    | seq h₁ h₂ => exact ⟨_, _, _, _, rfl, rfl, h₁, h₂⟩
  · rintro ⟨x, y, gx, gy, rfl, rfl, h₁, h₂⟩
    exact .seq h₁ h₂

theorem matches_alt {mark : Option Nat} :
    Matches (.alt mark p q) b w a g ↔ p.Matches b w a g ∨ q.Matches b w a g := by
  constructor
  · intro h
    cases h with
    | left h => exact .inl h
    | right h => exact .inr h
  · rintro (h | h)
    · exact .left h
    · exact .right h

theorem matches_group {index : Nat} :
    Matches (.group index p) b w a g ↔ ∃ inner, g = (index, w) :: inner ∧ p.Matches b w a inner := by
  constructor
  · intro h
    cases h with
    | group h => exact ⟨_, rfl, h⟩
  · rintro ⟨inner, rfl, h⟩
    exact .group h

theorem matches_star_atom {mark : Option Nat} {isLazy : Bool} {charClass : CharClass} :
    Matches (.star mark isLazy (.atom charClass)) b w a g ↔
      (∀ c ∈ w, charClass.contains c = true) ∧ g = [] := by
  constructor
  · intro h
    generalize hp : Pattern.star mark isLazy (.atom charClass) = p at h
    induction h with
    | stop => exact ⟨by simp, rfl⟩
    | more h₁ _ _ ih =>
      cases hp
      obtain ⟨⟨c, rfl, hc⟩, rfl⟩ := matches_atom.1 h₁
      obtain ⟨hx, rfl⟩ := ih rfl
      exact ⟨by simpa [hc] using hx, rfl⟩
    | _ => cases hp
  · rintro ⟨hw, rfl⟩
    induction w generalizing b with
    | nil => exact .stop
    | cons c w ih =>
      have hc : charClass.contains c = true := hw c (by simp)
      exact .more (w := [c]) (.atom hc) (ih fun d hd => hw d (by simp [hd]))

theorem matches_plus_atom {mark : Option Nat} {isLazy : Bool} {charClass : CharClass} :
    Matches (.plus mark isLazy (.atom charClass)) b w a g ↔
      w ≠ [] ∧ (∀ c ∈ w, charClass.contains c = true) ∧ g = [] := by
  constructor
  · intro h
    cases h with
    | plus h₁ h₂ =>
      obtain ⟨⟨c, rfl, hc⟩, rfl⟩ := matches_atom.1 h₁
      obtain ⟨hx, rfl⟩ := matches_star_atom.1 h₂
      exact ⟨by simp, by simpa [hc] using hx, rfl⟩
  · rintro ⟨hne, hw, rfl⟩
    obtain ⟨c, w, rfl⟩ := List.exists_cons_of_ne_nil hne
    have hc : charClass.contains c = true := hw c (by simp)
    exact .plus (w := [c]) (.atom hc) (matches_star_atom.2 ⟨fun d hd => hw d (by simp [hd]), rfl⟩)

/-! ## Fixed texts -/

theorem contains_single {c d : Char} : (CharClass.single c).contains d = true ↔ d = c := by
  simp only [CharClass.single, CharClass.contains, Bool.and_eq_true, decide_eq_true_eq]
  exact ⟨fun h => Char.le_antisymm h.2 h.1, fun h => h ▸ ⟨Char.le_refl _, Char.le_refl _⟩⟩

/-- The pattern of some characters one after the other, and what follows them. -/
def literal : List Char → Pattern → Pattern
  | [], next => next
  | c :: cs, next => .seq (.atom (.single c)) (literal cs next)

theorem matches_literal {cs : List Char} :
    Matches (literal cs p) b w a g ↔ ∃ x, w = cs ++ x ∧ p.Matches (lastOr b cs) x a g := by
  induction cs generalizing b w g with
  | nil => simp [literal]
  | cons c cs ih =>
    rw [literal, matches_seq]
    constructor
    · rintro ⟨x, y, gx, gy, rfl, rfl, hx, hy⟩
      obtain ⟨⟨d, rfl, hd⟩, rfl⟩ := matches_atom.1 hx
      obtain rfl := contains_single.1 hd
      rw [List.append_nil]
      obtain ⟨z, rfl, hz⟩ := ih.1 hy
      exact ⟨z, rfl, by simpa using hz⟩
    · rintro ⟨x, rfl, hx⟩
      refine ⟨[c], cs ++ x, [], g, rfl, by simp, .atom (contains_single.2 rfl), ih.2 ⟨x, rfl, ?_⟩⟩
      simpa using hx

/-- A word after an edge matches where no word character stands before it. -/
theorem matches_wordStart {c : Char} (hc : Text.isWord c = true) {cs : List Char} :
    Matches (.seq (.edge .word) (literal (c :: cs) p)) b w a g ↔
      (∀ d ∈ b, Text.isWord d = false) ∧ ∃ x, w = c :: cs ++ x ∧ p.Matches (lastOr b (c :: cs)) x a g := by
  have hedge : ∀ {r : List Char}, Edge.word.holds (.start b (c :: r)) = true ↔
      ∀ d ∈ b, Text.isWord d = false := by
    intro r
    cases b <;> simp [Edge.holds, Edge.between, Cursor.start, hc]
  simp only [matches_seq, matches_edge, matches_literal]
  constructor
  · rintro ⟨x, y, gx, gy, rfl, rfl, ⟨hb, rfl, rfl⟩, z, rfl, hz⟩
    refine ⟨hedge.1 hb, z, rfl, ?_⟩
    rwa [List.append_nil]
  · rintro ⟨hb, x, rfl, hx⟩
    refine ⟨[], _, [], g, rfl, (List.append_nil g).symm, ⟨hedge.2 hb, rfl, rfl⟩, x, rfl, hx⟩

/-- The pattern of one text. -/
def word (cs : List Char) : Pattern := concat (cs.map fun c => .atom (.single c))

theorem matches_word {cs : List Char} : Matches (word cs) b w a g ↔ w = cs ∧ g = [] := by
  induction cs generalizing b w with
  | nil =>
    constructor
    · rintro (_ | _)
      exact ⟨rfl, rfl⟩
    · rintro ⟨rfl, rfl⟩
      exact .empty
  | cons c cs ih =>
    cases cs with
    | nil =>
      rw [word, List.map_singleton, concat, matches_atom]
      simp [contains_single]
    | cons d cs =>
      have hword : word (c :: d :: cs) = literal [c] (word (d :: cs)) := rfl
      rw [hword, matches_literal]
      constructor
      · rintro ⟨x, rfl, hx⟩
        obtain ⟨rfl, rfl⟩ := ih.1 hx
        exact ⟨rfl, rfl⟩
      · rintro ⟨rfl, rfl⟩
        exact ⟨_, rfl, ih.2 ⟨rfl, rfl⟩⟩

theorem matches_choice {ps : List Pattern} (h : ps ≠ []) :
    Matches (choice ps) b w a g ↔ ∃ p ∈ ps, p.Matches b w a g := by
  match ps with
  | [p] => simp [choice]
  | p :: q :: ps =>
    have ih : Matches (choice (q :: ps)) b w a g ↔ _ := matches_choice (by simp)
    rw [choice, matches_alt, ih]
    · simp
    · simp

theorem matches_choice_word {words : List (List Char)} (h : words ≠ []) :
    Matches (choice (words.map word)) b w a g ↔ w ∈ words ∧ g = [] := by
  rw [matches_choice (by simpa using h)]
  constructor
  · rintro ⟨p, hp, h⟩
    obtain ⟨cs, hcs, rfl⟩ := List.mem_map.1 hp
    obtain ⟨rfl, hg⟩ := matches_word.1 h
    exact ⟨hcs, hg⟩
  · rintro ⟨hw, hg⟩
    exact ⟨word w, List.mem_map.2 ⟨w, hw, rfl⟩, matches_word.2 ⟨rfl, hg⟩⟩

end Pattern
end UiSkeleton
