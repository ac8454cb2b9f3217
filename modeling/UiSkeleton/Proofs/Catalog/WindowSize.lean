/-
The size of the window. It is written by a call whose two arguments are calls for a number of
pixels, and only the leftmost call counts. The pattern for it is clear, since only the name of the
call itself ends before a parenthesis as it does, and a call is the same one whatever stands behind
it; so more text never changes a size that is there. Both numbers are taken from the call, or the
usual size is.
-/
import UiSkeleton.Proofs.Catalog.ColorMention
import UiSkeleton.Proofs.Number.Pixels
import UiSkeleton.Proofs.Pattern.Leftmost

namespace UiSkeleton

namespace Pattern

variable {p : Pattern} {b : Option Char} {w a : List Char} {g : List (Nat × List Char)}

/-- Any number of blanks, and what follows them. -/
def blanks (next : Pattern) : Pattern := .seq (.star none false (.atom .blank)) next

theorem matches_blanks : Matches (blanks p) b w a g ↔
    ∃ s x, w = s ++ x ∧ (∀ c ∈ s, Text.isBlank c = true) ∧ p.Matches (lastOr b s) x a g := by
  rw [blanks, matches_seq]
  simp only [matches_star_atom, CharClass.contains]
  constructor
  · rintro ⟨s, x, _, gx, rfl, rfl, ⟨hs, rfl⟩, hx⟩
    exact ⟨s, x, rfl, hs, by simpa using hx⟩
  · rintro ⟨s, x, rfl, hs, hx⟩
    exact ⟨s, x, [], g, rfl, by simp, ⟨hs, rfl⟩, hx⟩

/-- A call with a number of pixels: its argument holds no parentheses, and something follows it. -/
def pixelCall (index : Nat) (next : Pattern) : Pattern :=
  .literal "px(".toList (.seq
    (.group index (.star none false (.atom (.complement (.union (.single '(') (.single ')'))))))
    (.literal ")".toList next))

theorem matches_pixelCall {index : Nat} : Matches (pixelCall index p) b w a g ↔
    ∃ x rest h, w = "px(".toList ++ (x ++ (")".toList ++ rest)) ∧ g = h ++ [(index, x)] ∧
      '(' ∉ x ∧ ')' ∉ x ∧ p.Matches (some ')') rest a h := by
  have hargument : ∀ {x : List Char},
      (∀ c ∈ x, (CharClass.complement (.union (.single '(') (.single ')'))).contains c = true) ↔
      '(' ∉ x ∧ ')' ∉ x := by
    intro x
    simp only [CharClass.contains, Bool.not_eq_true', ← Bool.not_eq_true, Bool.or_eq_true,
      contains_single, not_or]
    grind
  simp only [pixelCall, matches_literal, matches_seq, matches_group, matches_star_atom, hargument]
  constructor
  · rintro ⟨_, rfl, x, _, _, h, rfl, rfl, ⟨_, rfl, hx, rfl⟩, rest, rfl, hrest⟩
    exact ⟨x, rest, h, rfl, rfl, hx.1, hx.2, hrest⟩
  · rintro ⟨x, rest, h, rfl, rfl, hopen, hclose, hrest⟩
    exact ⟨_, rfl, x, _, _, h, rfl, rfl, ⟨_, rfl, ⟨hopen, hclose⟩, rfl⟩, rest, rfl, hrest⟩

end Pattern

/-! ## The calls for a size -/

/-- A call for a size: two arguments without parentheses, and the blanks where they may stand. -/
@[ext]
structure SizeCall where
  width : List Char
  height : List Char
  afterOpening : List Char
  beforeComma : List Char
  afterComma : List Char
  beforeClosing : List Char
  noOpening : '(' ∉ width ++ height
  noClosing : ')' ∉ width ++ height
  blank : ∀ c ∈ afterOpening ++ beforeComma ++ afterComma ++ beforeClosing, Text.isBlank c = true

namespace SizeCall

/-- The call as it is written. -/
def text (call : SizeCall) : List Char :=
  "size(".toList ++ (call.afterOpening ++ ("px(".toList ++ (call.width ++ (")".toList ++
    (call.beforeComma ++ (",".toList ++ (call.afterComma ++ ("px(".toList ++ (call.height ++
    (")".toList ++ (call.beforeClosing ++ ")".toList)))))))))))

-- `simp` takes seconds to unfold the text by itself, so the proofs below rewrite with this equation
theorem text_eq (call : SizeCall) :
    call.text = "size(".toList ++ (call.afterOpening ++ ("px(".toList ++ (call.width ++ (")".toList ++
      (call.beforeComma ++ (",".toList ++ (call.afterComma ++ ("px(".toList ++ (call.height ++
      (")".toList ++ (call.beforeClosing ++ ")".toList))))))))))) := rfl

theorem getLast?_text (call : SizeCall) : call.text.getLast? = some ')' := by
  simp only [text_eq, ← List.append_assoc]
  rw [List.getLast?_append_of_ne_nil _ (by simp)]
  rfl

theorem not_mem_gaps (call : SizeCall) {c : Char} (hc : Text.isBlank c = false) :
    c ∉ call.afterOpening ∧ c ∉ call.beforeComma ∧ c ∉ call.afterComma ∧ c ∉ call.beforeClosing := by
  have hgaps : c ∉ call.afterOpening ++ call.beforeComma ++ call.afterComma ++ call.beforeClosing := by
    intro hmem
    rw [call.blank c hmem] at hc
    cases hc
  simpa [and_assoc] using hgaps

/-- A `SizeCall` can be read in one way only. -/
theorem eq_of_text_append {call call' : SizeCall} {a a' : List Char}
    (h : call.text ++ a = call'.text ++ a') : call = call' := by
  obtain ⟨hp₁, -, hp₂, -⟩ := call.not_mem_gaps (c := 'p') (by decide)
  obtain ⟨hp₁', -, hp₂', -⟩ := call'.not_mem_gaps (c := 'p') (by decide)
  have hcomma := (call.not_mem_gaps (c := ',') (by decide)).2.1
  have hcomma' := (call'.not_mem_gaps (c := ',') (by decide)).2.1
  have hclose := (call.not_mem_gaps (c := ')') (by decide)).2.2.2
  have hclose' := (call'.not_mem_gaps (c := ')') (by decide)).2.2.2
  have harguments := call.noClosing
  have harguments' := call'.noClosing
  simp only [List.mem_append, not_or] at harguments harguments'
  simp only [text_eq, List.append_assoc, List.append_cancel_left_eq] at h
  -- each gap and each argument ends at the first character that it may not hold
  have h₁ := Text.eq_of_append_cons hp₁ hp₁' h
  simp only [h₁, List.append_cancel_left_eq] at h
  have h₂ := Text.eq_of_append_cons harguments.1 harguments'.1 h
  simp only [h₂, List.append_cancel_left_eq] at h
  have h₃ := Text.eq_of_append_cons hcomma hcomma' h
  simp only [h₃, List.append_cancel_left_eq] at h
  have h₄ := Text.eq_of_append_cons hp₂ hp₂' h
  simp only [h₄, List.append_cancel_left_eq] at h
  have h₅ := Text.eq_of_append_cons harguments.2 harguments'.2 h
  simp only [h₅, List.append_cancel_left_eq] at h
  have h₆ := Text.eq_of_append_cons hclose hclose' h
  exact SizeCall.ext h₂ h₅ h₁ h₃ h₄ h₆

/-- Each opening parenthesis of a `SizeCall` ends the name of the call itself or stands behind an
x. -/
theorem opening {call : SizeCall} {u v : List Char} (h : call.text = u ++ '(' :: v) :
    u = "size".toList ∨ ∃ front, u = front ++ ['x'] := by
  have hgaps : '(' ∉ call.afterOpening ++ call.beforeComma ++ call.afterComma ++ call.beforeClosing :=
    fun hmem => absurd (call.blank _ hmem) (by decide)
  have harguments := call.noOpening
  simp only [List.mem_append, not_or] at hgaps harguments
  have htext : "size".toList ++ '(' :: ((call.afterOpening ++ "px".toList) ++ '(' ::
      ((call.width ++ (")".toList ++ (call.beforeComma ++ (",".toList ++ (call.afterComma ++
      "px".toList))))) ++ '(' :: (call.height ++ (")".toList ++ (call.beforeClosing ++
      ")".toList))))) = u ++ '(' :: v := by
    rw [← h]
    simp [text_eq]
  rcases Text.append_cons_cases (by decide) htext with rfl | ⟨u₁, rfl, hfirst⟩
  · exact .inl rfl
  · refine .inr ?_
    rcases Text.append_cons_cases (by simp [hgaps]) hfirst with rfl | ⟨u₂, rfl, hsecond⟩
    · exact ⟨"size(".toList ++ (call.afterOpening ++ "p".toList), by simp⟩
    · rcases Text.append_cons_cases (by simp [hgaps, harguments]) hsecond with rfl | ⟨u₃, rfl, hthird⟩
      · exact ⟨"size(".toList ++
          (call.afterOpening ++ ("px(".toList ++ (call.width ++ (")".toList ++ (call.beforeComma ++
          (",".toList ++ (call.afterComma ++ "p".toList))))))), by simp⟩
      · have hmem : '(' ∈ call.height ++ (")".toList ++ (call.beforeClosing ++ ")".toList)) :=
          hthird ▸ List.mem_append_right u₃ List.mem_cons_self
        simp [hgaps, harguments] at hmem

/-- The call stands in the source behind a text that does not end in a word. -/
def Behind (call : SizeCall) (before source : List Char) : Prop :=
  (∃ after, source = before ++ (call.text ++ after)) ∧ ∀ c ∈ before.getLast?, Text.isWord c = false

/-- The call stands there, and none stands further to the left. -/
def First (call : SizeCall) (before source : List Char) : Prop :=
  call.Behind before source ∧ ∀ call' before', Behind call' before' source → before.length ≤ before'.length

end SizeCall

namespace Catalog

open Pattern

theorem windowSize_reads :
    builtin.extractors.windowSize.groupCount = 2 ∧ builtin.extractors.windowSize.pattern =
      .seq (.edge .word) (.literal "size(".toList (.blanks (.pixelCall 1 (.blanks (.literal ",".toList
        (.blanks (.pixelCall 2 (.blanks (.word ")".toList))))))))) := by
  decide +kernel

variable {b : Option Char} {w a : List Char} {g : List (Nat × List Char)}

/-- The pattern matches what is a `SizeCall`, and its groups are the arguments. -/
theorem matches_windowSize :
    builtin.extractors.windowSize.pattern.Matches b w a g ↔ (∀ c ∈ b, Text.isWord c = false) ∧
      ∃ call : SizeCall, w = call.text ∧ g = [(2, call.height), (1, call.width)] := by
  rw [windowSize_reads.2, show "size(".toList = 's' :: "ize(".toList from rfl, matches_wordStart (by decide)]
  simp only [matches_blanks, matches_pixelCall, matches_literal, matches_word]
  constructor
  · rintro ⟨hb, _, rfl, s₁, _, rfl, h₁, x, _, _, rfl, rfl, hx, hx', s₂, _, rfl, h₂, _, rfl,
      s₃, _, rfl, h₃, y, _, _, rfl, rfl, hy, hy', s₄, _, rfl, h₄, rfl, rfl⟩
    refine ⟨hb, ⟨x, y, s₁, s₂, s₃, s₄, by simp [hx, hy], by simp [hx', hy'], ?_⟩, rfl, rfl⟩
    simp only [List.mem_append, or_assoc]
    rintro c (hc | hc | hc | hc)
    · exact h₁ c hc
    · exact h₂ c hc
    · exact h₃ c hc
    · exact h₄ c hc
  · rintro ⟨hb, ⟨x, y, s₁, s₂, s₃, s₄, hopen, hclose, hblank⟩, rfl, rfl⟩
    simp only [List.mem_append, not_or] at hopen hclose hblank
    exact ⟨hb, _, rfl, s₁, _, rfl, fun c hc => hblank c (by simp [hc]),
      x, _, _, rfl, rfl, hopen.1, hclose.1, s₂, _, rfl, fun c hc => hblank c (by simp [hc]),
      _, rfl, s₃, _, rfl, fun c hc => hblank c (by simp [hc]),
      y, _, _, rfl, rfl, hopen.2, hclose.2, s₄, _, rfl, fun c hc => hblank c (by simp [hc]), rfl, rfl⟩

theorem steady_windowSize : builtin.extractors.windowSize.pattern.Steady := fun h =>
  matches_windowSize.2 (matches_windowSize.1 h)

theorem clear_windowSize : builtin.extractors.windowSize.pattern.Clear where
  plain := by rw [windowSize_reads.2]; decide
  reads := by rw [windowSize_reads.2]; decide
  unique h h' heq := by
    obtain ⟨-, call, rfl, rfl⟩ := matches_windowSize.1 h
    obtain ⟨-, call', rfl, rfl⟩ := matches_windowSize.1 h'
    obtain rfl := SizeCall.eq_of_text_append heq
    exact ⟨rfl, rfl⟩
  apart := by
    intro b x y a g b' w' a' g' h hx hy h' heq
    obtain ⟨-, call, hcall, -⟩ := matches_windowSize.1 h
    obtain ⟨-, call', rfl, -⟩ := matches_windowSize.1 h'
    have hlast : y.getLast? = some ')' := by
      rw [← List.getLast?_append_of_ne_nil x hy, hcall]
      exact call.getLast?_text
    rw [SizeCall.text_eq, List.append_assoc] at heq
    rcases List.append_eq_append_iff.1 heq with ⟨z, hz, -⟩ | ⟨z, rfl, -⟩
    · have hmem : ')' ∈ "size(".toList := hz ▸ List.mem_append_left z (List.mem_of_getLast? hlast)
      exact absurd hmem (by decide)
    · rcases SizeCall.opening (u := x ++ "size".toList) (v := z) (by rw [← hcall]; simp) with
          hname | ⟨front, hfront⟩
      · exact hx (by simpa using hname)
      · have hletter := congrArg List.getLast? hfront
        simp at hletter

/-! ## The size of the window -/

theorem behind_iff {call : SizeCall} {before source : List Char} : call.Behind before source ↔
    ∃ after, source = before ++ (call.text ++ after) ∧
      builtin.extractors.windowSize.pattern.Matches (lastOr none before) call.text after
        [(2, call.height), (1, call.width)] := by
  rw [lastOr_none]
  constructor
  · rintro ⟨⟨after, hsource⟩, hword⟩
    exact ⟨after, hsource, matches_windowSize.2 ⟨hword, call, rfl, rfl⟩⟩
  · rintro ⟨after, hsource, hmatches⟩
    exact ⟨⟨after, hsource⟩, (matches_windowSize.1 hmatches).1⟩

/-- The size is that of the arguments that are found first. -/
theorem windowSizeOf_of_find? {source : List Char} {call : SizeCall}
    (h : builtin.extractors.windowSize.find? source = some ⟨call.text, [(2, call.height), (1, call.width)]⟩) :
    builtin.windowSizeOf source = (WindowSize.ofArguments? call.width call.height).getD .usual := by
  have harguments : builtin.windowArguments? source = some (call.width, call.height) := by
    rw [windowArguments?, Matcher.textMatcher_firstGroups, Matcher.firstGroups, h, windowSize_reads.1]
    rfl
  rw [windowSizeOf, harguments]
  rfl

theorem find?_of_behind {call : SizeCall} {before source : List Char} (h : call.Behind before source)
    (hnone : builtin.extractors.windowSize.occursIn before = false) :
    builtin.extractors.windowSize.find? source = some ⟨call.text, [(2, call.height), (1, call.width)]⟩ := by
  obtain ⟨after, rfl, hmatches⟩ := behind_iff.1 h
  refine clear_windowSize.search_append steady_windowSize ?_ hmatches
  simpa [Matcher.occursIn, Matcher.find?] using hnone

theorem exists_first_of_find? {source : List Char} {o : Occurrence}
    (h : builtin.extractors.windowSize.find? source = some o) :
    ∃ call before, SizeCall.First call before source ∧
      o = ⟨call.text, [(2, call.height), (1, call.width)]⟩ := by
  obtain ⟨text, groups⟩ := o
  obtain ⟨before, after, hsource, hmatches, hfirst⟩ := leftmost_of_search clear_windowSize.plain h
  simp only at hsource hmatches
  obtain ⟨-, call, rfl, rfl⟩ := matches_windowSize.1 hmatches
  refine ⟨call, before, ⟨behind_iff.2 ⟨after, hsource, hmatches⟩, fun call' before' h' => ?_⟩, rfl⟩
  obtain ⟨after', hsource', hmatches'⟩ := behind_iff.1 h'
  exact hfirst hsource' hmatches'

theorem not_behind_of_find? {source : List Char} (h : builtin.extractors.windowSize.find? source = none) :
    ¬ ∃ call before, SizeCall.Behind call before source := by
  rintro ⟨call, before, hbehind⟩
  obtain ⟨after, rfl, hmatches⟩ := behind_iff.1 hbehind
  have hsome := isSome_search_of_matches clear_windowSize.plain hmatches
  rw [Matcher.find?] at h
  rw [h] at hsome
  cases hsome

/-- **The first `SizeCall` decides the `windowSize`**, with both of its arguments or not at all:
what each `Measures` is cut to whole pixels, else the size is 500 by 500. More text behind a call
changes nothing, and what `Spells` a possible number gives it back. -/
theorem windowSize_analyze :
    (∀ a b : String, builtin.extractors.windowSize.occursIn a.toList = true →
      (builtin.analyze (a ++ b)).windowSize = (builtin.analyze a).windowSize) ∧
    (∀ source : String,
      (∃ call before, SizeCall.First call before source.toList ∧
        ((∃ x y, WindowSize.Measures call.width x ∧ WindowSize.Measures call.height y ∧
            (builtin.analyze source).windowSize = ⟨⌊x⌋₊, ⌊y⌋₊⟩) ∨
          (¬ ∃ x y, WindowSize.Measures call.width x ∧ WindowSize.Measures call.height y) ∧
            (builtin.analyze source).windowSize = ⟨500, 500⟩)) ∨
      (¬ ∃ call before, SizeCall.Behind call before source.toList) ∧
      (builtin.analyze source).windowSize = ⟨500, 500⟩) ∧
    ∀ (width height : Nat) (call : SizeCall) (before : List Char) (source : String),
      width ≤ WindowSize.maxPixels → height ≤ WindowSize.maxPixels →
      WindowSize.Spells width call.width → WindowSize.Spells height call.height →
      call.Behind before source.toList → builtin.extractors.windowSize.occursIn before = false →
      (builtin.analyze source).windowSize = ⟨width, height⟩ := by
  have hanalyze : ∀ source : String, (builtin.analyze source).windowSize =
      builtin.windowSizeOf source.toList := fun _ => rfl
  simp only [hanalyze]
  refine ⟨fun a b h => ?_, fun source => ?_,
    fun width height call before source hwidth hheight hw hh hbehind hnone => ?_⟩
  · have hfind : builtin.extractors.windowSize.find? (a ++ b).toList =
        builtin.extractors.windowSize.find? a.toList := by
      rw [String.toList_append]
      exact clear_windowSize.search_eq steady_windowSize h
    simp only [windowSizeOf, windowArguments?, Matcher.textMatcher_firstGroups, Matcher.firstGroups, hfind]
  · cases hfind : builtin.extractors.windowSize.find? source.toList with
    | none =>
      refine .inr ⟨not_behind_of_find? hfind, ?_⟩
      simp only [windowSizeOf, windowArguments?, Matcher.textMatcher_firstGroups, Matcher.firstGroups, hfind]
      rfl
    | some o =>
      obtain ⟨call, before, hfirst, rfl⟩ := exists_first_of_find? hfind
      rw [windowSizeOf_of_find? hfind]
      exact .inl ⟨call, before, hfirst, WindowSize.ofArguments?_cases⟩
  · rw [windowSizeOf_of_find? (find?_of_behind hbehind hnone), WindowSize.ofArguments?,
      WindowSize.pixels?_of_spells hw hwidth, WindowSize.pixels?_of_spells hh hheight]
    rfl

/-- A size with the greatest number of pixels, which more text does not change. -/
theorem windowSize_analyze_greatest :
    (builtin.analyze ("size(px(8), px(-6))" ++ "; size(px(1), px(2))")).windowSize =
      (builtin.analyze "size(px(8), px(-6))").windowSize ∧
      (builtin.analyze "resize(); size( px(4294967295.0) ,px( 0 ))").windowSize = ⟨4294967295, 0⟩ := by
  refine ⟨windowSize_analyze.1 _ _ (by decide +kernel), ?_⟩
  refine windowSize_analyze.2.2 4294967295 0
    ⟨"4294967295.0".toList, " 0 ".toList, " ".toList, " ".toList, [], [],
      by decide, by decide, List.all_eq_true.1 (by decide)⟩
    "resize(); ".toList _ (by decide) (by decide) ?_ ?_ ?_ (by decide +kernel)
  · exact ⟨[], ".0".toList, [], by decide, by decide, List.all_eq_true.1 (by decide)⟩
  · exact ⟨" ".toList, [], " ".toList, by decide, by decide, List.all_eq_true.1 (by decide)⟩
  · refine ⟨⟨[], by decide⟩, fun c hc => ?_⟩
    obtain rfl : ' ' = c := Option.some.inj hc
    decide

end Catalog
end UiSkeleton
