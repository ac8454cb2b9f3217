/-
Which colors a source has. A color is written by a call, of its digits or of its name, that does not
go on a word; the set of colors has exactly what is written so. Both patterns are clear: a call can
be read in one way only, and no call starts inside another one, so the searches pass none over.
-/
import Mathlib.Data.List.Infix
import UiSkeleton.Analysis
import UiSkeleton.Proofs.Pattern.Edits
import UiSkeleton.Proofs.Text.Ascii

namespace UiSkeleton

/-- A character behind a front without it is the first one of its kind or stands further on. -/
theorem Text.append_cons_cases {x : Char} {l m a b : List Char} (hl : x ∉ l) (h : l ++ x :: a = m ++ x :: b) :
    m = l ∨ ∃ rest, m = l ++ x :: rest ∧ a = rest ++ x :: b := by
  rcases List.append_eq_append_iff.1 h with ⟨rest, rfl, hrest⟩ | ⟨rest, rfl, hrest⟩
  · cases rest with
    | nil => exact .inl (List.append_nil l)
    | cons y rest =>
      rw [List.cons_append, List.cons.injEq] at hrest
      obtain ⟨rfl, hrest⟩ := hrest
      exact .inr ⟨rest, rfl, hrest⟩
  · cases rest with
    | nil => exact .inl (List.append_nil m).symm
    | cons y rest =>
      obtain ⟨rfl, -⟩ := List.cons.inj hrest
      exact absurd (List.mem_append_right m List.mem_cons_self) hl

theorem Text.eq_of_append_cons {x : Char} {l m a b : List Char} (hl : x ∉ l) (hm : x ∉ m)
    (h : l ++ x :: a = m ++ x :: b) : l = m := by
  rcases append_cons_cases hl h with rfl | ⟨rest, rfl, -⟩
  · rfl
  · exact absurd (List.mem_append_right l List.mem_cons_self) hm

namespace Pattern

theorem ne_append_of_not_prefix {s y a w' a' : List Char} (hs : s <+: w')
    (h : ¬ (y <+: s ∨ s <+: y)) : y ++ a ≠ w' ++ a' := by
  intro heq
  have hy : y <+: w' ++ a' := heq ▸ List.prefix_append y a
  exact h (List.prefix_or_prefix_of_prefix hy (hs.trans (List.prefix_append w' a')))

end Pattern

namespace Catalog

open Pattern

variable {b : Option Char} {w a : List Char} {g : List (Nat × List Char)}

/-! ## Color literals -/

/-- The digits of a color literal. -/
def hexClass : CharClass := .union (.union (.range '0' '9') (.range 'a' 'f')) (.range 'A' 'F')

theorem contains_hexClass (c : Char) : hexClass.contains c = Text.isHexDigit c := rfl

theorem hexColor_reads : builtin.extractors.hexColor.groupCount = 1 ∧ builtin.extractors.hexColor.pattern =
    .seq (.edge .word) (.literal "rgb(0x".toList
      (.seq (.group 1 (.plus none false (.atom hexClass))) (.word ")".toList))) := by
  decide +kernel

theorem matches_hexColor : builtin.extractors.hexColor.pattern.Matches b w a g ↔
    (∀ c ∈ b, Text.isWord c = false) ∧ ∃ d, w = "rgb(0x".toList ++ d ++ ")".toList ∧ d ≠ [] ∧
      (∀ c ∈ d, Text.isHexDigit c = true) ∧ g = [(1, d)] := by
  rw [hexColor_reads.2, show "rgb(0x".toList = 'r' :: "gb(0x".toList from rfl, matches_wordStart (by decide)]
  simp only [matches_seq, matches_group, matches_plus_atom, matches_word, contains_hexClass]
  constructor
  · rintro ⟨hb, x, rfl, d, y, gd, gy, rfl, rfl, ⟨inner, rfl, hne, hd, rfl⟩, rfl, rfl⟩
    exact ⟨hb, d, by simp, hne, hd, rfl⟩
  · rintro ⟨hb, d, rfl, hne, hd, rfl⟩
    exact ⟨hb, _, by simp, d, _, _, [], rfl, rfl, ⟨[], rfl, hne, hd, rfl⟩, rfl, rfl⟩

theorem clear_hexColor : builtin.extractors.hexColor.pattern.Clear where
  plain := by rw [hexColor_reads.2]; decide
  reads := by rw [hexColor_reads.2]; decide
  unique h h' heq := by
    obtain ⟨-, d, rfl, -, hd, rfl⟩ := matches_hexColor.1 h
    obtain ⟨-, d', rfl, -, hd', rfl⟩ := matches_hexColor.1 h'
    -- the parenthesis that ends the literal is no digit
    have hclose : ∀ {d : List Char}, (∀ c ∈ d, Text.isHexDigit c = true) → ')' ∉ d := fun hd hmem =>
      absurd (hd _ hmem) (by decide)
    simp only [List.append_assoc, List.append_cancel_left_eq] at heq
    obtain rfl := Text.eq_of_append_cons (hclose hd) (hclose hd') heq
    exact ⟨rfl, rfl⟩
  apart := by
    intro b x y a g b' w' a' g' h hx hy h'
    obtain ⟨-, d, hw, -, hd, -⟩ := matches_hexColor.1 h
    obtain ⟨-, d', rfl, -, -, -⟩ := matches_hexColor.1 h'
    obtain ⟨c, x, rfl⟩ := List.exists_cons_of_ne_nil hx
    have htail : x ++ y = "gb(0x".toList ++ d ++ ")".toList := (List.cons.inj hw).2
    have hr : 'r' ∉ y := by
      intro hr
      have hmem : 'r' ∈ "gb(0x".toList ++ d ++ ")".toList := htail ▸ List.mem_append_right x hr
      simp only [List.mem_append] at hmem
      rcases hmem with (hmem | hmem) | hmem
      · exact absurd hmem (by decide)
      · exact absurd (hd _ hmem) (by decide)
      · exact absurd hmem (by decide)
    refine ne_append_of_not_prefix (s := ['r']) ⟨_, rfl⟩ ?_
    rintro (hfront | hfront)
    · obtain ⟨e, y, rfl⟩ := List.exists_cons_of_ne_nil hy
      obtain ⟨rfl, -⟩ := List.cons_prefix_cons.1 hfront
      exact hr List.mem_cons_self
    · exact hr (hfront.subset List.mem_cons_self)

/-! ## Named colors -/

/-- The call of a name. -/
def namedCall (name : List Char) : List Char := "gpui::".toList ++ name ++ "()".toList

theorem namedCall_eq (name : List Char) :
    namedCall name = "gpui::".toList ++ (name ++ "()".toList) := List.append_assoc ..

/-- The names of all named colors. -/
def colorNames : List (List Char) := NamedColor.all.map fun color => color.name.toList

theorem namedColor_reads :
    builtin.extractors.namedColor.groupCount = 1 ∧ builtin.extractors.namedColor.pattern =
      .seq (.edge .word) (.literal "gpui::".toList
        (.seq (.group 1 (.choice (colorNames.map .word))) (.word "()".toList))) := by
  decide

theorem matches_namedColor : builtin.extractors.namedColor.pattern.Matches b w a g ↔
    (∀ c ∈ b, Text.isWord c = false) ∧ ∃ name ∈ colorNames, w = namedCall name ∧ g = [(1, name)] := by
  rw [namedColor_reads.2, show "gpui::".toList = 'g' :: "pui::".toList from rfl,
    matches_wordStart (by decide)]
  have hname : ∀ {b w a g}, Matches (.choice (colorNames.map .word)) b w a g ↔ w ∈ colorNames ∧ g = [] :=
    matches_choice_word (by decide)
  simp only [matches_seq, matches_group, hname, matches_word]
  constructor
  · rintro ⟨hb, x, rfl, name, y, gn, gy, rfl, rfl, ⟨inner, rfl, hname, rfl⟩, rfl, rfl⟩
    exact ⟨hb, name, hname, (namedCall_eq name).symm, rfl⟩
  · rintro ⟨hb, name, hname, rfl, rfl⟩
    exact ⟨hb, _, namedCall_eq name, name, _, _, [], rfl, rfl, ⟨[], rfl, hname, rfl⟩, rfl, rfl⟩

/-- No part of a `namedCall` starts as one does. -/
theorem namedCall_apart : colorNames.all (fun name => (namedCall name).tail.tails.all fun y =>
    y.isEmpty || !(y.isPrefixOf "gpui::".toList || "gpui::".toList.isPrefixOf y)) = true := by
  decide

theorem paren_not_mem_colorNames : ∀ name ∈ colorNames, '(' ∉ name := by
  decide

theorem clear_namedColor : builtin.extractors.namedColor.pattern.Clear where
  plain := by rw [namedColor_reads.2]; decide
  reads := by rw [namedColor_reads.2]; decide
  unique h h' heq := by
    obtain ⟨-, name, hname, rfl, rfl⟩ := matches_namedColor.1 h
    obtain ⟨-, name', hname', rfl, rfl⟩ := matches_namedColor.1 h'
    simp only [namedCall_eq, List.append_assoc, List.append_cancel_left_eq] at heq
    obtain rfl := Text.eq_of_append_cons (paren_not_mem_colorNames _ hname)
      (paren_not_mem_colorNames _ hname') heq
    exact ⟨rfl, rfl⟩
  apart := by
    intro b x y a g b' w' a' g' h hx hy h'
    obtain ⟨-, name, hname, hw, -⟩ := matches_namedColor.1 h
    obtain ⟨-, name', -, rfl, -⟩ := matches_namedColor.1 h'
    obtain ⟨c, x, rfl⟩ := List.exists_cons_of_ne_nil hx
    have hsuffix : y <:+ (namedCall name).tail := ⟨x, congrArg List.tail hw⟩
    have hapart := List.all_eq_true.1 (List.all_eq_true.1 namedCall_apart name hname) y
      ((List.mem_tails _ _).2 hsuffix)
    refine ne_append_of_not_prefix (s := "gpui::".toList) ⟨_, (List.append_assoc ..).symm⟩ ?_
    simpa [hy, ← List.isPrefixOf_iff_prefix] using hapart

/-! ## The colors of a source -/

theorem mem_colors_iff {source : String} {token : ColorToken} : token ∈ (builtin.analyze source).colors ↔
    (∃ name ∈ builtin.extractors.namedColor.findAll source.toList,
      ColorToken.ofName? (String.ofList name) = some token) ∨
      ∃ digits ∈ builtin.extractors.hexColor.findAll source.toList, ColorToken.ofDigits digits = token := by
  have hcolors : (builtin.analyze source).colors = builtin.colorsOf source.toList := rfl
  rw [hcolors, colorsOf, SortedSet.mem_insertMany, SortedSet.mem_ofList, List.mem_filterMap, List.mem_map,
    Matcher.textMatcher_findAll, Matcher.textMatcher_findAll]

/-- The literals of a source are those whose digits are in its `colors`. -/
theorem hex_mem_colors_iff {source digits : String} : .hex digits ∈ (builtin.analyze source).colors ↔
    ∃ d, Text.Stands ("rgb(0x".toList ++ d ++ ")".toList) source.toList ∧ d ≠ [] ∧
      (∀ c ∈ d, Text.isHexDigit c = true) ∧ String.ofList (Text.lowerAscii d) = digits := by
  have hname : ∀ name, ColorToken.ofName? name ≠ some (.hex digits) := by
    intro name
    simp [ColorToken.ofName?]
  have hcount : builtin.extractors.hexColor.groupCount ≠ 0 := by simp [hexColor_reads.1]
  simp only [mem_colors_iff, hname, and_false, exists_false, false_or,
    Matcher.mem_findAll_iff clear_hexColor hcount, matches_hexColor]
  constructor
  · rintro ⟨x, ⟨a, w, c, g, hsource, ⟨ha, d, rfl, hne, hd, rfl⟩, hx⟩, hdigits⟩
    obtain rfl : d = x := by simpa using hx
    exact ⟨d, ⟨a, c, by rw [hsource, List.append_assoc a], ha⟩, hne, hd,
      by simpa [ColorToken.ofDigits] using hdigits⟩
  · rintro ⟨d, ⟨a, c, hsource, ha⟩, hne, hd, rfl⟩
    exact ⟨d, ⟨a, _, c, _, by rw [hsource, List.append_assoc a], ⟨ha, d, rfl, hne, hd, rfl⟩, by simp⟩, rfl⟩

theorem isHexDigit_of_mem_colors {source digits : String}
    (h : .hex digits ∈ (builtin.analyze source).colors) :
    ∀ c ∈ digits.toList, Text.isHexDigit c = true := by
  obtain ⟨d, -, -, hd, rfl⟩ := hex_mem_colors_iff.1 h
  rw [String.toList_ofList, Text.lowerAscii]
  intro c hc
  obtain ⟨c, hmem, rfl⟩ := List.mem_map.1 hc
  exact Text.isHexDigit_toLower (hd c hmem)

theorem ofName?_eq_some_iff {name : String} {color : NamedColor} :
    ColorToken.ofName? name = some (.named color) ↔ name = color.name := by
  constructor
  · intro h
    obtain ⟨found, hfind, hfound⟩ := Option.map_eq_some_iff.1 h
    obtain rfl := ColorToken.named.inj hfound
    rw [NamedColor.ofName?] at hfind
    have hname := List.find?_some hfind
    exact (beq_iff_eq.1 hname).symm
  · rintro rfl
    cases color <;> rfl

/-- The named colors of a source are those whose `namedCall` is in it. -/
theorem named_mem_colors_iff {source : String} {color : NamedColor} :
    .named color ∈ (builtin.analyze source).colors ↔
    Text.Stands (namedCall color.name.toList) source.toList := by
  have hdigits : ∀ digits, ColorToken.ofDigits digits ≠ .named color := by
    intro digits
    simp [ColorToken.ofDigits]
  have hcount : builtin.extractors.namedColor.groupCount ≠ 0 := by simp [namedColor_reads.1]
  simp only [mem_colors_iff, hdigits, and_false, exists_false, or_false,
    Matcher.mem_findAll_iff clear_namedColor hcount, matches_namedColor, ofName?_eq_some_iff]
  constructor
  · rintro ⟨x, ⟨a, w, c, g, hsource, ⟨ha, name, -, rfl, rfl⟩, hx⟩, hcolor⟩
    obtain rfl : name = x := by simpa using hx
    rw [← hcolor, String.toList_ofList]
    exact ⟨a, c, by rw [hsource, List.append_assoc a], ha⟩
  · rintro ⟨a, c, hsource, ha⟩
    have hname : color.name.toList ∈ colorNames := List.mem_map.2 ⟨color, by cases color <;> decide, rfl⟩
    exact ⟨_, ⟨a, _, c, _, by rw [hsource, List.append_assoc a], ⟨ha, _, hname, rfl, rfl⟩, by simp⟩,
      String.ofList_toList⟩

/-- **The `colors` of a source are those that it writes**: digits by a call `rgb(0x..)`, in lower
case, and a `NamedColor` by its call in `gpui`, at the start of a word each. -/
theorem colors_analyze (source : String) :
    (∀ digits, .hex digits ∈ (builtin.analyze source).colors ↔
      ∃ a d b, source.toList = a ++ "rgb(0x".toList ++ d ++ ")".toList ++ b ∧
        (∀ c ∈ a.getLast?, Text.isWord c = false) ∧
        d ≠ [] ∧ (∀ c ∈ d, Text.isHexDigit c = true) ∧ String.ofList (Text.lowerAscii d) = digits) ∧
      ∀ color, .named color ∈ (builtin.analyze source).colors ↔
        ∃ a b, source.toList = a ++ "gpui::".toList ++ color.name.toList ++ "()".toList ++ b ∧
          ∀ c ∈ a.getLast?, Text.isWord c = false := by
  constructor
  · intro digits
    rw [hex_mem_colors_iff]
    constructor
    · rintro ⟨d, ⟨a, b, hsource, ha⟩, hne, hd, hdigits⟩
      exact ⟨a, d, b, by simpa using hsource, ha, hne, hd, hdigits⟩
    · rintro ⟨a, d, b, hsource, ha, hne, hd, hdigits⟩
      exact ⟨d, ⟨a, b, by simpa using hsource, ha⟩, hne, hd, hdigits⟩
  · intro color
    rw [named_mem_colors_iff]
    simp only [Text.Stands, namedCall_eq, List.append_assoc]

end Catalog
end UiSkeleton
