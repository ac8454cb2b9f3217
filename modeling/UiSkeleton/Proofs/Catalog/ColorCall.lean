/-
Where the color calls of a builder chain come from. The rules that turn a call `gpui::red()` into a
bare name see the text that the rules before them have left, and these could bring a call about.
They do not: most of them put back what they found, and the others edit the argument of a method,
where no call can reach in (`keepsCalls_of_fits`). So a call that becomes a bare name stands in the
chain as it was written, and in the source.
-/
import UiSkeleton.Proofs.Catalog.Chain
import UiSkeleton.Proofs.Catalog.ColorMention
import UiSkeleton.Proofs.Pattern.Spelling

namespace UiSkeleton

open Text

namespace Catalog

open Pattern

variable {b : Option Char} {w a text : List Char} {g : List (Nat × List Char)}

/-! ## Edits of an argument -/

/-- The methods whose argument is a color. -/
def colorMethods : List (List Char) := ["bg".toList, "border_color".toList, "text_color".toList]

/-- How the argument of these methods is reworded: what encloses some characters of a class, before
and after. -/
structure ArgumentEdit where
  charClass : CharClass
  opening : List Char
  closing : List Char
  newOpening : List Char
  newClosing : List Char

namespace ArgumentEdit

/-- What the edit searches for. -/
def pattern (e : ArgumentEdit) : Pattern :=
  .literal ['.'] <| .seq (.group 1 (.choice (colorMethods.map .word))) <|
    .literal e.opening <| .seq (.group 2 (.plus none false (.atom e.charClass))) (.word e.closing)

/-- What the edit puts in its place. -/
def replacement (e : ArgumentEdit) : Replacement :=
  .char '.' :: .number 1 :: (e.newOpening.map .char ++ .number 2 :: e.newClosing.map .char)

/-- The rule makes the edit. -/
def Fits (e : ArgumentEdit) (rule : ConversionRule) : Prop :=
  rule.matcher.pattern = e.pattern ∧ rule.replacement = e.replacement

instance (e : ArgumentEdit) (rule : ConversionRule) : Decidable (e.Fits rule) :=
  inferInstanceAs (Decidable (_ ∧ _))

theorem matches_pattern {e : ArgumentEdit} : e.pattern.Matches b w a g ↔ ∃ method ∈ colorMethods, ∃ x,
    w = '.' :: (method ++ (e.opening ++ (x ++ e.closing))) ∧ x ≠ [] ∧
    (∀ c ∈ x, e.charClass.contains c = true) ∧
      g = [(2, x), (1, method)] := by
  have hmethod : ∀ {b w a g}, Matches (.choice (colorMethods.map .word)) b w a g ↔
      w ∈ colorMethods ∧ g = [] :=
    matches_choice_word (by decide)
  simp only [pattern, matches_literal, matches_seq, matches_group, matches_plus_atom, hmethod, matches_word]
  constructor
  · rintro ⟨_, rfl, method, _, _, _, rfl, rfl, ⟨_, rfl, hmem, rfl⟩, _, rfl, x, _, _, _, rfl, rfl,
      ⟨_, rfl, hne, hx, rfl⟩, rfl, rfl⟩
    exact ⟨method, hmem, x, rfl, hne, hx, rfl⟩
  · rintro ⟨method, hmem, x, rfl, hne, hx, rfl⟩
    exact ⟨_, rfl, method, _, _, _, rfl, rfl, ⟨[], rfl, hmem, rfl⟩, _, rfl, x, _, _, _, rfl, rfl,
      ⟨[], rfl, hne, hx, rfl⟩, rfl, rfl⟩

theorem expand_replacement (e : ArgumentEdit) (names : List (String × Nat)) (w method x : List Char) :
    e.replacement.expand names ⟨w, [(2, x), (1, method)]⟩ =
      '.' :: (method ++ (e.newOpening ++ (x ++ e.newClosing))) := by
  have hchars : ∀ (o : Occurrence) (cs : List Char),
      (cs.map ReplacementPart.char).flatMap (ReplacementPart.expand names o) = cs := by
    intro o cs
    rw [List.flatMap_map]
    exact List.flatMap_singleton' cs
  rw [Replacement.expand, replacement, List.flatMap_cons, List.flatMap_cons, List.flatMap_append,
    List.flatMap_cons, hchars, hchars]
  rfl

/-- What a rule finds that `Fits` an edit, and what it puts in its place. -/
theorem Fits.exists_argument {e : ArgumentEdit} {rule : ConversionRule} (h : e.Fits rule)
    (hmatches : rule.matcher.pattern.Matches b w a g) : ∃ method ∈ colorMethods, ∃ x,
      w = '.' :: (method ++ (e.opening ++ (x ++ e.closing))) ∧ x ≠ [] ∧
      (∀ c ∈ x, e.charClass.contains c = true) ∧
        rule.replacement.expand rule.matcher.names ⟨w, g⟩ =
          '.' :: (method ++ (e.newOpening ++ (x ++ e.newClosing))) := by
  rw [h.1, matches_pattern] at hmatches
  obtain ⟨method, hmethod, x, hw, hne, hx, rfl⟩ := hmatches
  exact ⟨method, hmethod, x, hw, hne, hx, by rw [h.2, expand_replacement]⟩

/-- Nothing that the edit puts in place has a colon, and both texts close with a parenthesis. -/
def keeps (e : ArgumentEdit) : Bool :=
  !e.charClass.contains ':' && !(e.newOpening ++ e.newClosing).contains ':' &&
    e.closing.getLast? == some ')' && e.newClosing.getLast? == some ')'

theorem enclosed {cs closing : List Char} (h : closing.getLast? = some ')') :
    Enclosed ('.' :: (cs ++ closing)) := by
  obtain ⟨x, rfl⟩ := List.getLast?_eq_some_iff.1 h
  exact ⟨cs ++ x, by simp⟩

end ArgumentEdit

/-! ## The rules before a rule -/

/-- The text that the rule with a tag is applied to, when a text is converted. -/
def received (c : Catalog) (tag : String) (text : List Char) : List Char :=
  (c.conversions.takeWhile (·.tag != tag)).foldl (fun text rule => rule.apply text) text

theorem convert_eq_foldl_received (c : Catalog) (tag : String) (text : List Char) : c.convert text =
    (c.conversions.dropWhile (·.tag != tag)).foldl (fun text rule => rule.apply text)
    (c.received tag text) := by
  rw [received, ← List.foldl_append, List.takeWhile_append_dropWhile]
  rfl

/-- What the rule with a tag replaces when a text is converted, and what it puts in its place. -/
def replacements (c : Catalog) (tag : String) (text : List Char) : List (List Char × List Char) :=
  match c.conversions.find? (·.tag == tag) with
  | none => []
  | some rule => ((rule.matcher.pieces (c.received tag text)).filterMap Piece.occurrence?).map fun o =>
      (o.text, rule.replacement.expand rule.matcher.names o)

/-- The rule brings no call about. -/
def KeepsCalls (rule : ConversionRule) : Prop :=
  ∀ {text call : List Char}, IsCall call → Stands call (rule.apply text) → Stands call text

/-- Whether the rule puts back what its pattern spells. -/
def putsBack (rule : ConversionRule) : Bool :=
  rule.matcher.pattern.spelling == some rule.replacement && decide (0 :: rule.replacement.numbers).Nodup

/-- A rule that `putsBack` what it finds leaves every text as it is. -/
theorem apply_eq_self {rule : ConversionRule} (h : putsBack rule = true) (text : List Char) :
    rule.apply text = text := by
  simp only [putsBack, Bool.and_eq_true, beq_iff_eq, decide_eq_true_eq] at h
  exact Matcher.replaceAll_eq_self h.1 h.2 text

/-- What the rule makes of a piece of a text. -/
def output (rule : ConversionRule) : Piece → List Char
  | .plain c => [c]
  | .found o => rule.replacement.expand rule.matcher.names o

theorem apply_eq_flatMap_output (rule : ConversionRule) (text : List Char) :
    rule.apply text = (rule.matcher.pieces text).flatMap (output rule) := rfl

theorem keepsCalls_of_fits {rule : ConversionRule} {e : ArgumentEdit} (h : e.Fits rule)
    (he : e.keeps = true) : KeepsCalls rule := by
  intro text call hcall hstands
  simp only [ArgumentEdit.keeps, Bool.and_eq_true, Bool.not_eq_true', beq_iff_eq, List.contains_eq_mem,
    decide_eq_false_iff_not, List.mem_append, not_or] at he
  obtain ⟨⟨⟨hclass, hopening, hnew⟩, hclosing⟩, hnewClosing⟩ := he
  have hpieces : (rule.matcher.pieces text).flatMap Piece.text = text := flatMap_text_pieces
  have hfound : ∀ {o}, .found o ∈ rule.matcher.pieces text → ∃ method ∈ colorMethods, ∃ x,
      o.text = '.' :: (method ++ (e.opening ++ (x ++ e.closing))) ∧ x ≠ [] ∧
      (∀ c ∈ x, e.charClass.contains c = true) ∧
        rule.replacement.expand rule.matcher.names o =
          '.' :: (method ++ (e.newOpening ++ (x ++ e.newClosing))) := by
    intro o ho
    obtain ⟨a, after, -, hmatches⟩ := exists_matches_of_mem_pieces ho
    exact h.exists_argument hmatches
  have hedits : Edits (output rule) (rule.matcher.pieces text) := by
    refine ⟨fun c => rfl, fun o ho => ?_, fun o ho => ?_, fun o ho => ?_⟩
    · obtain ⟨method, -, x, htext, -⟩ := hfound ho
      rw [htext, ← List.append_assoc, ← List.append_assoc]
      exact ArgumentEdit.enclosed hclosing
    · obtain ⟨method, -, x, -, -, -, hreplaced⟩ := hfound ho
      rw [output, hreplaced, ← List.append_assoc, ← List.append_assoc]
      exact ArgumentEdit.enclosed hnewClosing
    · obtain ⟨method, hmethod, x, -, -, hx, hreplaced⟩ := hfound ho
      have hmethods : ∀ method ∈ colorMethods, ':' ∉ method := by decide
      have hargument : ':' ∉ x := fun hmem => by simp [hx _ hmem] at hclass
      rw [output, hreplaced]
      simp [hmethods method hmethod, hopening, hargument, hnew]
  rw [apply_eq_flatMap_output, ← standsAfter_none] at hstands
  rw [← standsAfter_none, ← hpieces]
  exact hedits.stands hcall hstands

/-- The rules that put back what they find. -/
def restating : List String := ["pixel_arg", "numbered_call", "layout_call", "style_call", "div_call"]

/-- The rules that edit an argument. -/
def editing : List (String × ArgumentEdit) := [
  ("color_literal_arg", ⟨hexClass, "(rgb(0x".toList, "))".toList, "(zapui.rgb(0x".toList, "))".toList⟩),
  ("named_color_arg", ⟨.word, "(gpui::".toList, "())".toList, "(".toList, ")".toList⟩)]

/-- The rules that make a color call a bare name. -/
def nameRules : List String := ["named_color_arg", "named_color"]

theorem putsBack_restating :
    builtinConversions.all (fun rule => !restating.contains rule.tag || putsBack rule) = true := by
  decide +kernel

theorem fits_editing : builtinConversions.all (fun rule =>
    (editing.lookup rule.tag).all fun e => e.keeps && decide (e.Fits rule)) = true := by
  decide +kernel

theorem tags_before_nameRules :
    nameRules.all (fun tag => (builtinConversions.takeWhile (·.tag != tag)).all fun rule =>
    restating.contains rule.tag || (editing.lookup rule.tag).isSome) = true := by
  decide

theorem apply_restating {rule : ConversionRule} (h : rule ∈ builtinConversions)
    (htag : restating.contains rule.tag = true)
    (text : List Char) : rule.apply text = text := by
  have hback := List.all_eq_true.1 putsBack_restating rule h
  rw [htag, Bool.not_true, Bool.false_or] at hback
  exact apply_eq_self hback text

theorem fits_of_lookup {rule : ConversionRule} {e : ArgumentEdit} (h : rule ∈ builtinConversions)
    (he : editing.lookup rule.tag = some e) : e.keeps = true ∧ e.Fits rule := by
  have hfits := List.all_eq_true.1 fits_editing rule h
  rwa [he, Option.all_some, Bool.and_eq_true, decide_eq_true_eq] at hfits

/-- The rules that are `restating` can be left out of a conversion. -/
theorem convert_eq_foldl_filter (text : List Char) : builtin.convert text =
    (builtinConversions.filter fun rule => !restating.contains rule.tag).foldl
      (fun text rule => rule.apply text) text := by
  have hrules : ∀ rule ∈ builtinConversions, restating.contains rule.tag = true →
      ∀ text, rule.apply text = text :=
    fun rule hrule htag => apply_restating hrule htag
  rw [convert, conversions_builtin]
  generalize builtinConversions = rules at hrules
  induction rules generalizing text with
  | nil => rfl
  | cons rule rules ih =>
    rw [List.foldl_cons, ih _ fun r hr => hrules r (List.mem_cons_of_mem _ hr), List.filter_cons]
    split
    · rfl
    · rename_i htag
      rw [Bool.not_eq_true', Bool.not_eq_false] at htag
      rw [hrules rule List.mem_cons_self htag]

theorem stands_of_received {tag : String} (htag : tag ∈ nameRules) {call : List Char} (hcall : IsCall call)
    (h : Stands call (builtin.received tag text)) : Stands call text := by
  have hrules : ∀ rule ∈ builtin.conversions.takeWhile (·.tag != tag), KeepsCalls rule := by
    rw [conversions_builtin]
    intro rule hrule
    have hmem : rule ∈ builtinConversions := (List.takeWhile_prefix _).subset hrule
    have htest := List.all_eq_true.1 (List.all_eq_true.1 tags_before_nameRules tag htag) rule hrule
    rcases Bool.or_eq_true_iff.1 htest with hrestating | hediting
    · intro text call _ hstands
      rwa [apply_restating hmem hrestating] at hstands
    · obtain ⟨e, he⟩ := Option.isSome_iff_exists.1 hediting
      obtain ⟨hkeeps, hfits⟩ := fits_of_lookup hmem he
      intro text call hcall hstands
      exact keepsCalls_of_fits hfits hkeeps hcall hstands
  have hkept : Stands call (builtin.received tag text) → Stands call text :=
    foldl_apply_induct (P := fun received => Stands call received → Stands call text)
      (fun rule hrule received ih hstands => ih (hrules rule hrule hcall hstands)) id
  exact hkept h

/-! ## Calls that become names -/

theorem isCall_namedCall {name : List Char} (hstop : '.' ∉ name) (hclose : ')' ∉ name) :
    IsCall (namedCall name) where
  colon := by simp [namedCall_eq]
  stop := by simp [namedCall_eq, hstop]
  closed := ⟨"gpui::".toList ++ (name ++ ['(']), by simp [namedCall_eq], by simp [hclose]⟩

/-- What `replacements` lists stands in the text that the rule receives, where its pattern
matches. -/
theorem exists_of_mem_replacements {c : Catalog} {tag : String} {call bare : List Char}
    (h : (call, bare) ∈ c.replacements tag text) : ∃ rule ∈ c.conversions, rule.tag = tag ∧ ∃ a rest g,
      c.received tag text = a ++ (call ++ rest) ∧ rule.matcher.pattern.Matches a.getLast? call rest g ∧
        bare = rule.replacement.expand rule.matcher.names ⟨call, g⟩ := by
  rw [replacements] at h
  split at h
  · cases h
  · rename_i rule hrule
    obtain ⟨o, ho, heq⟩ := List.mem_map.1 h
    obtain ⟨rfl, rfl⟩ := Prod.mk.inj heq
    obtain ⟨a, after, hsplit, hmatches⟩ := exists_matches_of_mem_pieces (Piece.mem_occurrences_iff.1 ho)
    rw [lastOr_none] at hmatches
    have htag := List.find?_some hrule
    exact ⟨rule, List.mem_of_find?_eq_some hrule, beq_iff_eq.1 htag, a, after, o.groups, hsplit,
      hmatches, rfl⟩

theorem rule_named_color : builtinConversions.all (fun rule => rule.tag != "named_color" ||
    (rule.matcher.pattern == builtin.extractors.namedColor.pattern &&
      rule.replacement == [.number 1])) = true := by
  decide

/-- What the rule `named_color` replaces is the `namedCall` of a `NamedColor` that `Stands` in the
text. -/
theorem replacements_named_color {call bare : List Char}
    (h : (call, bare) ∈ builtin.replacements "named_color" text) :
    ∃ color : NamedColor, call = namedCall color.name.toList ∧ bare = color.name.toList ∧
      Stands call text := by
  obtain ⟨rule, hrule, htag, a, rest, g, hsplit, hmatches, rfl⟩ := exists_of_mem_replacements h
  have htest := List.all_eq_true.1 rule_named_color rule (conversions_builtin ▸ hrule)
  simp only [htag, bne_self_eq_false, Bool.false_or, Bool.and_eq_true, beq_iff_eq] at htest
  rw [htest.1, matches_namedColor] at hmatches
  obtain ⟨ha, name, hname, rfl, rfl⟩ := hmatches
  obtain ⟨color, -, rfl⟩ := List.mem_map.1 hname
  have hcall : IsCall (namedCall color.name.toList) := by
    refine isCall_namedCall ?_ ?_ <;> cases color <;> decide
  have hreceived : Stands (namedCall color.name.toList) (builtin.received "named_color" text) :=
    ⟨a, rest, by rw [hsplit, List.append_assoc], ha⟩
  refine ⟨color, rfl, ?_, stands_of_received (by decide) hcall hreceived⟩
  rw [htest.2]
  exact List.append_nil _

theorem replacements_named_color_arg {call bare : List Char}
    (h : (call, bare) ∈ builtin.replacements "named_color_arg" text) : ∃ method ∈ colorMethods, ∃ name,
      call = '.' :: (method ++ "(".toList ++ namedCall name ++ ")".toList) ∧
        bare = '.' :: (method ++ "(".toList ++ name ++ ")".toList) ∧ Stands (namedCall name) text := by
  obtain ⟨rule, hrule, htag, a, rest, g, hsplit, hmatches, rfl⟩ := exists_of_mem_replacements h
  have hlookup : editing.lookup rule.tag =
      some ⟨.word, "(gpui::".toList, "())".toList, "(".toList, ")".toList⟩ := by
    rw [htag]
    rfl
  obtain ⟨-, hfits⟩ := fits_of_lookup (conversions_builtin ▸ hrule) hlookup
  obtain ⟨method, hmethod, name, rfl, -, hname, hreplaced⟩ := hfits.exists_argument hmatches
  have hreceived : Stands (namedCall name) (builtin.received "named_color_arg" text) := by
    refine ⟨a ++ '.' :: (method ++ ['(']), ')' :: rest, by simp [hsplit, namedCall_eq], fun c hc => ?_⟩
    rw [List.getLast?_append_of_ne_nil _ (by simp), ← List.cons_append, List.getLast?_concat] at hc
    obtain rfl := Option.some.inj hc
    decide
  have hcall : IsCall (namedCall name) :=
    isCall_namedCall (fun hmem => absurd (hname _ hmem) (by decide)) fun hmem =>
      absurd (hname _ hmem) (by decide)
  refine ⟨method, hmethod, name, by simp [namedCall_eq], ?_, stands_of_received (by decide) hcall hreceived⟩
  rw [hreplaced]
  simp

/-- What `Stands` in a chain stands in the source, unless it starts as chains do: something is
before it already in the chain. -/
theorem stands_of_stands_chain {source chain : String} (hchain : chain ∈ (builtin.analyze source).divChains)
    {c : Char} {cs : List Char} (hc : c ≠ 'd') (h : Stands (c :: cs) chain.toList) :
    Stands (c :: cs) source.toList := by
  rw [divChains_analyze] at hchain
  obtain ⟨found, hfound, rfl⟩ := List.mem_map.1 hchain
  rw [String.toList_ofList] at h
  obtain ⟨before, after, hsource⟩ := infix_of_mem_divChainsOf hfound
  obtain ⟨tail, htail⟩ := eq_append_of_mem_divChainsOf hfound
  obtain ⟨a, b, heq, ha⟩ := h
  have hne : a ≠ [] := by
    rintro rfl
    rw [htail] at heq
    exact absurd (List.cons.inj heq).1.symm hc
  refine ⟨before ++ a, b ++ after, by rw [← hsource, heq]; simp, ?_⟩
  rwa [List.getLast?_append_of_ne_nil _ hne]

theorem stands_of_mem_divChains {source chain : String} (hchain : chain ∈ (builtin.analyze source).divChains)
    {name : List Char} (h : Stands (namedCall name) chain.toList) : Stands (namedCall name) source.toList :=
  stands_of_stands_chain hchain (by decide) h

end Catalog
end UiSkeleton
