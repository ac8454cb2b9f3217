/-
What the built-in feature rules look for, without a look at their patterns. Most constructs are a
text that is written in full; two leave a gap of any length, in which one character is missing. A
rule detects its construct wherever it occurs, so the features of a source are those of its
constructs.
-/
import UiSkeleton.Proofs.Catalog.Chain

namespace UiSkeleton

/-- A construct that a feature rule flags. -/
inductive Construct where
  /-- A text as it stands. -/
  | text (text : String)
  /-- A child that formats a text before any parenthesis is closed. -/
  | formattedChild
  /-- A child that is a text between quotes. -/
  | stringChild
  deriving DecidableEq, Repr

namespace Construct

/-- The construct stands somewhere in the source. -/
def OccursIn (source : List Char) : Construct → Prop
  | .text t => ∃ a b, source = a ++ t.toList ++ b
  | .formattedChild => ∃ a y b, source = a ++ ".child(".toList ++ y ++ "format!".toList ++ b ∧ ')' ∉ y
  | .stringChild => ∃ a x b, source = a ++ ".child(\"".toList ++ x ++ "\")".toList ++ b ∧ x ≠ [] ∧ '"' ∉ x

theorem OccursIn.mono {part source : List Char} {construct : Construct} (h : construct.OccursIn part)
    (hpart : part <:+: source) : construct.OccursIn source := by
  obtain ⟨before, after, rfl⟩ := hpart
  cases construct with
  | text t =>
    obtain ⟨a, b, rfl⟩ := h
    exact ⟨before ++ a, b ++ after, by simp⟩
  | formattedChild =>
    obtain ⟨a, y, b, rfl, hy⟩ := h
    exact ⟨before ++ a, y, b ++ after, by simp, hy⟩
  | stringChild =>
    obtain ⟨a, x, b, rfl, hne, hx⟩ := h
    exact ⟨before ++ a, x, b ++ after, by simp, hne, hx⟩

/-- What is searched for to find the construct. -/
def pattern : Construct → Pattern
  | .text t => .word t.toList
  | .formattedChild => .literal ".child(".toList <|
      .seq (.star none false (.atom (.complement (.single ')')))) (.word "format!".toList)
  | .stringChild => .literal ".child(\"".toList <|
      .seq (.group 1 (.plus none false (.atom (.complement (.single '"'))))) (.word "\")".toList)

theorem contains_complement {c d : Char} : (CharClass.complement (.single c)).contains d = true ↔ d ≠ c := by
  rw [CharClass.contains, Bool.not_eq_true', Bool.eq_false_iff, Ne, Pattern.contains_single]

theorem forall_contains_complement {c : Char} {cs : List Char} :
    (∀ d ∈ cs, (CharClass.complement (.single c)).contains d = true) ↔ c ∉ cs := by
  simp only [contains_complement]
  exact ⟨fun h hc => h c hc rfl, fun h d hd => by rintro rfl; exact h hd⟩

theorem matches_formattedChild {b : Option Char} {w a : List Char} {g : List (Nat × List Char)} :
    formattedChild.pattern.Matches b w a g ↔
      ∃ y, w = ".child(".toList ++ (y ++ "format!".toList) ∧ ')' ∉ y ∧ g = [] := by
  simp only [pattern, Pattern.matches_literal, Pattern.matches_seq, Pattern.matches_star_atom,
    Pattern.matches_word, forall_contains_complement]
  constructor
  · rintro ⟨x, rfl, y, z, gy, gz, rfl, rfl, ⟨hy, rfl⟩, rfl, rfl⟩
    exact ⟨y, rfl, hy, rfl⟩
  · rintro ⟨y, rfl, hy, rfl⟩
    exact ⟨_, rfl, y, _, [], [], rfl, rfl, ⟨hy, rfl⟩, rfl, rfl⟩

theorem matches_stringChild {b : Option Char} {w a : List Char} {g : List (Nat × List Char)} :
    stringChild.pattern.Matches b w a g ↔
      ∃ x, w = ".child(\"".toList ++ (x ++ "\")".toList) ∧ x ≠ [] ∧ '"' ∉ x ∧ g = [(1, x)] := by
  simp only [pattern, Pattern.matches_literal, Pattern.matches_seq, Pattern.matches_group,
    Pattern.matches_plus_atom, Pattern.matches_word, forall_contains_complement]
  constructor
  · rintro ⟨x, rfl, y, z, gy, gz, rfl, rfl, ⟨inner, rfl, hne, hy, rfl⟩, rfl, rfl⟩
    exact ⟨y, rfl, hne, hy, rfl⟩
  · rintro ⟨x, rfl, hne, hx, rfl⟩
    exact ⟨_, rfl, x, _, [(1, x)], [], rfl, rfl, ⟨[], rfl, hne, hx, rfl⟩, rfl, rfl⟩

/-- A construct occurs exactly where its pattern matches. -/
theorem occursIn_iff {source : List Char} (construct : Construct) : construct.OccursIn source ↔
    ∃ a w c g, source = a ++ (w ++ c) ∧ construct.pattern.Matches a.getLast? w c g := by
  cases construct with
  | text t =>
    simp only [OccursIn, pattern, Pattern.matches_word]
    constructor
    · rintro ⟨a, c, rfl⟩
      exact ⟨a, _, c, [], List.append_assoc .., rfl, rfl⟩
    · rintro ⟨a, w, c, g, rfl, rfl, rfl⟩
      exact ⟨a, c, (List.append_assoc ..).symm⟩
  | formattedChild =>
    simp only [OccursIn, matches_formattedChild]
    constructor
    · rintro ⟨a, y, c, rfl, hy⟩
      exact ⟨a, _, c, [], by simp, y, rfl, hy, rfl⟩
    · rintro ⟨a, w, c, g, rfl, y, rfl, hy, rfl⟩
      exact ⟨a, y, c, by simp, hy⟩
  | stringChild =>
    simp only [OccursIn, matches_stringChild]
    constructor
    · rintro ⟨a, x, c, rfl, hne, hx⟩
      exact ⟨a, _, c, _, by simp, x, rfl, hne, hx, rfl⟩
    · rintro ⟨a, w, c, g, rfl, x, rfl, hne, hx, rfl⟩
      exact ⟨a, x, c, by simp, hne, hx⟩

end Construct

namespace Catalog

/-- The construct of each built-in rule, under the id of the rule. -/
def constructs : List (String × Construct) := [
  ("click_handler", .text ".on_click("),
  ("mouse_handler", .text ".on_mouse_"),
  ("format_child", .formattedChild),
  ("string_child", .stringChild),
  ("render_trait", .text "impl Render"),
  ("entity_state", .text "cx.new("),
  ("conditional", .text ".when("),
  ("iterator_map", .text ".map("),
  ("uniform_list", .text "uniform_list"),
  ("canvas", .text "canvas("),
  ("image", .text "img("),
  ("svg", .text "svg("),
  ("animation", .text "Animation")]

theorem patterns_builtinFeatures : builtinFeatures.map (fun rule => (rule.id, rule.matcher.pattern)) =
    constructs.map fun entry => (entry.1, entry.2.pattern) := by
  decide +kernel

theorem plain_constructs : constructs.all (fun entry => entry.2.pattern.plain) = true := by
  decide

theorem detects_iff {rule : FeatureRule} {construct : Construct} {source : List Char}
    (h : (rule.id, construct) ∈ constructs) (hpattern : rule.matcher.pattern = construct.pattern) :
    rule.detects source = true ↔ construct.OccursIn source := by
  have hplain : construct.pattern.plain = true := List.all_eq_true.1 plain_constructs _ h
  have hoccurs : rule.matcher.occursIn source = true ↔ _ := Matcher.occursIn_iff (by rwa [hpattern])
  rw [FeatureRule.detects_eq, hoccurs, construct.occursIn_iff, hpattern]

/-- **The `features` of a source are the ids of its constructs.** -/
theorem mem_features_iff {source id : String} : id ∈ (builtin.analyze source).features ↔
    ∃ construct, (id, construct) ∈ constructs ∧ construct.OccursIn source.toList := by
  have hfeatures : id ∈ (builtin.analyze source).features ↔
      ∃ rule ∈ builtinFeatures, rule.detects source.toList = true ∧ rule.id = id := by
    have hfired : id ∈ (builtin.analyze source).features ↔
        id ∈ (builtin.firedFeatures source.toList).map FeatureRule.id :=
      SortedSet.mem_ofList
    simp only [hfired, firedFeatures, List.mem_map, List.mem_filter, and_assoc]
    rfl
  rw [hfeatures]
  constructor
  · rintro ⟨rule, hrule, hdetects, rfl⟩
    have hmem : (rule.id, rule.matcher.pattern) ∈ constructs.map fun entry => (entry.1, entry.2.pattern) := by
      rw [← patterns_builtinFeatures]
      exact List.mem_map.2 ⟨rule, hrule, rfl⟩
    obtain ⟨⟨id, construct⟩, hconstruct, heq⟩ := List.mem_map.1 hmem
    obtain ⟨rfl, hpattern⟩ := Prod.mk.inj heq
    exact ⟨construct, hconstruct, (detects_iff hconstruct hpattern.symm).1 hdetects⟩
  · rintro ⟨construct, hconstruct, hoccurs⟩
    have hmem : (id, construct.pattern) ∈ builtinFeatures.map fun rule =>
        (rule.id, rule.matcher.pattern) := by
      rw [patterns_builtinFeatures]
      exact List.mem_map.2 ⟨_, hconstruct, rfl⟩
    obtain ⟨rule, hrule, heq⟩ := List.mem_map.1 hmem
    obtain ⟨rfl, hpattern⟩ := Prod.mk.inj heq
    exact ⟨rule, hrule, (detects_iff hconstruct hpattern).2 hoccurs, rfl⟩

end Catalog
end UiSkeleton
