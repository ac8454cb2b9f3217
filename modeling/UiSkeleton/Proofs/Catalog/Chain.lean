/-
Builder chains and what the built-in rules make of them. A chain starts with the call that makes it
one, and no rule makes a text vanish: each replaces an occurrence by some character of its own or by
a group that always holds text. The messages and tasks of the built-in features stay on one line.
-/
import UiSkeleton.Analysis
import UiSkeleton.Proofs.Pattern.Group
import UiSkeleton.Proofs.Text.Blank
import UiSkeleton.Proofs.Text.Utf8

namespace UiSkeleton.Catalog

/-- What may follow the call in a chain. -/
def chainChar : CharClass := .complement (.union (.single ';') (.single '\x7b'))

theorem divChain_reads :
    builtin.extractors.divChain.groupCount = 0 ∧ builtin.extractors.divChain.pattern =
      .seq (.edge .word) (.literal "div()".toList (.plus none false (.atom chainChar))) := by
  decide +kernel

theorem matches_divChain {b : Option Char} {w a : List Char} {g : List (Nat × List Char)} :
    builtin.extractors.divChain.pattern.Matches b w a g ↔ (∀ c ∈ b, Text.isWord c = false) ∧
      ∃ tail, w = "div()".toList ++ tail ∧ tail ≠ [] ∧
        (∀ c ∈ tail, chainChar.contains c = true) ∧ g = [] := by
  rw [divChain_reads.2, show "div()".toList = 'd' :: "iv()".toList from rfl,
    Pattern.matches_wordStart (by decide)]
  simp only [Pattern.matches_plus_atom]

/-- A chain is a stretch of the source from the call `div()` on, without the blanks at its end. -/
theorem exists_of_mem_divChainsOf {source chain : List Char} (h : chain ∈ builtin.divChainsOf source) :
    ∃ tail, "div()".toList ++ tail <:+: source ∧ chain = Text.trimEnd ("div()".toList ++ tail) := by
  obtain ⟨text, htext, rfl⟩ := List.mem_map.1 h
  simp only [Matcher.textMatcher_findAll, Matcher.findAll, divChain_reads.1, if_true, List.mem_map,
    Piece.mem_occurrences_iff] at htext
  obtain ⟨o, ho, rfl⟩ := htext
  obtain ⟨a, after, rfl, hmatches⟩ := Pattern.exists_matches_of_mem_pieces ho
  obtain ⟨-, tail, hcall, -⟩ := matches_divChain.1 hmatches
  exact ⟨tail, hcall ▸ ⟨a, after, List.append_assoc ..⟩, by rw [hcall]⟩

/-- **A chain starts with the call `div()`.** -/
theorem eq_append_of_mem_divChainsOf {source chain : List Char} (h : chain ∈ builtin.divChainsOf source) :
    ∃ tail, chain = "div()".toList ++ tail := by
  obtain ⟨tail, -, rfl⟩ := exists_of_mem_divChainsOf h
  exact ⟨Text.trimEnd tail, Text.trimEnd_append (a := "div(".toList) (c := ')') (by decide) tail⟩

theorem ne_nil_of_mem_divChainsOf {source chain : List Char}
    (h : chain ∈ builtin.divChainsOf source) : chain ≠ [] := by
  obtain ⟨tail, rfl⟩ := eq_append_of_mem_divChainsOf h
  exact List.append_ne_nil_of_left_ne_nil (by decide) _

theorem infix_of_mem_divChainsOf {source chain : List Char} (h : chain ∈ builtin.divChainsOf source) :
    chain <:+: source := by
  obtain ⟨tail, hinfix, rfl⟩ := exists_of_mem_divChainsOf h
  exact (Text.trimEnd_prefix _).isInfix.trans hinfix

theorem divChains_analyze (c : Catalog) (source : String) :
    (c.analyze source).divChains = (c.divChainsOf source.toList).map String.ofList := rfl

theorem divChains_analyzeExample (c : Catalog) (name source : String) :
    (c.analyzeExample name source).divChains = (c.divChainsOf source.toList).map String.ofList := rfl

theorem divChain_ne_nil {name source chain : String}
    (h : chain ∈ (builtin.analyzeExample name source).divChains) : chain.toList ≠ [] := by
  rw [divChains_analyzeExample] at h
  obtain ⟨cs, hcs, rfl⟩ := List.mem_map.1 h
  rw [String.toList_ofList]
  exact ne_nil_of_mem_divChainsOf hcs

theorem conversions_builtin : builtin.conversions = builtinConversions := by
  refine List.mergeSort_of_pairwise ?_
  decide

theorem builtinConversions_remain :
    builtinConversions.all (fun rule => rule.replacement.remains rule.matcher.pattern) = true := by
  decide

/-- What every rule keeps, some rules keep one after the other. -/
theorem foldl_apply_induct {P : List Char → Prop} {rules : List ConversionRule}
    (h : ∀ rule ∈ rules, ∀ text, P text → P (rule.apply text)) {text : List Char} (htext : P text) :
    P (rules.foldl (fun text rule => rule.apply text) text) := by
  induction rules generalizing text with
  | nil => exact htext
  | cons rule rules ih =>
    exact ih (fun r hr => h r (List.mem_cons_of_mem _ hr)) (h rule List.mem_cons_self text htext)

/-- No built-in rule makes a text vanish, and so `convert` does not. -/
theorem convert_ne_nil {text : List Char} (h : text ≠ []) : builtin.convert text ≠ [] := by
  rw [convert, conversions_builtin]
  refine foldl_apply_induct (P := (· ≠ [])) (fun rule hrule text htext => ?_) h
  exact Matcher.replaceAll_ne_nil (List.all_eq_true.1 builtinConversions_remain rule hrule) htext

theorem mem_features_of_mem_warnings {name source warning : String}
    (h : warning ∈ (builtin.analyzeExample name source).warnings.toList) :
    ∃ rule ∈ builtinFeatures, rule.message = warning := by
  have hmem : warning ∈ SortedSet.ofList ((builtin.firedFeatures source.toList).map FeatureRule.message) := h
  obtain ⟨rule, hrule, rfl⟩ := List.mem_map.1 (SortedSet.mem_ofList.1 hmem)
  exact ⟨rule, (List.mem_filter.1 hrule).1, rfl⟩

theorem newline_not_mem_texts :
    builtinFeatures.all (fun rule => !rule.message.toByteArray.data.toList.contains 10 &&
    !rule.todo.any (·.toByteArray.data.toList.contains 10)) = true := by
  decide

theorem newline_not_mem_message {rule : FeatureRule} (h : rule ∈ builtinFeatures) :
    '\n' ∉ rule.message.toList := by
  have := List.all_eq_true.1 newline_not_mem_texts rule h
  simp only [Bool.and_eq_true, Bool.not_eq_true', List.contains_eq_mem, decide_eq_false_iff_not] at this
  exact Text.not_mem_of_data (b := 10) (by decide) this.1

theorem newline_not_mem_todo {rule : FeatureRule} {todo : String} (h : rule ∈ builtinFeatures)
    (htodo : rule.todo = some todo) : '\n' ∉ todo.toList := by
  have := List.all_eq_true.1 newline_not_mem_texts rule h
  simp only [Bool.and_eq_true, Bool.not_eq_true', htodo, Option.any_some, List.contains_eq_mem,
    decide_eq_false_iff_not] at this
  exact Text.not_mem_of_data (b := 10) (by decide) this.2

end UiSkeleton.Catalog
