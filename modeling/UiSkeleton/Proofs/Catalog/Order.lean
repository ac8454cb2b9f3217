/-
The order of declaration in a catalog counts only among the conversion rules of one tier. Sorting by
tier is stable, so it keeps the rules of each tier as they were declared, and a list in which the
tiers ascend is known by its rules of each tier. Of the feature rules a source only sees which ones
fire, and sets forget in which order their members came. What the matchers of the rules are plays no
part.
-/
import UiSkeleton.Analysis

namespace UiSkeleton

theorem Tier.rank_injective {s t : Tier} (h : s.rank = t.rank) : s = t := by
  cases s <;> cases t <;> first | rfl | cases h

variable {M : Type}

namespace ConversionRule

/-- Whether two lists have the same rules of each tier, in the same order. Such lists are
permutations of each other. -/
def SameInTiers (rules rules' : List (ConversionRule M)) : Prop :=
  ∀ tier, rules.filter (·.tier = tier) = rules'.filter (·.tier = tier)

/-- Whether the tiers of a list never go back. -/
abbrev Tiered (rules : List (ConversionRule M)) : Prop := rules.Pairwise fun a b => a.tier.rank ≤ b.tier.rank

variable {rules rules' : List (ConversionRule M)} {a b : ConversionRule M}

theorem SameInTiers.perm (h : SameInTiers rules rules') : rules.Perm rules' := by
  classical
  refine List.perm_iff_count.2 fun a => ?_
  have hcount : ∀ l : List (ConversionRule M), (l.filter (·.tier = a.tier)).count a = l.count a := fun l =>
    List.count_filter (by simp)
  rw [← hcount rules, h, hcount]

theorem sameInTiers_cons : SameInTiers (a :: rules) (a :: rules') ↔ SameInTiers rules rules' := by
  refine forall_congr' fun tier => ?_
  by_cases h : a.tier = tier
  · simp [h]
  · simp [h]

theorem Tiered.le_of_mem (h : Tiered (a :: rules)) (hb : b ∈ a :: rules) : a.tier.rank ≤ b.tier.rank := by
  rcases List.mem_cons.1 hb with rfl | hb
  · exact Nat.le_refl _
  · exact (List.pairwise_cons.1 h).1 b hb

/-- **A list that is `Tiered` is known by its rules of each tier.** -/
theorem Tiered.eq (h : Tiered rules) (h' : Tiered rules') (hsame : SameInTiers rules rules') :
    rules = rules' := by
  induction rules generalizing rules' with
  | nil =>
    cases rules' with
    | nil => rfl
    | cons b rules' => exact absurd (hsame.perm.mem_iff.2 List.mem_cons_self) List.not_mem_nil
  | cons a rules ih =>
    cases rules' with
    | nil => exact absurd (hsame.perm.mem_iff.1 List.mem_cons_self) List.not_mem_nil
    | cons b rules' =>
      -- Each list has the other's first rule, so neither can begin with a later tier.
      have htier : a.tier = b.tier := Tier.rank_injective (Nat.le_antisymm
        (h.le_of_mem (hsame.perm.mem_iff.2 List.mem_cons_self))
        (h'.le_of_mem (hsame.perm.mem_iff.1 List.mem_cons_self)))
      have hhead := hsame a.tier
      rw [List.filter_cons_of_pos (by simp), List.filter_cons_of_pos (by simp [htier])] at hhead
      obtain rfl := (List.cons.inj hhead).1
      rw [ih h.of_cons h'.of_cons (sameInTiers_cons.1 hsame)]

/-- Sorting by tier is stable, so it leaves the rules of each tier as they are. -/
theorem sameInTiers_mergeSort (rules : List (ConversionRule M)) :
    SameInTiers (rules.mergeSort fun a b => a.tier.rank ≤ b.tier.rank) rules := by
  intro tier
  have hequal : (rules.filter (·.tier = tier)).Pairwise fun a b =>
      decide (a.tier.rank ≤ b.tier.rank) = true := by
    refine List.pairwise_of_forall_mem_list fun a ha b hb => ?_
    have ha := of_decide_eq_true (List.mem_filter.1 ha).2
    have hb := of_decide_eq_true (List.mem_filter.1 hb).2
    simp [ha, hb]
  have hstable : (rules.filter (·.tier = tier)).Sublist
      (rules.mergeSort fun a b => a.tier.rank ≤ b.tier.rank) :=
    List.sublist_mergeSort (by simp; omega) (by simp; omega) hequal List.filter_sublist
  have hfilter := hstable.filter (·.tier = tier)
  rw [List.filter_filter] at hfilter
  simp only [Bool.and_self] at hfilter
  exact (hfilter.eq_of_length ((List.mergeSort_perm rules _).filter _).length_eq.symm).symm

end ConversionRule

namespace Catalog

open ConversionRule

variable {features features' : List (FeatureRule M)} {conversions conversions' : List (ConversionRule M)}
  {extractors : Extractors M}

/-- A catalog applies its rules in the order of their tiers. -/
theorem tiered_ofRules : Tiered (ofRules features conversions extractors).conversions := by
  have : (conversions.mergeSort fun a b => decide (a.tier.rank ≤ b.tier.rank)).Pairwise
      fun a b => decide (a.tier.rank ≤ b.tier.rank) = true :=
    List.pairwise_mergeSort (by simp; omega) (by simp; omega) conversions
  simpa [ofRules] using this

theorem conversions_ofRules_congr (h : SameInTiers conversions conversions') :
    (ofRules features conversions extractors).conversions =
      (ofRules features' conversions' extractors).conversions := by
  refine tiered_ofRules.eq tiered_ofRules fun tier => ?_
  rw [ofRules, ofRules, sameInTiers_mergeSort, sameInTiers_mergeSort, h]

variable [TextMatcher M]

theorem ofList_map_firedFeatures_congr {c c' : Catalog M} (h : c.features.Perm c'.features)
    (f : FeatureRule M → String) (source : List Char) :
    SortedSet.ofList ((c.firedFeatures source).map f) =
      SortedSet.ofList ((c'.firedFeatures source).map f) := by
  refine SortedSet.ext fun x => ?_
  rw [SortedSet.mem_ofList, SortedSet.mem_ofList]
  exact ((h.filter _).map f).mem_iff

/-- **The order of declaration counts only inside a tier**, whatever `TextMatcher` the rules have:
feature rules in any order and conversion rules that are `SameInTiers` give catalogs with the same
`conversions`, `analyze` and `convert`. -/
theorem ofRules_order_irrelevant (hfeatures : features.Perm features')
    (hconversions : SameInTiers conversions conversions') :
    let c := ofRules features conversions extractors
    let c' := ofRules features' conversions' extractors
    (c.conversions = c'.conversions ∧ Tiered c.conversions ∧ c.conversions.Perm conversions ∧
      SameInTiers c.conversions conversions) ∧
    (∀ source, c.analyze source = c'.analyze source) ∧ ∀ text, c.convert text = c'.convert text := by
  intro c c'
  have hsequence : c.conversions = c'.conversions := conversions_ofRules_congr hconversions
  refine ⟨⟨hsequence, tiered_ofRules, List.mergeSort_perm _ _, sameInTiers_mergeSort _⟩, ?_, ?_⟩
  · intro source
    have hsets (f : FeatureRule M → String) : SortedSet.ofList ((c.firedFeatures source.toList).map f) =
        SortedSet.ofList ((c'.firedFeatures source.toList).map f) :=
      ofList_map_firedFeatures_congr hfeatures f source.toList
    simp only [analyze, hsets]
    rfl
  · intro text
    rw [convert, convert, hsequence]

/-- Four feature rules with a message told twice, and four conversion rules, each declared in two
ways. -/
theorem ofRules_order_irrelevant_reordered :
    let matcher (c : Char) : Matcher := ⟨String.singleton c, .atom (.single c), []⟩
    let click : FeatureRule := ⟨"click", "by hand", none, matcher 'a'⟩
    let mouse : FeatureRule := ⟨"mouse", "by hand", some "mouse", matcher 'b'⟩
    let canvas : FeatureRule := ⟨"canvas", "not yet", none, matcher 'c'⟩
    let wrap : ConversionRule := ⟨"wrap", .wrap, "b", matcher 'a'⟩
    let first : ConversionRule := ⟨"first", .call, "d", matcher 'c'⟩
    let second : ConversionRule := ⟨"second", .call, "h", matcher 'd'⟩
    let argument : ConversionRule := ⟨"argument", .argument, "c", matcher 'e'⟩
    let c := ofRules [click, mouse, canvas, click] [wrap, first, argument, second] builtinExtractors
    let c' := ofRules [canvas, click, click, mouse] [first, second, wrap, argument] builtinExtractors
    (∀ source, c.analyze source = c'.analyze source) ∧ (∀ text, c.convert text = c'.convert text) ∧
      c.conversions = [argument, first, second, wrap] := by
  intro matcher click mouse canvas wrap first second argument c c'
  have hfeatures : [click, mouse, canvas, click].Perm [canvas, click, click, mouse] := by decide
  have hconversions : SameInTiers [wrap, first, argument, second] [first, second, wrap, argument] := by
    intro tier
    cases tier <;> rfl
  obtain ⟨⟨-, htiered, -, hsame⟩, hanalyze, hconvert⟩ :=
    @ofRules_order_irrelevant _ _ _ _ _ builtinExtractors _ hfeatures hconversions
  refine ⟨hanalyze, hconvert, htiered.eq (by decide) fun tier => ?_⟩
  rw [hsame tier]
  cases tier <;> rfl

end Catalog
end UiSkeleton
