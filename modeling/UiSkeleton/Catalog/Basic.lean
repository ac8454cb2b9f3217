/-
Catalogs: the feature rules in the order they were declared, the conversion rules in the order they
are applied, and the patterns that pull facts out of a source. Conversion rules are ordered by tier;
rules of one tier keep the order in which they were declared.
-/
import UiSkeleton.Catalog.Rule

namespace UiSkeleton

/-- The patterns that pull facts out of a source. -/
structure Extractors (M : Type := Matcher) where
  /-- Color literals; the first group is their digits. -/
  hexColor : M
  /-- Calls for a named color; the first group is the name. -/
  namedColor : M
  /-- The window size; its two groups are the width and the height. -/
  windowSize : M
  /-- Builder chains. -/
  divChain : M
  deriving DecidableEq, Repr

/-- All rules of one knowledge base. -/
structure Catalog (M : Type := Matcher) where
  features : List (FeatureRule M)
  conversions : List (ConversionRule M)
  extractors : Extractors M
  deriving DecidableEq, Repr

namespace Catalog

variable {M : Type}

/-- The catalog of the given rules, with the conversion rules put in order. -/
def ofRules (features : List (FeatureRule M)) (conversions : List (ConversionRule M))
    (extractors : Extractors M) : Catalog M where
  features := features
  conversions := conversions.mergeSort fun a b => a.tier.rank ≤ b.tier.rank
  extractors := extractors

/-- The feature rule with an id, the first one if there are several. -/
def feature? (c : Catalog M) (id : String) : Option (FeatureRule M) := c.features.find? (·.id == id)

variable [TextMatcher M]

/-- The text after all conversion rules. -/
def convert (c : Catalog M) (text : List Char) : List Char :=
  c.conversions.foldl (fun text rule => rule.apply text) text

/-- The tag of each conversion rule that changed the text, with the text after it. -/
def conversionSteps (c : Catalog M) (text : List Char) : List (String × List Char) :=
  (c.conversions.foldl
    (fun (text, steps) rule =>
      let next := rule.apply text
      (next, if next = text then steps else (rule.tag, next) :: steps))
    (text, [])).2.reverse

end Catalog
end UiSkeleton
