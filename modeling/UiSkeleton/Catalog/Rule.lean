/-
The rules of a catalog. A feature rule flags a construct of a source that needs work by hand; a
conversion rule rewords a construct for the target, and its tier decides when it is applied. Any
`TextMatcher` can stand in a rule; unless another is given, it is a `Matcher`.
-/
import UiSkeleton.Pattern.Matcher

namespace UiSkeleton

/-- A construct that has no mechanical counterpart in the target. -/
structure FeatureRule (M : Type := Matcher) where
  id : String
  /-- The warning for a source that has the construct. -/
  message : String
  /-- What is left to do in the skeleton, if the rule says so. -/
  todo : Option String
  matcher : M
  deriving DecidableEq, Repr

namespace FeatureRule

/-- The rule with the given pattern. -/
def read (id pattern message : String) (todo : Option String) :
    Except Pattern.ReadError FeatureRule :=
  (Matcher.read pattern).map fun matcher => ⟨id, message, todo, matcher⟩

/-- Whether the construct occurs in a source. -/
def detects {M : Type} [TextMatcher M] (rule : FeatureRule M) (source : List Char) : Bool :=
  TextMatcher.occursIn rule.matcher source

theorem detects_eq (rule : FeatureRule) (source : List Char) :
    rule.detects source = rule.matcher.occursIn source := rfl

end FeatureRule

/-- When a conversion rule is applied; the most specific tier comes first. -/
inductive Tier where
  /-- Calls whose arguments change. -/
  | argument
  /-- Calls without arguments. -/
  | call
  /-- Names of constants. -/
  | constant
  /-- Changes that wrap what other rules have converted. -/
  | wrap
  deriving DecidableEq, Repr

/-- The place of a tier in the order of application. -/
def Tier.rank : Tier → Nat
  | .argument => 0
  | .call => 1
  | .constant => 2
  | .wrap => 3

/-- A mechanical change of a construct into its counterpart. -/
structure ConversionRule (M : Type := Matcher) where
  tag : String
  tier : Tier
  /-- What stands in place of the construct, as it was written. -/
  replacementText : String
  matcher : M
  deriving DecidableEq, Repr

namespace ConversionRule

/-- The rule with the given pattern. -/
def read (tag : String) (tier : Tier) (pattern replacement : String) :
    Except Pattern.ReadError ConversionRule :=
  (Matcher.read pattern).map fun matcher => ⟨tag, tier, replacement, matcher⟩

/-- What stands in place of the construct. -/
def replacement (rule : ConversionRule) : Replacement := .read rule.replacementText

/-- The text with every occurrence of the construct changed. -/
def apply {M : Type} [TextMatcher M] (rule : ConversionRule M) (text : List Char) : List Char :=
  TextMatcher.replaceAll rule.matcher text rule.replacementText

theorem apply_eq (rule : ConversionRule) (text : List Char) :
    rule.apply text = rule.matcher.replaceAll text rule.replacement := rfl

end ConversionRule
end UiSkeleton
