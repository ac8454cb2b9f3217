/-
What is read off the source of an example: the warnings and ids of the features it uses, its colors,
the size of its window and its builder chains. Reading never fails; a window size that does not
parse leaves the usual one in place, completely.
-/
import UiSkeleton.Catalog.Builtin
import UiSkeleton.Color
import UiSkeleton.Naming
import UiSkeleton.Number.Decimal
import UiSkeleton.Log

namespace UiSkeleton

/-- The size of a window in pixels. -/
structure WindowSize where
  width : Nat
  height : Nat
  deriving DecidableEq, Repr

namespace WindowSize

/-- The size of a window for which the source gives none. -/
def usual : WindowSize := ⟨500, 500⟩

/-- The size as width and height with an `x` between them. -/
def text (size : WindowSize) : String := toString size.width ++ "x" ++ toString size.height

/-- The greatest number of pixels. -/
def maxPixels : Nat := Nat.pow 2 32 - 1

/-- The pixels that an argument stands for: the integer part of the number it parses to, if that
number is neither negative nor above the greatest number of pixels. -/
def pixels? (argument : List Char) : Option Nat :=
  match Binary64.read? (Text.trim argument) with
  | some (.finite negative mantissa exponent) =>
    let (num, den) := Binary64.quotient mantissa exponent
    if (negative && mantissa != 0) || maxPixels * den < num then none else some (num / den)
  | _ => none

/-- The size that two arguments stand for, if both parse. -/
def ofArguments? (width height : List Char) : Option WindowSize :=
  match pixels? width, pixels? height with
  | some width, some height => some ⟨width, height⟩
  | _, _ => none

end WindowSize

/-- What is read off a source. -/
structure Analysis where
  /-- The messages of the features that the source uses. -/
  warnings : SortedSet String
  /-- The colors that the source refers to. -/
  colors : SortedSet ColorToken
  windowSize : WindowSize
  /-- The title of the example; empty for a source without a name. -/
  title : String
  /-- The ids of the features that the source uses. -/
  features : SortedSet String
  /-- The builder chains in the order of the source. -/
  divChains : List String

namespace Analysis

/-- The analysis of a source in which nothing is found. -/
def blank : Analysis := ⟨.empty, .empty, .usual, "", .empty, []⟩

/-- The summary that goes to the log. -/
def summary (a : Analysis) : String :=
  "Analysis: " ++ toString a.warnings.size ++ " warning(s), " ++ toString a.colors.size ++
    " color(s), window " ++ a.windowSize.text ++ ", " ++ toString a.divChains.length ++
    " div chain(s)"

end Analysis

namespace Catalog

variable {M : Type} [TextMatcher M]

/-- The feature rules that a source sets off, in catalog order. -/
def firedFeatures (c : Catalog M) (source : List Char) : List (FeatureRule M) :=
  c.features.filter (·.detects source)

/-- The colors of a source: its literals and its named colors. -/
def colorsOf (c : Catalog M) (source : List Char) : SortedSet ColorToken :=
  let literals := (TextMatcher.findAll c.extractors.hexColor source).map ColorToken.ofDigits
  let names := (TextMatcher.findAll c.extractors.namedColor source).filterMap fun name =>
    ColorToken.ofName? (String.ofList name)
  (SortedSet.ofList literals).insertMany names

/-- The two arguments of the first window size in a source. -/
def windowArguments? (c : Catalog M) (source : List Char) : Option (List Char × List Char) :=
  match TextMatcher.firstGroups c.extractors.windowSize source with
  | some [width, height] => some (width, height)
  | _ => none

/-- The size of the window. Only the first construct counts, even if it does not parse. -/
def windowSizeOf (c : Catalog M) (source : List Char) : WindowSize :=
  ((c.windowArguments? source).bind fun (width, height) =>
    WindowSize.ofArguments? width height).getD .usual

/-- The builder chains without the blanks at their ends. -/
def divChainsOf (c : Catalog M) (source : List Char) : List (List Char) :=
  (TextMatcher.findAll c.extractors.divChain source).map Text.trimEnd

/-- The analysis of a source without a name. -/
def analyze (c : Catalog M) (source : String) : Analysis :=
  let cs := source.toList
  let fired := c.firedFeatures cs
  { warnings := .ofList (fired.map FeatureRule.message)
    colors := c.colorsOf cs
    windowSize := c.windowSizeOf cs
    title := ""
    features := .ofList (fired.map FeatureRule.id)
    divChains := (c.divChainsOf cs).map String.ofList }

/-- The analysis of the source of a named example. -/
def analyzeExample (c : Catalog M) (name source : String) : Analysis :=
  { c.analyze source with title := Naming.displayTitle name }

/-- What an analysis leaves in the log: a window size that was passed over, and the summary. -/
def analysisLog (c : Catalog M) (source : String) : List LogLine :=
  let skipped : List LogLine :=
    match c.windowArguments? source.toList with
    | none => []
    | some (width, height) =>
      match WindowSize.ofArguments? width height with
      | some _ => []
      | none => [⟨.debug, "Skipping unparsable window size: px(" ++ String.ofList width ++
          "), px(" ++ String.ofList height ++ ")"⟩]
  skipped ++ [⟨.debug, (c.analyze source).summary⟩]

end Catalog
end UiSkeleton
