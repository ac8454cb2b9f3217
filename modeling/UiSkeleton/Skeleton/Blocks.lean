/-
The blocks of a skeleton that come from an analysis: color declarations, warnings, what is left to
do, and the builder chains, converted and kept in comments. A block that would be empty holds one
line that says so.
-/
import UiSkeleton.Analysis
import UiSkeleton.Skeleton.Target
import UiSkeleton.Text.Blank

namespace UiSkeleton.SkeletonTarget

/-- The indentation of what stands inside the view's rendering. -/
def bodyIndent : String := "        "

/-- How many builder chains a skeleton shows. -/
def maxChains : Nat := 5

/-- How many characters of a chain its preview shows. -/
def previewLength : Nat := 80

/-- Lines joined by line feeds. -/
def joinLines (lines : List String) : String := "\n".intercalate lines

/-- The lines, or a single other one if there are none. -/
def orElse (lines : List String) (other : String) : List String :=
  if lines.isEmpty then [other] else lines

/-- One declaration for every color. -/
def colorLines (t : SkeletonTarget) (a : Analysis) : List String :=
  orElse (a.colors.toList.map t.colorConstant) (t.lineComment ++ " No colors extracted")

/-- One comment for every warning. -/
def warningLines (t : SkeletonTarget) (a : Analysis) : List String :=
  orElse (a.warnings.toList.map fun warning => t.lineComment ++ "   - " ++ warning)
    (t.lineComment ++ "   None - this example should be straightforward to port!")

/-- One comment for every feature that says what is left to do, in catalog order. -/
def todoLines (t : SkeletonTarget) (c : Catalog) (a : Analysis) : List String :=
  let todos := (c.features.filter fun rule => rule.id ∈ a.features.toList).filterMap (·.todo)
  orElse (todos.map fun todo => bodyIndent ++ t.lineComment ++ " TODO: " ++ todo)
    (bodyIndent ++ t.lineComment ++ " No constructs flagged for manual porting")

/-- The start of a chain on one line. -/
def preview (chain : List Char) : List Char :=
  (List.intercalate [' '] (Text.words chain)).take previewLength

/-- The lines of a chain after its conversion, each in a comment. -/
def convertedLines (t : SkeletonTarget) (c : Catalog) (chain : List Char) : List String :=
  (Text.lines (c.convert chain)).map fun line =>
    bodyIndent ++ t.lineComment ++ "     " ++ String.ofList (Text.trim line)

/-- A chain in comments: a header, its preview and its converted lines, ended by a semicolon. -/
def chainGroup (t : SkeletonTarget) (c : Catalog) (chain : List Char) : String :=
  let start := bodyIndent ++ t.lineComment
  joinLines [start ++ " Translated from Rust:",
    start ++ " " ++ String.ofList (preview chain) ++ "...",
    start ++ " const elem =",
    joinLines (t.convertedLines c chain)] ++ ";"

/-- The first chains, with an empty line between two of them. -/
def chainsBlock (t : SkeletonTarget) (c : Catalog) (a : Analysis) : String :=
  let groups := (a.divChains.take maxChains).map fun chain => t.chainGroup c chain.toList
  "\n\n".intercalate (orElse groups (bodyIndent ++ t.lineComment ++ " No div chains extracted"))

end UiSkeleton.SkeletonTarget
