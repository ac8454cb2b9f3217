/-
Names of an example: the title that readers see and the name of the view type. Both are made from
the words of the example's name. Words stand between underscores, hyphens and blanks (U+0020); such
a separator does not separate where it carries a mark or stands behind a character that joins it.
Every word starts with an uppercase letter and goes on in lowercase.
-/
import UiSkeleton.Text.Case

namespace UiSkeleton.Naming

/-- The characters that separate words. -/
def isSeparator (c : Char) : Bool := c == '_' || c == '-' || c == ' '

/-- Whether a separator with these neighbours separates. -/
def separates (before : Option Char) (after : List Char) : Bool :=
  !before.any Text.joinsAfter && !after.head?.any Text.joinsBefore

/-- The text after `before` cut at the separators that separate; words may be empty. -/
def pieces (before : Option Char) : List Char → List (List Char)
  | [] => [[]]
  | c :: r =>
    let later := pieces (some c) r
    if isSeparator c && separates before r then [] :: later
    else match later with
      | [] => [[c]]
      | piece :: more => (c :: piece) :: more

/-- The words of a name. -/
def words (name : List Char) : List (List Char) := (pieces none name).filter fun w => !w.isEmpty

/-- A word with its first letter in uppercase and the others in lowercase. -/
def capitalized : List Char → List Char
  | [] => []
  | c :: r => Text.upperForm c ++ Text.lower r

/-- The title of an example: its words, capitalized, with a blank between them. -/
def displayTitle (name : String) : String :=
  String.ofList (List.intercalate [' '] ((words name.toList).map capitalized))

/-- The name of the view type: the words, capitalized, with nothing between them. -/
def typeIdentifier (name : String) : String :=
  String.ofList ((words name.toList).flatMap capitalized)

end UiSkeleton.Naming
