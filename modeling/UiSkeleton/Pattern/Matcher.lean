/-
Matchers: patterns read from their text, and the views of a text that they give. All views rest on
the two searches: whether and where the pattern occurs first, and the pieces it cuts a text into.
-/
import UiSkeleton.Pattern.Reader
import UiSkeleton.Pattern.Replacement

namespace UiSkeleton

/-- A pattern with its text and the names of its groups. -/
structure Matcher where
  text : String
  pattern : Pattern
  /-- The named groups. -/
  names : List (String × Nat)
  deriving DecidableEq, Repr

namespace Matcher

/-- Reads a matcher. -/
def read (text : String) : Except Pattern.ReadError Matcher :=
  (Pattern.read text.toList).map fun r => ⟨text, r.pattern, r.names⟩

/-- The matcher of a text that is known to be a pattern. -/
def ofText (text : String) (h : (read text).toOption.isSome := by decide +kernel) : Matcher :=
  (read text).toOption.get h

/-- How many groups the pattern has. A repetition of no rounds is left out of the pattern with the
groups in it, so this is the greatest number of a group that is left. -/
def groupCount (m : Matcher) : Nat := m.pattern.lastGroup

/-- The leftmost occurrence in a text. -/
def find? (m : Matcher) (text : List Char) : Option Occurrence := m.pattern.search none text

/-- The pieces that the occurrences cut a text into. -/
def pieces (m : Matcher) (text : List Char) : List Piece := m.pattern.pieces none 0 false text

/-- Whether the pattern occurs in a text. -/
def occursIn (m : Matcher) (text : List Char) : Bool := (m.find? text).isSome

/-- The texts of all groups of the first occurrence; that of a group that took no part is empty. -/
def firstGroups (m : Matcher) (text : List Char) : Option (List (List Char)) :=
  (m.find? text).map fun o =>
    (List.range m.groupCount).map fun index => (o.group? (index + 1)).getD []

/-- The first group of every occurrence where it took part, in text order; the whole occurrences
when the pattern has no group. -/
def findAll (m : Matcher) (text : List Char) : List (List Char) :=
  let occurrences := (m.pieces text).filterMap Piece.occurrence?
  if m.groupCount = 0 then occurrences.map Occurrence.text
  else occurrences.filterMap (·.group? 1)

/-- The text with every occurrence replaced. -/
def replaceAll (m : Matcher) (text : List Char) (replacement : Replacement) : List Char :=
  (m.pieces text).flatMap fun
    | .plain c => [c]
    | .found o => replacement.expand m.names o

end Matcher

/-- Anything that gives of a text the views that rules ask for. -/
class TextMatcher (M : Type) where
  /-- Whether there is an occurrence. -/
  occursIn : M → List Char → Bool
  /-- The texts of all groups of the first occurrence. -/
  firstGroups : M → List Char → Option (List (List Char))
  /-- What is found at every occurrence. -/
  findAll : M → List Char → List (List Char)
  /-- The text with every occurrence replaced, by what a replacement text says. -/
  replaceAll : M → List Char → String → List Char

instance : TextMatcher Matcher where
  occursIn := Matcher.occursIn
  firstGroups := Matcher.firstGroups
  findAll := Matcher.findAll
  replaceAll m text replacement := m.replaceAll text (.read replacement)

namespace Matcher

variable (m : Matcher) (text : List Char)

@[simp] theorem textMatcher_firstGroups : TextMatcher.firstGroups m text = m.firstGroups text := rfl

@[simp] theorem textMatcher_findAll : TextMatcher.findAll m text = m.findAll text := rfl

end Matcher
end UiSkeleton
