/-
Patterns and where they match. A pattern is run from a place in a text with the rest of the search
as its continuation, and the first way through in order of preference is the answer: the left branch
before the right one, one more repetition before stopping, or after it when the repetition is lazy.

A choice inside a repetition that could go around without reading carries a mark. Between two
characters a way through enters a marked choice at most once, so that no way goes around in place.
-/
import UiSkeleton.Text.Blank
import UiSkeleton.Text.Case

namespace UiSkeleton

/-- A class of characters. -/
inductive CharClass where
  /-- No character. -/
  | none
  /-- The characters from the first to the last. -/
  | range (first last : Char)
  /-- Word characters. -/
  | word
  /-- Decimal digits. -/
  | decimal
  /-- Blanks. -/
  | blank
  /-- The characters of either class. -/
  | union (left right : CharClass)
  /-- All other characters. -/
  | complement (base : CharClass)
  /-- The characters that are in the class but for their case, of ASCII letters only if `ascii`. -/
  | folded (ascii : Bool) (base : CharClass)
  deriving DecidableEq, Repr, Inhabited

namespace CharClass

/-- The class of one character. -/
def single (c : Char) : CharClass := .range c c

/-- The ASCII digits. -/
def asciiDigit : CharClass := .range '0' '9'

/-- The ASCII letters. -/
def asciiAlpha : CharClass := .union (.range 'A' 'Z') (.range 'a' 'z')

/-- The ASCII letters and digits. -/
def asciiAlnum : CharClass := .union asciiAlpha asciiDigit

/-- The ASCII word characters. -/
def asciiWord : CharClass := .union asciiAlnum (.single '_')

/-- The ASCII blanks. -/
def asciiBlank : CharClass := .union (.range '\t' '\r') (.single ' ')

/-- The characters of both classes. -/
def intersection (left right : CharClass) : CharClass :=
  .complement (.union (.complement left) (.complement right))

/-- The characters of the left class that the right one does not have. -/
def difference (left right : CharClass) : CharClass := left.intersection (.complement right)

/-- Whether a character belongs to the class. -/
def contains : CharClass → Char → Bool
  | .none, _ => false
  | .range first last, c => first ≤ c && c ≤ last
  | .word, c => Text.isWord c
  | .decimal, c => Text.isDecimal c
  | .blank, c => Text.isBlank c
  | .union left right, c => left.contains c || right.contains c
  | .complement base, c => !base.contains c
  | .folded ascii base, c =>
    (if ascii then [c.toLower, c.toUpper] else Text.caseForms c).any fun form => base.contains form

end CharClass

/-- Conditions on a place in a text that read nothing. -/
inductive Edge where
  /-- A word character on one side only. -/
  | word
  /-- Word characters on both sides or on neither. -/
  | inside
  /-- The start of the text. -/
  | start
  /-- The end of the text. -/
  | stop
  /-- The start of a line. -/
  | lineStart
  /-- The end of a line. -/
  | lineStop
  /-- The start of a line, where a carriage return ends lines too. -/
  | returnedLineStart
  /-- The end of a line, where a carriage return ends lines too. -/
  | returnedLineStop
  /-- A word character after the place and none before it. -/
  | wordStart
  /-- A word character before the place and none after it. -/
  | wordStop
  /-- No word character before the place. -/
  | wordStartHalf
  /-- No word character after the place. -/
  | wordStopHalf
  /-- The condition, with ASCII word characters only. -/
  | ascii (condition : Edge)
  deriving DecidableEq, Repr, Inhabited

/-- Patterns, as they are run. Marks are given to choices by `Pattern.marked`. -/
inductive Pattern where
  /-- The empty text. -/
  | empty
  /-- One character of a class. -/
  | atom (charClass : CharClass)
  /-- A condition on the place. -/
  | edge (condition : Edge)
  /-- One pattern after the other. -/
  | seq (first second : Pattern)
  /-- Either pattern, the left one preferred. -/
  | alt (mark : Option Nat) (left right : Pattern)
  /-- Any number of repetitions. -/
  | star (mark : Option Nat) (isLazy : Bool) (body : Pattern)
  /-- One repetition or more. -/
  | plus (mark : Option Nat) (isLazy : Bool) (body : Pattern)
  /-- A group whose text is kept under its number. -/
  | group (index : Nat) (body : Pattern)
  deriving DecidableEq, Repr, Inhabited

/-- A stretch of the text, by the characters read before its two ends. -/
structure Span where
  start : Nat
  stop : Nat
  deriving DecidableEq, Repr

/-- How far a way through a pattern has come. -/
structure Cursor where
  /-- The character before the place. -/
  before : Option Char
  /-- The text from the place on. -/
  rest : List Char
  /-- How many characters were read. -/
  place : Nat
  /-- The groups closed so far, the latest first. -/
  groups : List (Nat × Span)
  /-- The marks of the choices entered since the last character. -/
  entered : List Nat
  deriving DecidableEq, Repr

namespace Cursor

/-- The cursor of a search that starts at a place. -/
def start (before : Option Char) (rest : List Char) : Cursor := ⟨before, rest, 0, [], []⟩

/-- The cursor after reading the character `c`, with `r` after it. -/
def read (s : Cursor) (c : Char) (r : List Char) : Cursor :=
  { before := some c, rest := r, place := s.place + 1, groups := s.groups, entered := [] }

/-- The cursor after entering a choice, unless its mark was met since the last character. -/
def enter (s : Cursor) : Option Nat → Option Cursor
  | none => some s
  | some mark => if mark ∈ s.entered then none else some { s with entered := mark :: s.entered }

/-- The cursor with a group closed that was opened at `opened`. -/
def close (s : Cursor) (index opened : Nat) : Cursor :=
  { s with groups := (index, ⟨opened, s.place⟩) :: s.groups }

end Cursor

namespace Edge

/-- Whether the condition holds between two characters, of which either may be missing. -/
def between (isWord : Char → Bool) (before after : Option Char) : Edge → Bool
  | .word => before.any isWord != after.any isWord
  | .inside => before.any isWord == after.any isWord
  | .start => before.isNone
  | .stop => after.isNone
  | .lineStart => before.all (· == '\n')
  | .lineStop => after.all (· == '\n')
  -- no line ends between a carriage return and a newline
  | .returnedLineStart => before.all fun c => c == '\n' || (c == '\r' && after != some '\n')
  | .returnedLineStop => after.all fun c => c == '\r' || (c == '\n' && before != some '\r')
  | .wordStart => !before.any isWord && after.any isWord
  | .wordStop => before.any isWord && !after.any isWord
  | .wordStartHalf => !before.any isWord
  | .wordStopHalf => !after.any isWord
  | .ascii condition => condition.between Text.isAsciiWord before after

/-- Whether the condition holds at a place. -/
def holds (condition : Edge) (s : Cursor) : Bool := condition.between Text.isWord s.before s.rest.head?

end Edge

namespace Pattern

/-- What a pattern does at a place, given what the search does after it. -/
abbrev Step := Cursor → (Cursor → Option Cursor) → Option Cursor

/-- At the choice between one more repetition and going on. Between two visits at least one
character is read or a mark refuses the second, so the text that is left bounds the visits. -/
def loop (body : Step) (mark : Option Nat) (isLazy : Bool) : Nat → Step
  | 0, _, _ => none
  | visits + 1, s, k =>
    match s.enter mark with
    | none => none
    | some s =>
      let more := fun (_ : Unit) => body s fun t => loop body mark isLazy visits t k
      if isLazy then (k s).orElse more else (more ()).orElse fun _ => k s

/-- The first way through the pattern from a place that the continuation accepts. -/
def run : Pattern → Step
  | .empty, s, k => k s
  | .atom charClass, s, k =>
    match s.rest with
    | [] => none
    | c :: r => if charClass.contains c then k (s.read c r) else none
  | .edge condition, s, k => if condition.holds s then k s else none
  | .seq first second, s, k => first.run s fun t => second.run t k
  | .alt mark left right, s, k =>
    match s.enter mark with
    | none => none
    | some s => (left.run s k).orElse fun _ => right.run s k
  | .star mark isLazy body, s, k => loop body.run mark isLazy (s.rest.length + 1) s k
  | .plus mark isLazy body, s, k =>
    body.run s fun t => loop body.run mark isLazy (t.rest.length + 1) t k
  | .group index body, s, k => body.run s fun t => k (t.close index s.place)

/-- Whether the pattern could match without reading. -/
def nullable : Pattern → Bool
  | .empty => true
  | .atom _ => false
  | .edge _ => true
  | .seq first second => first.nullable && second.nullable
  | .alt _ left right => left.nullable || right.nullable
  | .star _ _ _ => true
  | .plus _ _ body => body.nullable
  | .group _ body => body.nullable

/-- The greatest number of a group; zero where there is none. -/
def lastGroup : Pattern → Nat
  | .empty | .atom _ | .edge _ => 0
  | .seq first second => max first.lastGroup second.lastGroup
  | .alt _ left right => max left.lastGroup right.lastGroup
  | .star _ _ body | .plus _ _ body => body.lastGroup
  | .group index body => max index body.lastGroup

/-- The mark with the given number, where one is needed. -/
def markIf (needed : Bool) (number : Nat) : Option Nat := if needed then some number else none

/-- The pattern with marks on the choices that lie in a repetition whose body is nullable, numbered
from `next` on, and the next free number. -/
def markedFrom (inLoop : Bool) (next : Nat) : Pattern → Pattern × Nat
  | .empty => (.empty, next)
  | .atom charClass => (.atom charClass, next)
  | .edge condition => (.edge condition, next)
  | .seq first second =>
    let (first, next) := first.markedFrom inLoop next
    let (second, next) := second.markedFrom inLoop next
    (.seq first second, next)
  | .alt _ left right =>
    let (left', after) := left.markedFrom inLoop (next + 1)
    let (right', after) := right.markedFrom inLoop after
    (.alt (markIf inLoop next) left' right', after)
  | .star _ isLazy body =>
    let (body, after) := body.markedFrom inLoop (next + 1)
    (.star (markIf inLoop next) isLazy body, after)
  | .plus _ isLazy body =>
    let inLoop := inLoop || body.nullable
    let (body, after) := body.markedFrom inLoop (next + 1)
    (.plus (markIf inLoop next) isLazy body, after)
  | .group index body =>
    let (body, after) := body.markedFrom inLoop next
    (.group index body, after)

/-- The pattern with its marks. -/
def marked (p : Pattern) : Pattern := (p.markedFrom false 0).1

/-- Patterns one after the other. -/
def concat : List Pattern → Pattern
  | [] => .empty
  | [p] => p
  | p :: ps => .seq p (concat ps)

/-- The first pattern that matches. -/
def choice : List Pattern → Pattern
  | [] => .empty
  | [p] => p
  | p :: ps => .alt none p (choice ps)

/-- The pattern or nothing, in the order of preference. -/
def optional (isLazy : Bool) (p : Pattern) : Pattern :=
  if isLazy then .alt none .empty p else .alt none p .empty

/-- Any number of repetitions; a body that could read nothing is tried once before the loop. -/
def many (isLazy : Bool) (p : Pattern) : Pattern :=
  if p.nullable then optional isLazy (.plus none isLazy p) else .star none isLazy p

/-- Up to `n` repetitions, each only after the one before. -/
def upTo (isLazy : Bool) (p : Pattern) : Nat → Pattern
  | 0 => .empty
  | n + 1 => optional isLazy (.seq p (upTo isLazy p n))

/-- At least `least` repetitions, and no more than `most` if that is given. -/
def repeated (isLazy : Bool) (least : Nat) (most : Option Nat) (p : Pattern) : Pattern :=
  match least, most with
  | 0, none => many isLazy p
  | n + 1, none => concat (List.replicate n p ++ [.plus none isLazy p])
  | 0, some 1 => optional isLazy p
  | n, some m =>
    concat (List.replicate n p ++ if m - n = 0 then [] else [upTo isLazy p (m - n)])

end Pattern
end UiSkeleton
