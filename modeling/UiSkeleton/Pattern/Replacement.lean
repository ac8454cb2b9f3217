/-
Replacement texts. A dollar sign and a group's number or name stand for the text of that group, and
two dollar signs for one; a group that is unknown or took no part stands for nothing, and a dollar
sign that starts none of these stays.
-/
import UiSkeleton.Pattern.Search

namespace UiSkeleton

/-- A part of a replacement text. -/
inductive ReplacementPart where
  /-- A character that stands for itself. -/
  | char (c : Char)
  /-- The text of a group by its number. -/
  | number (index : Nat)
  /-- The text of a group by its name. -/
  | name (name : String)
  deriving DecidableEq, Repr

namespace ReplacementPart

/-- Whether a character may stand in a reference without braces. -/
def isReferenceChar (c : Char) : Bool := c.isAlphanum || c == '_'

/-- Group numbers are written by digits, with one plus sign allowed before them. -/
def number? (word : List Char) : Option Nat :=
  let digits := match word with
    | '+' :: r => r
    | _ => word
  let n := digits.foldl (fun n d => 10 * n + (d.toNat - 48)) 0
  if !digits.isEmpty && digits.all Char.isDigit && n < Nat.pow 2 64 then some n else none

/-- The reference with the given name or number. -/
def reference (word : List Char) : ReplacementPart :=
  match number? word with
  | some n => .number n
  | none => .name (String.ofList word)

/-- The parts of a replacement text; the length of the text is enough `fuel`. -/
def readParts (fuel : Nat) (cs : List Char) : List ReplacementPart :=
  match fuel, cs with
  | 0, _ => []
  | _, [] => []
  | fuel + 1, '$' :: '$' :: r => .char '$' :: readParts fuel r
  | fuel + 1, '$' :: '\x7b' :: r =>
    match r.dropWhile (· != '\x7d') with
    | [] => .char '$' :: readParts fuel ('\x7b' :: r)
    | _ :: rest => reference (r.takeWhile (· != '\x7d')) :: readParts fuel rest
  | fuel + 1, '$' :: r =>
    match r.takeWhile isReferenceChar with
    | [] => .char '$' :: readParts fuel r
    | word => reference word :: readParts fuel (r.dropWhile isReferenceChar)
  | fuel + 1, c :: r => .char c :: readParts fuel r

/-- What a part stands for at an occurrence, with the numbers of the named groups. -/
def expand (names : List (String × Nat)) (o : Occurrence) : ReplacementPart → List Char
  | .char c => [c]
  | .number index => (o.group? index).getD []
  | .name word => ((names.lookup word).bind o.group?).getD []

end ReplacementPart

/-- A replacement text, as its parts. -/
abbrev Replacement := List ReplacementPart

namespace Replacement

/-- Reads a replacement text; every text is one. -/
def read (text : String) : Replacement :=
  ReplacementPart.readParts text.toList.length text.toList

/-- What stands in place of an occurrence. -/
def expand (r : Replacement) (names : List (String × Nat)) (o : Occurrence) : List Char :=
  r.flatMap (ReplacementPart.expand names o)

end Replacement
end UiSkeleton
