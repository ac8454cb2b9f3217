/-
Classes of characters: word characters and decimal digits, as the patterns know them, and the
classes that the case rules and the quoting of texts need. ASCII is written out; beyond it the
tables of ranges decide. Quoted texts are those of messages, which show file names and wrong input
between double quotes: the quote, the backslash and four controls stand behind a backslash, and
every character that would not be seen is written by its number in base sixteen.
-/
import UiSkeleton.Text.Property.Word
import UiSkeleton.Text.Property.Cased
import UiSkeleton.Text.Property.CaseIgnorable
import UiSkeleton.Text.Property.Hidden
import UiSkeleton.Text.Property.Joining

namespace UiSkeleton.Text

/-- Whether a code point lies in one of the ranges. -/
def inRanges (ranges : Array (Nat × Nat)) (n : Nat) : Bool :=
  ranges.any fun range => range.1 ≤ n && n ≤ range.2

/-- Letters, marks, decimal digits, connector punctuation and join controls. -/
def isWord (c : Char) : Bool :=
  c.isAlphanum || c == '_' || (0x80 ≤ c.toNat && inRanges Property.wordRanges c.toNat)

/-- ASCII letters, digits and the underscore. -/
def isAsciiWord (c : Char) : Bool := c.isAlphanum || c == '_'

/-- Decimal digits of any script. -/
def isDecimal (c : Char) : Bool :=
  c.isDigit || (0x80 ≤ c.toNat && inRanges Property.digitRanges c.toNat)

/-- Letters that have a case. -/
def isCased (c : Char) : Bool :=
  c.isAlpha || (0x80 ≤ c.toNat && inRanges Property.casedRanges c.toNat)

/-- Characters that the rule for a final sigma looks through. -/
def isCaseIgnorable (c : Char) : Bool := inRanges Property.caseIgnorableRanges c.toNat

/-- Characters that a quoted text writes by their number. -/
def isHidden (c : Char) : Bool :=
  c.toNat < 0x20 || c.toNat == 0x7f || (0x80 ≤ c.toNat && inRanges Property.hiddenRanges c.toNat)

/-- Characters that stay with the character before them. -/
def joinsBefore (c : Char) : Bool :=
  0x80 ≤ c.toNat && inRanges Property.joiningRanges c.toNat

/-- Characters that stay with the character after them. -/
def joinsAfter (c : Char) : Bool :=
  0x80 ≤ c.toNat && inRanges Property.precedingRanges c.toNat

/-- The ASCII digits of base sixteen, of either case. -/
def isHexDigit (c : Char) : Bool :=
  c.isDigit || ('a' ≤ c && c ≤ 'f') || ('A' ≤ c && c ≤ 'F')

/-- The value of a digit of base sixteen; zero for any other character. -/
def hexValue (c : Char) : Nat :=
  if c.isDigit then c.toNat - '0'.toNat
  else if 'a' ≤ c && c ≤ 'f' then c.toNat - 'a'.toNat + 10
  else if 'A' ≤ c && c ≤ 'F' then c.toNat - 'A'.toNat + 10
  else 0

/-- A number in base sixteen with lowercase digits and no leading zeros. -/
def hexText (n : Nat) : List Char := Nat.toDigits 16 n

/-- How one character stands in a quoted text. -/
def quotedChar (c : Char) : List Char :=
  if c = '"' then ['\\', '"']
  else if c = '\\' then ['\\', '\\']
  else if c = '\n' then ['\\', 'n']
  else if c = '\r' then ['\\', 'r']
  else if c = '\t' then ['\\', 't']
  else if c = '\x00' then ['\\', '0']
  else if isHidden c then ['\\', 'u', '\x7b'] ++ hexText c.toNat ++ ['\x7d']
  else [c]

/-- The text between quotes, every character in its quoted form. -/
def quoted (s : String) : String :=
  String.ofList (['"'] ++ s.toList.flatMap quotedChar ++ ['"'])

end UiSkeleton.Text
