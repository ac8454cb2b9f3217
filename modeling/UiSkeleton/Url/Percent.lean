/-
Percent-encoding. A character that may not stand in some part of a URL is written byte by byte, each
byte as a percent sign and two digits of base sixteen. Characters beyond ASCII are always written
so; which ASCII characters are depends on the part.
-/
import UiSkeleton.Text.Character
import UiSkeleton.Text.Utf8

namespace UiSkeleton.Percent

/-- Controls, which are encoded everywhere. -/
def isControl (c : Char) : Bool := c.toNat < 0x20 || c.toNat == 0x7f

/-- What is encoded in a fragment. -/
def inFragment (c : Char) : Bool := isControl c || [' ', '"', '<', '>', '\x60'].contains c

/-- What is encoded in a path. -/
def inPath (c : Char) : Bool := inFragment c || ['#', '?', '\x7b', '\x7d'].contains c

/-- What is encoded in a user name or a password. -/
def inUserInfo (c : Char) : Bool :=
  inPath c || ['/', ':', ';', '=', '@', '[', '\\', ']', '^', '|'].contains c

/-- What is encoded in a query. -/
def inQuery (c : Char) : Bool := isControl c || [' ', '"', '#', '<', '>'].contains c

/-- What is encoded in a query of a special scheme. -/
def inSpecialQuery (c : Char) : Bool := inQuery c || c == '\x27'

/-- A byte as a percent sign and two digits. -/
def encodedByte (b : UInt8) : List Char :=
  ['%', Nat.digitChar (b.toNat / 16) |>.toUpper, Nat.digitChar (b.toNat % 16) |>.toUpper]

/-- A character as it stands in a part where `encodes` says what is encoded. -/
def encodeChar (encodes : Char → Bool) (c : Char) : List Char :=
  if c.toNat < 0x80 && !encodes c then [c]
  else (Text.toBytes (String.singleton c)).flatMap encodedByte

/-- A text as it stands in a part where `encodes` says what is encoded. -/
def encode (encodes : Char → Bool) (cs : List Char) : List Char := cs.flatMap (encodeChar encodes)

/-- The bytes of a text in which encoded bytes stand for themselves. A percent sign without two
digits behind it is only a percent sign. -/
def decode : List Char → List UInt8
  | '%' :: a :: b :: r =>
    if Text.isHexDigit a && Text.isHexDigit b then
      UInt8.ofNat (Text.hexValue a * 16 + Text.hexValue b) :: decode r
    else 37 :: decode (a :: b :: r)
  | c :: r => Text.toBytes (String.singleton c) ++ decode r
  | [] => []

/-- The text that a part stands for; `none` if its bytes are not UTF-8. -/
def decodeText? (cs : List Char) : Option (List Char) :=
  match Text.decodeUtf8 0 (decode cs) with
  | .ok text => some text
  | .error _ => none

end UiSkeleton.Percent
