/-
Network addresses: four bytes written with points, where the last number may stand for several
bytes, and eight pieces of sixteen bits written with colons, where a double colon stands for zeros.
-/
import UiSkeleton.Text.Blank
import UiSkeleton.Text.Character

namespace UiSkeleton.Address

/-- The value of some digits. -/
def valueIn (base : Nat) (digits : List Char) : Nat :=
  digits.foldl (fun n c => n * base + Text.hexValue c) 0

/-- The number of one part of an address of four bytes: in base sixteen behind `0x`, in base eight
behind `0`, else in base ten. -/
def number? (part : List Char) : Option Nat :=
  let (base, digits) := match part with
    | '0' :: 'x' :: r => (16, r)
    | '0' :: 'X' :: r => (16, r)
    | '0' :: c :: r => (8, c :: r)
    | part => (10, part)
  if part.isEmpty then none
  else if digits.all fun c => Text.isHexDigit c && Text.hexValue c < base then
    some (valueIn base digits)
  else none

/-- The parts between the points, without an empty one at the end. -/
def parts (host : List Char) : List (List Char) :=
  let all := Text.cutWhere (· == '.') host
  if 1 < all.length && all.getLast? = some [] then all.dropLast else all

/-- Whether a host can only be an address of four bytes: its last part is a number. -/
def endsInNumber (host : List Char) : Bool :=
  match (parts host).getLast? with
  | none => false
  | some last => (!last.isEmpty && last.all Char.isDigit) || (number? last).isSome

/-- The address of four bytes as one number. -/
def fourBytes? (host : List Char) : Option Nat := do
  let numbers ← (parts host).mapM number?
  let last ← numbers.getLast?
  let first := numbers.dropLast
  if 3 < first.length || Nat.pow 256 (4 - first.length) ≤ last || first.any (255 < ·) then none
  else some (first.zipIdx.foldl (fun sum (n, i) => sum + n * Nat.pow 256 (3 - i)) last)

/-- The four bytes of an address with points between them. -/
def fourBytesText (address : Nat) : List Char :=
  List.intercalate ['.'] ([3, 2, 1, 0].map fun i =>
    (toString (address / Nat.pow 256 i % 256)).toList)

/-- The two pieces that four decimal bytes stand for. -/
def bytePieces? (text : List Char) : Option (List Nat) := do
  let bytes ← (Text.cutWhere (· == '.') text).mapM fun part =>
    if part.isEmpty || !part.all Char.isDigit || (1 < part.length && part.head? = some '0') ||
        255 < valueIn 10 part then none
    else some (valueIn 10 part)
  match bytes with
  | [a, b, c, d] => some [a * 256 + b, c * 256 + d]
  | _ => none

/-- The pieces between colons. Only the last may be written as four bytes. -/
def pieces? (bytesAllowed : Bool) : List (List Char) → Option (List Nat)
  | [] => some []
  | part :: more => do
    let first ←
      if more.isEmpty && bytesAllowed && part.contains '.' then bytePieces? part
      else if part.isEmpty || 4 < part.length || !part.all Text.isHexDigit then none
      else some [valueIn 16 part]
    return first ++ (← pieces? bytesAllowed more)

/-- The text before the first double colon, and the text behind it. -/
def cutDoubleColon : List Char → Option (List Char × List Char)
  | ':' :: ':' :: r => some ([], r)
  | c :: r => (cutDoubleColon r).map fun (a, b) => (c :: a, b)
  | [] => none

/-- The parts between colons; none for the empty text. -/
def colonParts (text : List Char) : List (List Char) :=
  if text.isEmpty then [] else Text.cutWhere (· == ':') text

/-- The eight pieces of an address. -/
def eightPieces? (text : List Char) : Option (List Nat) := do
  match cutDoubleColon text with
  | none =>
    let pieces ← pieces? true (colonParts text)
    if pieces.length = 8 then some pieces else none
  | some (before, behind) =>
    let first ← pieces? false (colonParts before)
    let last ← pieces? true (colonParts behind)
    if first.length + last.length < 8 then
      some (first ++ List.replicate (8 - first.length - last.length) 0 ++ last)
    else none

/-- How many zeros a list starts with. -/
def leadingZeros (pieces : List Nat) : Nat := (pieces.takeWhile (· == 0)).length

/-- The place and the length of the first of the longest runs of zeros. -/
def longestZeros (place : Nat) : List Nat → Nat × Nat
  | [] => (0, 0)
  | piece :: more =>
    let here := leadingZeros (piece :: more)
    let later := longestZeros (place + 1) more
    if here != 0 && later.2 ≤ here then (place, here) else later

/-- The eight pieces with colons between them, the longest run of zeros as a double colon. -/
def eightPiecesText (pieces : List Nat) : List Char :=
  let joined (ps : List Nat) : List Char := List.intercalate [':'] (ps.map Text.hexText)
  let (place, length) := longestZeros 0 pieces
  if length < 2 then joined pieces
  else joined (pieces.take place) ++ [':', ':'] ++ joined (pieces.drop (place + length))

end UiSkeleton.Address
