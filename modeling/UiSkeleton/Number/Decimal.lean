/-
Decimal numerals and the floating point numbers nearest to them, in both directions. Reading takes
the nearest number; writing takes the fewest digits that read back, and of those the nearest.
-/
import UiSkeleton.Number.Binary64

namespace UiSkeleton.Binary64

/-- The number that a row of digits stands for. -/
def digitsValue (digits : List Char) : Nat := digits.foldl (fun n d => 10 * n + (d.toNat - 48)) 0

/-- The number nearest to `digits` times ten to the power of the exponent. Far outside the range of
the finite numbers the power is not computed. -/
def ofScientific (negative : Bool) (digits : Nat) (exponent : Int) : Binary64 :=
  if digits = 0 then .finite negative 0 minExponent
  else
    let places : Int := (Nat.toDigits 10 digits).length + exponent
    if 400 < places then .infinite negative
    else if places < -400 then .finite negative 0 minExponent
    else if 0 ≤ exponent then nearest negative (digits * Nat.pow 10 exponent.toNat) 1
    else nearest negative digits (Nat.pow 10 (-exponent).toNat)

/-- An exponent with its sign: zero if there is none, `none` if anything else follows. -/
def readExponent? : List Char → Option Int
  | [] => some 0
  | e :: r =>
    let (negative, digits) := match r with
      | '-' :: r => (true, r)
      | '+' :: r => (false, r)
      | _ => (false, r)
    if (e == 'e' || e == 'E') && !digits.isEmpty && digits.all Char.isDigit then
      some (if negative then -(digitsValue digits : Int) else digitsValue digits)
    else none

/-- Reads digits with a point anywhere among them and an exponent; one digit there must be. -/
def readUnsigned? (negative : Bool) (cs : List Char) : Option Binary64 :=
  let whole := cs.takeWhile Char.isDigit
  let rest := cs.dropWhile Char.isDigit
  let (fraction, rest) := match rest with
    | '.' :: r => (r.takeWhile Char.isDigit, r.dropWhile Char.isDigit)
    | _ => ([], rest)
  if whole.isEmpty && fraction.isEmpty then none
  else (readExponent? rest).map fun exponent =>
    ofScientific negative (digitsValue (whole ++ fraction)) (exponent - fraction.length)

/-- Reads a numeral with an optional sign, or one of the words for infinity and no number in
letters of any case. -/
def read? (cs : List Char) : Option Binary64 :=
  let (negative, cs) := match cs with
    | '-' :: r => (true, r)
    | '+' :: r => (false, r)
    | _ => (false, cs)
  let word := String.ofList (cs.map Char.toLower)
  if word = "inf" ∨ word = "infinity" then some (.infinite negative)
  else if word = "nan" then some .nan
  else readUnsigned? negative cs

/-- The least `n` from `start` on, within `fuel` steps, for which ten to the power `n` times
`num / den` is at least one. -/
def leadingZeros (num den : Nat) : Nat → Nat → Nat
  | 0, n => n
  | fuel + 1, n => if den ≤ num * Nat.pow 10 n then n else leadingZeros num den fuel (n + 1)

/-- The exponent of ten of the first digit of `num / den`. -/
def leadingExponent (num den : Nat) : Int :=
  if den ≤ num then ((Nat.toDigits 10 (num / den)).length : Int) - 1
  else -(leadingZeros num den 400 1 : Int)

/-- `num / den` in units of ten to the power of the exponent, rounded down. -/
def unitsBelow (num den : Nat) (exponent : Int) : Nat :=
  if 0 ≤ exponent then num / (den * Nat.pow 10 exponent.toNat)
  else num * Nat.pow 10 (-exponent).toNat / den

/-- Whether `below` units are nearer to `num / den` than one unit more. -/
def belowIsNearer (num den below : Nat) (exponent : Int) : Bool :=
  let (up, down) := if 0 ≤ exponent then (Nat.pow 10 exponent.toNat, 1)
    else (1, Nat.pow 10 (-exponent).toNat)
  2 * num * down ≤ (2 * below + 1) * den * up

/-- The shortest decimal for a finite number: its digits and the exponent of ten of the last one.
Starts with `17 - fuel` digits and tries one more at each step. -/
def shortestFrom (mantissa : Nat) (exponent : Int) (num den : Nat) (leading : Int) :
    Nat → Nat × Int
  | 0 => (unitsBelow num den (leading - 16), leading - 16)
  | fuel + 1 =>
    let unit := leading - ((17 - (fuel + 1) : Nat) : Int)
    let below := unitsBelow num den unit
    let fits (n : Nat) : Bool := ofScientific false n unit == .finite false mantissa exponent
    let order := if belowIsNearer num den below unit then [below, below + 1] else [below + 1, below]
    match order.find? fits with
    | some n => if n % 10 = 0 then (n / 10, unit + 1) else (n, unit)
    | none => shortestFrom mantissa exponent num den leading fuel

/-- The digits of the shortest decimal of a number other than zero, and the exponent of ten of the
last one. -/
def shortest (mantissa : Nat) (exponent : Int) : List Char × Int :=
  let (num, den) := quotient mantissa exponent
  let (digits, unit) := shortestFrom mantissa exponent num den (leadingExponent num den) 17
  (Nat.toDigits 10 digits, unit)

/-- Digits in units of ten to the power `unit`, always with a point and never with an exponent. -/
def positional (digits : List Char) (unit : Int) : List Char :=
  if 0 ≤ unit then digits ++ List.replicate unit.toNat '0' ++ ['.', '0']
  else
    let places := (-unit).toNat
    let digits := List.replicate (places + 1 - digits.length) '0' ++ digits
    digits.take (digits.length - places) ++ ['.'] ++ digits.drop (digits.length - places)

/-- Digits with a point behind the first one, if there are more, and the exponent of the first. -/
def exponential (digits : List Char) (unit : Int) : List Char :=
  let exponent := (toString (unit + digits.length - 1)).toList
  match digits with
  | [] => []
  | [d] => d :: 'e' :: exponent
  | d :: more => d :: '.' :: more ++ ['e'] ++ exponent

/-- The text of a number, given how the digits of its absolute value are laid out. -/
def textBy (layout : List Char → Int → List Char) : Binary64 → String
  | .nan => "NaN"
  | .infinite negative => if negative then "-inf" else "inf"
  | .finite negative mantissa exponent =>
    let (digits, unit) := if mantissa = 0 then (['0'], 0) else shortest mantissa exponent
    (if negative then "-" else "") ++ String.ofList (layout digits unit)

/-- The shortest decimal text, with an exponent for numbers of 10^16 and more and for those below
10^-5. -/
def scientificText (x : Binary64) : String :=
  x.textBy fun digits unit =>
    let leading := unit + digits.length
    if -5 < leading && leading ≤ 16 then positional digits unit else exponential digits unit

end UiSkeleton.Binary64
