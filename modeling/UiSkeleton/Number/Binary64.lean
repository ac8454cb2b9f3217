/-
Floating point numbers of 64 bits, in exact arithmetic. A finite number is a sign, a mantissa below
two to the power 53 and an exponent of two; an operation computes its exact result as a quotient of
natural numbers and takes the nearest number, an exact tie going to the even mantissa. Numbers with
a fixed count of places after the point are here as well, as texts of natural numbers.
-/

namespace UiSkeleton

/-- Division to the nearest natural number, a half going to the even one. -/
def divNearestEven (num den : Nat) : Nat :=
  let q := num / den
  let twice := 2 * (num % den)
  if twice < den || (twice == den && q % 2 == 0) then q else q + 1

/-- Division to the nearest natural number, a half going up. -/
def divNearestUp (num den : Nat) : Nat := (2 * num + den) / (2 * den)

/-- A number of thousandths with three places after the point. -/
def threePlaces (thousandths : Nat) : String :=
  let digits := Nat.toDigits 10 (thousandths % 1000)
  toString (thousandths / 1000) ++ "." ++
    String.ofList (List.replicate (3 - digits.length) '0' ++ digits)

/-- A number of thousandths with one place after the point; a half goes to the even digit. -/
def onePlace (thousandths : Nat) : String :=
  let tenths := divNearestEven thousandths 100
  toString (tenths / 10) ++ "." ++ toString (tenths % 10)

/-- A floating point number of 64 bits. -/
inductive Binary64 where
  | nan
  | infinite (negative : Bool)
  /-- The mantissa times two to the power of the exponent. -/
  | finite (negative : Bool) (mantissa : Nat) (exponent : Int)
  deriving DecidableEq, Repr

namespace Binary64

/-- The least exponent of two. -/
def minExponent : Int := -1074

/-- Two to the power of the exponent, as a quotient. -/
def powerOfTwo (exponent : Int) : Nat × Nat :=
  if 0 ≤ exponent then (Nat.pow 2 exponent.toNat, 1) else (1, Nat.pow 2 (-exponent).toNat)

/-- The exponent of the last bit that a number of the size of `num / den` keeps. -/
def lastBit (num den : Nat) : Int :=
  let guess : Int := (num.log2 : Int) - (den.log2 : Int)
  let (up, down) := powerOfTwo guess
  let magnitude := if den * up ≤ num * down then guess else guess - 1
  max minExponent (magnitude - 52)

/-- The number nearest to `num / den` with a sign; the denominator is not zero. -/
def nearest (negative : Bool) (num den : Nat) : Binary64 :=
  if num = 0 then .finite negative 0 minExponent
  else
    let exponent := lastBit num den
    let (up, down) := powerOfTwo exponent
    let mantissa := divNearestEven (num * down) (den * up)
    let (mantissa, exponent) :=
      if mantissa = Nat.pow 2 53 then (Nat.pow 2 52, exponent + 1) else (mantissa, exponent)
    if 971 < exponent then .infinite negative else .finite negative mantissa exponent

/-- The absolute value of a finite number as a quotient. -/
def quotient (mantissa : Nat) (exponent : Int) : Nat × Nat :=
  let (up, down) := powerOfTwo exponent
  (mantissa * up, down)

/-- The number nearest to an integer. -/
def ofInt (n : Int) : Binary64 := nearest (n < 0) n.natAbs 1

/-- Multiplication by a natural number other than zero. -/
def scale (x : Binary64) (factor : Nat) : Binary64 :=
  match x with
  | .finite negative mantissa exponent =>
    let (num, den) := quotient mantissa exponent
    nearest negative (num * factor) den
  | x => x

/-- Division by a natural number other than zero. -/
def divNat (x : Binary64) (divisor : Nat) : Binary64 :=
  match x with
  | .finite negative mantissa exponent =>
    let (num, den) := quotient mantissa exponent
    nearest negative num (den * divisor)
  | x => x

/-- Multiplication of finite numbers; an infinite number or none stays as the first factor is. -/
def mul : Binary64 → Binary64 → Binary64
  | .finite s m e, .finite t n f =>
    let (a, b) := quotient m e
    let (c, d) := quotient n f
    nearest (s != t) (a * c) (b * d)
  | x, _ => x

/-- Division. A number divided by zero is infinite, and zero by zero is no number. -/
def div : Binary64 → Binary64 → Binary64
  | .nan, _ => .nan
  | _, .nan => .nan
  | .infinite _, .infinite _ => .nan
  | .infinite s, .finite t _ _ => .infinite (s != t)
  | .finite s _ _, .infinite t => .finite (s != t) 0 minExponent
  | .finite s m e, .finite t n f =>
    if n = 0 then (if m = 0 then .nan else .infinite (s != t))
    else
      let (a, b) := quotient m e
      let (c, d) := quotient n f
      nearest (s != t) (a * d) (b * c)

/-- The nearest integer, a half going away from zero. -/
def round : Binary64 → Binary64
  | .finite negative mantissa exponent =>
    let (num, den) := quotient mantissa exponent
    nearest negative (divNearestUp num den) 1
  | x => x

/-- The number rounded to three places after the point, halves away from zero. -/
def roundThousandths (x : Binary64) : Binary64 := ((x.scale 1000).round).divNat 1000

/-- The number with exactly three places after the point; an exact tie goes to the even digit. -/
def threePlacesText : Binary64 → String
  | .nan => "NaN"
  | .infinite negative => (if negative then "-" else "") ++ "inf"
  | .finite negative mantissa exponent =>
    let (num, den) := quotient mantissa exponent
    (if negative then "-" else "") ++ threePlaces (divNearestEven (num * 1000) den)

/-- The 64 bits of a number as a natural number; `none` for no number. -/
def bits? : Binary64 → Option Nat
  | .nan => none
  | .infinite negative => some ((if negative then Nat.pow 2 63 else 0) + 2047 * Nat.pow 2 52)
  | .finite negative mantissa exponent =>
    let sign := if negative then Nat.pow 2 63 else 0
    if mantissa < Nat.pow 2 52 then some (sign + mantissa)
    else some (sign + (exponent + 1075).toNat * Nat.pow 2 52 + (mantissa - Nat.pow 2 52))

end Binary64
end UiSkeleton
