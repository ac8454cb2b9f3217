/-
Punycode: labels beyond ASCII in ASCII letters, digits and hyphens. The ASCII characters come first,
then for every other character, smallest first, the distance to it as a number whose digits have a
base of 36 and thresholds that adapt to the distances before.
-/
import UiSkeleton.SortedSet

namespace UiSkeleton.Punycode

/-- The digit of a value below 36. -/
def digit (d : Nat) : Char := if d < 26 then Char.ofNat (97 + d) else Char.ofNat (22 + d)

/-- The value of a digit of either case. -/
def digitValue? (c : Char) : Option Nat :=
  if 'a' ≤ c && c ≤ 'z' then some (c.toNat - 97)
  else if 'A' ≤ c && c ≤ 'Z' then some (c.toNat - 65)
  else if c.isDigit then some (c.toNat - 22)
  else none

/-- From which value on a digit at a place is followed by another one. -/
def threshold (bias place : Nat) : Nat := min 26 (max 1 (place - bias))

theorem threshold_bounds (bias place : Nat) :
    1 ≤ threshold bias place ∧ threshold bias place ≤ 26 := by
  unfold threshold
  omega

/-- The bias that a distance gives, from the place on. -/
def biasOf (distance place : Nat) : Nat :=
  if 455 < distance then biasOf (distance / 35) (place + 36)
  else place + 36 * distance / (distance + 38)
termination_by distance

/-- The bias after a distance, when a label has `count` characters so far. -/
def adapted (distance count : Nat) (isFirst : Bool) : Nat :=
  let halved := if isFirst then distance / 700 else distance / 2
  biasOf (halved + halved / count) 0

/-- The digits of a number from a place on. -/
def digits (bias place n : Nat) : List Char :=
  let t := threshold bias place
  if n < t then [digit n]
  else digit (t + (n - t) % (36 - t)) :: digits bias (place + 36) ((n - t) / (36 - t))
termination_by n
decreasing_by
  have := threshold_bounds bias place
  exact Nat.lt_of_le_of_lt (Nat.div_le_self ..) (by omega)

/-- How far a label is written. -/
structure Written where
  /-- The steps since the last character that was written. -/
  distance : Nat
  bias : Nat
  /-- How many characters are written. -/
  count : Nat
  text : List Char

/-- Goes past a character of the label when the characters up to `next` are being written. -/
def Written.pass (basicCount next : Nat) (w : Written) (c : Char) : Written :=
  if c.toNat < next then { w with distance := w.distance + 1 }
  else if c.toNat = next then
    { distance := 0
      bias := adapted w.distance (w.count + 1) (w.count == basicCount)
      count := w.count + 1
      text := w.text ++ digits w.bias 36 w.distance }
  else w

/-- Writes the characters of a label in the order of their numbers, the first of which is at least
`least`. -/
def writeRest (label : List Char) (basicCount : Nat) (w : Written) (least : Nat) :
    List Nat → List Char
  | [] => w.text
  | next :: more =>
    let start := { w with distance := w.distance + (next - least) * (w.count + 1) }
    let passed := label.foldl (Written.pass basicCount next) start
    writeRest label basicCount { passed with distance := passed.distance + 1 } (next + 1) more

/-- The written form of a label. -/
def encode (label : List Char) : List Char :=
  let basic := label.filter fun c => c.toNat < 0x80
  let others := (label.filter fun c => 0x80 ≤ c.toNat).map Char.toNat
  let start := if basic.isEmpty then [] else basic ++ ['-']
  writeRest label basic.length ⟨0, 72, basic.length, start⟩ 0x80 (SortedSet.ofList others).toList

/-- How far a written form is read. -/
structure ReadSoFar where
  place : Nat
  weight : Nat
  /-- The number so far, added to where its reading started. -/
  sum : Nat
  start : Nat
  /-- The number of the last character read. -/
  code : Nat
  bias : Nat
  label : List Char

/-- Reads the digits of a written form; `none` if they end inside a number or give a number that is
no character. -/
def readDigits (s : ReadSoFar) : List Char → Option (List Char)
  | [] => if s.place = 36 then some s.label else none
  | c :: r =>
    match digitValue? c with
    | none => none
    | some d =>
      let sum := s.sum + d * s.weight
      let t := threshold s.bias s.place
      if t ≤ d then
        readDigits { s with place := s.place + 36, weight := s.weight * (36 - t), sum := sum } r
      else
        let count := s.label.length + 1
        let code := s.code + sum / count
        let position := sum % count
        if 0x110000 ≤ code || (0xd800 ≤ code && code < 0xe000) then none
        else readDigits
          { place := 36, weight := 1, sum := position + 1, start := position + 1, code,
            bias := adapted (sum - s.start) count (s.start == 0),
            label := s.label.take position ++ Char.ofNat code :: s.label.drop position } r

/-- The label of a written form. -/
def decode? (written : List Char) : Option (List Char) :=
  let tail := (written.reverse.takeWhile (· != '-')).reverse
  let basic := written.take (written.length - tail.length - 1)
  if basic.all fun c => c.toNat < 0x80 then readDigits ⟨36, 1, 0, 0, 0x80, 72, basic⟩ tail else none

end UiSkeleton.Punycode
