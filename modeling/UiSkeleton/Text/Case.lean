/-
Uppercase and lowercase forms. One character may become several, and a capital sigma becomes the
final small sigma where it ends a word: some cased letter stands before it and none after it, both
seen through the characters that the rule ignores.
-/
import UiSkeleton.Text.Character
import UiSkeleton.Text.Property.Upper
import UiSkeleton.Text.Property.Lower

namespace UiSkeleton.Text

/-- The form that the runs and expansions of a table give to a character beyond ASCII. -/
def formIn (runs : Array (Nat × Nat × Nat × Int)) (expansions : Array (Nat × List Nat))
    (c : Char) : List Char :=
  let n := c.toNat
  match expansions.find? (·.1 == n) with
  | some (_, form) => form.map Char.ofNat
  | none =>
    let covers := fun (first, last, step, _) => first ≤ n && n ≤ last && (n - first) % step == 0
    match runs.find? covers with
    | some (_, _, _, distance) => [Char.ofNat (n + distance).toNat]
    | none => [c]

/-- The uppercase form of a character. -/
def upperForm (c : Char) : List Char :=
  if c.toNat < 0x80 then [c.toUpper] else formIn Property.upperRuns Property.upperExpansions c

/-- The lowercase form of a character on its own. -/
def lowerForm (c : Char) : List Char :=
  if c.toNat < 0x80 then [c.toLower] else formIn Property.lowerRuns Property.lowerExpansions c

/-- Whether the first character that is not looked through has a case. -/
def startsCased (cs : List Char) : Bool :=
  match cs.dropWhile isCaseIgnorable with
  | [] => false
  | c :: _ => isCased c

/-- The lowercase form of a text that stands after the characters `before`, nearest first. -/
def lowerAfter (before : List Char) : List Char → List Char
  | [] => []
  | c :: r =>
    let form :=
      if c = 'Σ' then (if startsCased before && !startsCased r then ['ς'] else ['σ'])
      else lowerForm c
    form ++ lowerAfter (c :: before) r

/-- The lowercase form of a text. -/
def lower (cs : List Char) : List Char := lowerAfter [] cs

/-- The code point that the runs of a table give to another one. -/
def runForm (runs : Array (Nat × Nat × Nat × Int)) (n : Nat) : Nat :=
  match runs.find? fun (first, last, step, _) => first ≤ n && n ≤ last && (n - first) % step == 0 with
  | some (_, _, _, distance) => (n + distance).toNat
  | none => n

/-- The code points that the runs of a table give this one to. -/
def runSources (runs : Array (Nat × Nat × Nat × Int)) (n : Nat) : List Nat :=
  runs.toList.filterMap fun (first, last, step, distance) =>
    let source := (n - distance).toNat
    if first ≤ source && source ≤ last && (source - first) % step == 0 then some source else none

/-- The code point by which characters are compared without regard to case: their lowercase form,
taken of the uppercase one. The dotless i, whose uppercase form is that of the plain i, is compared
as itself. -/
def caselessForm (c : Char) : Nat :=
  if c.toNat < 0x80 then c.toLower.toNat
  else if c == 'ı' then c.toNat
  else
    let upper := runForm Property.upperRuns c.toNat
    if upper < 0x80 then (Char.ofNat upper).toLower.toNat else runForm Property.lowerRuns upper

/-- The characters that differ from this one in their case at most. -/
def caseForms (c : Char) : List Char :=
  let form := caselessForm c
  let ascii := if form < 0x80 then [(Char.ofNat form).toUpper.toNat] else []
  let capitals := form :: ascii ++ runSources Property.lowerRuns form
  let others := (capitals.flatMap (runSources Property.upperRuns)).filter (· != 'ı'.toNat)
  (capitals ++ others).map Char.ofNat

/-- ASCII letters in lowercase, all else as it is. -/
def lowerAscii (cs : List Char) : List Char := cs.map Char.toLower

end UiSkeleton.Text
