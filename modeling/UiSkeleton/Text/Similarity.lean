/-
How alike two texts are, by Jaro's measure: characters match if they are equal and not too far
apart, and matching characters in another order count half. The measure is the mean of three
fractions and is kept as one exact fraction.
-/

namespace UiSkeleton.Text

/-- The characters of `a` that match one of `b`, each with the place of its match. A place is taken
once, and matches lie at most `reach` apart. -/
def matchesFrom (reach : Nat) (b : List Char) (taken : List Nat) (place : Nat) :
    List Char → List (Char × Nat)
  | [] => []
  | c :: r =>
    let near := b.zipIdx.find? fun (d, i) =>
      d == c && place ≤ i + reach && i ≤ place + reach && !taken.contains i
    match near with
    | some (_, i) => (c, i) :: matchesFrom reach b (i :: taken) (place + 1) r
    | none => matchesFrom reach b taken (place + 1) r

/-- The similarity of two texts, as a numerator and a denominator. -/
def similarity (a b : List Char) : Nat × Nat :=
  let reach := max a.length b.length / 2 - 1
  let found := matchesFrom reach b [] 0 a
  let inOrderOfA := found.map Prod.fst
  let inOrderOfB := (found.mergeSort fun x y => decide (x.2 ≤ y.2)).map Prod.fst
  let moved := ((inOrderOfA.zip inOrderOfB).filter fun (c, d) => c != d).length / 2
  let m := found.length
  if m = 0 then (0, 1)
  else (m * m * b.length + m * m * a.length + (m - moved) * a.length * b.length,
    3 * a.length * b.length * m)

/-- Whether the fraction `x` is greater than `y`. -/
def isGreater (x y : Nat × Nat) : Bool := y.1 * x.2 < x.1 * y.2

/-- The last of the candidates that are most like a text, among those that are alike at all: by more
than seven tenths. -/
def mostAlike? (text : List Char) (candidates : List String) : Option String :=
  candidates.foldl (fun best candidate =>
    let likeness := similarity text candidate.toList
    let least := match best with
      | none => (7, 10)
      | some other => similarity text other.toList
    if isGreater likeness least || (best.isSome && !isGreater least likeness) then some candidate
    else best) none

end UiSkeleton.Text
