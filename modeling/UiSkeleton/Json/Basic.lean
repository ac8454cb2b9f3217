/-
Values of the JSON format. The members of an object are kept in the order of their keys, one for
each key.
-/
import UiSkeleton.Number.Decimal

namespace UiSkeleton

/-- A number: an integer of 64 bits, or a floating point number. -/
inductive JsonNumber where
  | int (n : Int)
  | float (x : Binary64)
  deriving DecidableEq, Repr

/-- A value of the JSON format. -/
inductive JsonValue where
  | null
  | bool (b : Bool)
  | number (n : JsonNumber)
  | string (s : String)
  | array (items : List JsonValue)
  | object (members : List (String × JsonValue))
  deriving Repr, Inhabited

namespace JsonNumber

/-- Whether the number is zero or, being no normal number, counts as zero. -/
def isZero : JsonNumber → Bool
  | .int n => n == 0
  | .float (.finite _ mantissa _) => mantissa < Nat.pow 2 52
  | .float _ => true

/-- The text of a number. -/
def text : JsonNumber → String
  | .int n => toString n
  | .float x => x.scientificText

end JsonNumber

namespace JsonValue

/-- The members with one more, which takes the place of an earlier one of its key. -/
def insertMember (key : String) (value : JsonValue) :
    List (String × JsonValue) → List (String × JsonValue)
  | [] => [(key, value)]
  | (k, v) :: rest =>
    match compare key k with
    | .lt => (key, value) :: (k, v) :: rest
    | .eq => (key, value) :: rest
    | .gt => (k, v) :: insertMember key value rest

/-- The object with the given members; of several with one key the last one stays. -/
def ofMembers (members : List (String × JsonValue)) : JsonValue :=
  .object (members.foldl (fun done (key, value) => insertMember key value done) [])

end JsonValue
end UiSkeleton
