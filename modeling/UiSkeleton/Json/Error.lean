/-
Why a JSON text or value was not accepted: the text is malformed, or it is well formed and does not
fit what was asked for. Errors of a text know the line and the column where reading stopped.
-/
import UiSkeleton.Json.Basic
import UiSkeleton.Text.Character

namespace UiSkeleton

/-- What a value is, as messages say it. -/
def JsonValue.kindText : JsonValue → String
  | .null => "null"
  | .bool b => "boolean \x60" ++ toString b ++ "\x60"
  | .number (.int n) => "integer \x60" ++ toString n ++ "\x60"
  | .number (.float x) => "floating point \x60" ++ x.scientificText ++ "\x60"
  | .string s => "string " ++ Text.quoted s
  | .array _ => "sequence"
  | .object _ => "map"

/-- What is wrong. -/
inductive JsonCause where
  | endInList
  | endInObject
  | endInString
  | endInValue
  | expectedColon
  | expectedListCommaOrEnd
  | expectedObjectCommaOrEnd
  | expectedIdent
  | expectedValue
  | invalidEscape
  | invalidNumber
  | numberOutOfRange
  | invalidCodePoint
  | controlCharacter
  | keyNotString
  | loneSurrogate
  | trailingComma
  | trailingCharacters
  | endOfHexEscape
  /-- A value of another kind than expected. -/
  | invalidType (found : JsonValue) (expected : String)
  /-- A value of the right kind that is not allowed. -/
  | invalidValue (found : JsonValue) (expected : String)
  | invalidLength (length : Nat) (expected : String)
  | unknownVariant (found : String) (expected : List String)
  | missingField (name : String)
  | duplicateField (name : String)
  deriving Repr

namespace JsonCause

/-- The names that were expected, as messages list them. -/
def choiceText (names : List String) : String :=
  let names := names.map fun n => "\x60" ++ n ++ "\x60"
  match names with
  | [a] => a
  | [a, b] => a ++ " or " ++ b
  | names => "one of " ++ ", ".intercalate names

/-- The text of a cause. -/
def message : JsonCause → String
  | .endInList => "EOF while parsing a list"
  | .endInObject => "EOF while parsing an object"
  | .endInString => "EOF while parsing a string"
  | .endInValue => "EOF while parsing a value"
  | .expectedColon => "expected \x60:\x60"
  | .expectedListCommaOrEnd => "expected \x60,\x60 or \x60]\x60"
  | .expectedObjectCommaOrEnd => "expected \x60,\x60 or \x60\x7d\x60"
  | .expectedIdent => "expected ident"
  | .expectedValue => "expected value"
  | .invalidEscape => "invalid escape"
  | .invalidNumber => "invalid number"
  | .numberOutOfRange => "number out of range"
  | .invalidCodePoint => "invalid unicode code point"
  | .controlCharacter => "control character (\\u0000-\\u001F) found while parsing a string"
  | .keyNotString => "key must be a string"
  | .loneSurrogate => "lone leading surrogate in hex escape"
  | .trailingComma => "trailing comma"
  | .trailingCharacters => "trailing characters"
  | .endOfHexEscape => "unexpected end of hex escape"
  | .invalidType found expected =>
    "invalid type: " ++ found.kindText ++ ", expected " ++ expected
  | .invalidValue found expected =>
    "invalid value: " ++ found.kindText ++ ", expected " ++ expected
  | .invalidLength length expected =>
    "invalid length " ++ toString length ++ ", expected " ++ expected
  | .unknownVariant found expected =>
    "unknown variant \x60" ++ found ++ "\x60, expected " ++ choiceText expected
  | .missingField name => "missing field \x60" ++ name ++ "\x60"
  | .duplicateField name => "duplicate field \x60" ++ name ++ "\x60"

end JsonCause

/-- What is wrong with a text or a value, and where in the text. -/
structure JsonError where
  cause : JsonCause
  /-- The line and the column, for a text. -/
  place : Option (Nat × Nat)
  deriving Repr

/-- The text of an error. -/
def JsonError.message (e : JsonError) : String :=
  match e.place with
  | none => e.cause.message
  | some (line, column) =>
    e.cause.message ++ " at line " ++ toString line ++ " column " ++ toString column

end UiSkeleton
