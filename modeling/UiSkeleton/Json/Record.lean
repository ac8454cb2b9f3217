/-
Records in JSON: an object whose known keys have values of a fixed form, or the list of those values
in the order of the fields. Unknown keys are passed over, and a key may come only once. A record is
read from a text, with the place of every error, or from a value.
-/
import UiSkeleton.Json.Scan

namespace UiSkeleton

/-- What a field may hold. -/
inductive FieldForm where
  /-- Any text. -/
  | text
  /-- One of some names, also written as an object with the name as its key and null under it. -/
  | choice (names : List String)
  deriving DecidableEq, Repr

/-- The fields of a record. -/
structure RecordForm where
  /-- What messages call the record. -/
  name : String
  fields : List (String × FieldForm)
  /-- Whether every field has to be there. -/
  required : Bool

/-- The values of the fields that were found. -/
abbrev FieldValues := List (String × String)

namespace RecordForm

/-- What messages call the record when its list is too short. -/
def lengthText (form : RecordForm) : String :=
  form.name ++ " with " ++ toString form.fields.length ++ " elements"

/-- The found values, unless a field is missing that has to be there. -/
def complete (form : RecordForm) (found : FieldValues) : Except JsonCause FieldValues :=
  match form.fields.find? fun field => form.required && (found.lookup field.1).isNone with
  | some field => .error (.missingField field.1)
  | none => .ok found

end RecordForm

namespace JsonReader

/-- Takes a string from its opening quote on. -/
def expectString (expected : String) : JsonReader String := do
  match ← peekPastBlanks with
  | none => failAhead .endInValue
  | some b =>
    if b == code '"' then
      skip
      takeString
    else failType expected

/-- Takes a string that must be one of some names. -/
def expectName (names : List String) (expected : String) : JsonReader String := do
  let s ← expectString expected
  if names.contains s then return s else fail (.unknownVariant s names)

/-- Takes the colon between a key and its value. -/
def expectColon : JsonReader Unit := do
  match ← peekPastBlanks with
  | none => failAhead .endInObject
  | some b => if b == code ':' then skip else failAhead .expectedColon

/-- Takes null. -/
def expectNull : JsonReader Unit := do
  match ← peekPastBlanks with
  | none => failAhead .endInValue
  | some b =>
    if b == code 'n' then
      skip
      takeWord "ull".toList
    else failType "unit"

/-- Takes one of some names, in either of its two written forms. -/
def expectChoice (names : List String) : JsonReader String := do
  match ← peekPastBlanks with
  | none => failAhead .endInValue
  | some b =>
    if b == code '"' then expectName names "variant identifier"
    else if b == code '\x7b' then
      skip
      let s ← expectName names "variant identifier"
      expectColon
      expectNull
      match ← peekPastBlanks with
      | none => fail .endInObject
      | some b =>
        if b == code '\x7d' then
          skip
          return s
        else fail .expectedValue
    else failAhead .expectedValue

/-- Takes the value of a field. -/
def expectField : FieldForm → JsonReader String
  | .text => expectString "a string"
  | .choice names => expectChoice names

/-- Goes on to the next key of an object; false at its end. -/
def atKey (first : Bool) : JsonReader Bool := do
  match ← peekPastBlanks with
  | none => failAhead .endInObject
  | some b =>
    if b == code '\x7d' then return false
    else if b == code ',' && !first then
      skip
      match ← peekPastBlanks with
      | none => failAhead .endInValue
      | some b =>
        if b == code '"' then return true
        else failAhead (if b == code '\x7d' then .trailingComma else .keyNotString)
    else if !first then failAhead .expectedObjectCommaOrEnd
    else if b == code '"' then return true
    else failAhead .keyNotString

/-- Goes on to the next item of a list; false at its end. -/
def atItem (first : Bool) : JsonReader Bool := do
  match ← peekPastBlanks with
  | none => failAhead .endInList
  | some b =>
    if b == code ']' then return false
    else if first then return true
    else if b == code ',' then
      skip
      match ← peekPastBlanks with
      | none => failAhead .endInValue
      | some b => if b == code ']' then failAhead .trailingComma else return true
    else failAhead .expectedListCommaOrEnd

/-- Takes the members of an object; every member reads a byte. A fault of the record itself has no
place yet. -/
def takeMembers (form : RecordForm) (fuel : Nat) (found : FieldValues) (first : Bool) :
    JsonReader (Except JsonCause FieldValues) :=
  match fuel with
  | 0 => pure (form.complete found)
  | fuel + 1 => do
    if ← atKey first then
      skip
      let key ← takeString
      match form.fields.lookup key with
      | none =>
        expectColon
        passValue
        takeMembers form fuel found false
      | some field =>
        if (found.lookup key).isSome then return .error (.duplicateField key)
        expectColon
        let v ← expectField field
        takeMembers form fuel (found ++ [(key, v)]) false
    else return form.complete found

/-- Takes the values of a list for the fields in their order. -/
def takeItems (form : RecordForm) (found : FieldValues) (first : Bool) :
    List (String × FieldForm) → JsonReader (Except JsonCause FieldValues)
  | [] => pure (.ok found)
  | (key, field) :: more => do
    if ← atItem first then
      let v ← expectField field
      takeItems form (found ++ [(key, v)]) false more
    else if form.required then return .error (.invalidLength found.length form.lengthText)
    else return .ok found

/-- Takes the end of an object, and says what is wrong with it if there is none. -/
def takeObjectEnd : JsonReader (Option JsonError) := do
  let b ← peekPastBlanks
  let place := (← get).placeAhead
  match b with
  | none => return some ⟨.endInObject, some place⟩
  | some b =>
    if b == code '\x7d' then
      skip
      return none
    else return some ⟨if b == code ',' then .trailingComma else .trailingCharacters, some place⟩

/-- Takes the end of a list, and says what is wrong with it if there is none. -/
def takeListEnd : JsonReader (Option JsonError) := do
  let b ← peekPastBlanks
  let place := (← get).placeAhead
  match b with
  | none => return some ⟨.endInList, some place⟩
  | some b =>
    if b == code ']' then
      skip
      return none
    else if b == code ',' then
      skip
      let c ← peekPastBlanks
      let cause := if c == some (code ']') then JsonCause.trailingComma else .trailingCharacters
      return some ⟨cause, some (← get).placeAhead⟩
    else return some ⟨.trailingCharacters, some place⟩

/-- What was read, unless it has a fault or its end is wrong; a fault is placed behind the end. -/
def closed {α : Type} (read : Except JsonCause α) (wrongEnd : Option JsonError) : JsonReader α :=
  match read, wrongEnd with
  | .error cause, _ => fail cause
  | .ok _, some e => throw e
  | .ok a, none => pure a

/-- Takes a record. -/
def expectRecord (form : RecordForm) : JsonReader FieldValues := do
  match ← peekPastBlanks with
  | none => failAhead .endInValue
  | some b =>
    if b == code '[' then
      skip
      let read ← takeItems form [] true form.fields
      closed read (← takeListEnd)
    else if b == code '\x7b' then
      skip
      let read ← takeMembers form ((← get).rest.length + 1) [] true
      closed read (← takeObjectEnd)
    else failType form.name

/-- Takes the records of a list; every record reads a byte. -/
def takeRecords (form : RecordForm) (fuel : Nat) (read : List FieldValues) :
    JsonReader (List FieldValues) :=
  match fuel with
  | 0 => pure read.reverse
  | fuel + 1 => do
    if ← atItem read.isEmpty then
      let record ← expectRecord form
      takeRecords form fuel (record :: read)
    else return read.reverse

/-- Takes a list of records. -/
def expectRecords (form : RecordForm) : JsonReader (List FieldValues) := do
  match ← peekPastBlanks with
  | none => failAhead .endInValue
  | some b =>
    if b == code '[' then
      skip
      let records ← takeRecords form ((← get).rest.length + 1) []
      closed (.ok records) (← takeListEnd)
    else failType "a sequence"

end JsonReader

namespace RecordForm

/-- The value of a field. -/
def fieldOfValue : FieldForm → JsonValue → Except JsonCause String
  | .text, .string s => .ok s
  | .text, v => .error (.invalidType v "a string")
  | .choice names, .string s => if names.contains s then .ok s else .error (.unknownVariant s names)
  | .choice names, .object [(s, v)] =>
    if !names.contains s then .error (.unknownVariant s names)
    else match v with
      | .null => .ok s
      | v => .error (.invalidType v "unit")
  | .choice _, .object members => .error (.invalidValue (.object members) "map with a single key")
  | .choice _, v => .error (.invalidType v "string or map")

/-- The values of the fields in the order of the members. -/
def ofMembers (form : RecordForm) : List (String × JsonValue) → Except JsonCause FieldValues
  | [] => .ok []
  | (key, v) :: rest =>
    match form.fields.lookup key with
    | none => form.ofMembers rest
    | some field => do
      let s ← fieldOfValue field v
      let more ← form.ofMembers rest
      pure ((key, s) :: more)

/-- The values of the fields in their order; how many items there are matters only behind them. -/
def ofItems (form : RecordForm) (size : Nat) :
    List (String × FieldForm) → List JsonValue → Except JsonCause FieldValues
  | [], [] => .ok []
  | [], _ :: _ => .error (.invalidLength size "fewer elements in array")
  | _ :: _, [] =>
    if form.required then .error (.invalidLength size form.lengthText) else .ok []
  | (key, field) :: fields, v :: rest => do
    let s ← fieldOfValue field v
    let more ← form.ofItems size fields rest
    pure ((key, s) :: more)

/-- The fields of a value that is a record. -/
def ofValue (form : RecordForm) : JsonValue → Except JsonCause FieldValues
  | .object members => do form.complete (← form.ofMembers members)
  | .array items => form.ofItems items.length form.fields items
  | v => .error (.invalidType v form.name)

end RecordForm
end UiSkeleton
