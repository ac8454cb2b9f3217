/-
Reading JSON from bytes, with the place of every error. A text that is read as it streams in has
taken a byte when it looked at it, so an error there counts that byte; in a text at hand an error
counts the byte ahead only where that byte is the fault.
-/
import UiSkeleton.Json.Error
import UiSkeleton.Text.Utf8

namespace UiSkeleton

/-- How far a text was read. -/
structure JsonScan where
  /-- The bytes that are left. -/
  rest : List UInt8
  /-- The line of the last byte read, from one. -/
  line : Nat
  /-- How many bytes of that line were read. -/
  column : Nat
  /-- Whether the text streams in. -/
  streamed : Bool
  /-- Whether the next byte was looked at. -/
  looked : Bool
  deriving Repr

/-- A step that reads: it goes on from a state, or fails with an error. -/
abbrev JsonReader := StateT JsonScan (Except JsonError)

namespace JsonScan

/-- Before the first byte. -/
def start (streamed : Bool) (bytes : List UInt8) : JsonScan := ⟨bytes, 1, 0, streamed, false⟩

/-- The state after the next byte. -/
def next (s : JsonScan) : JsonScan :=
  match s.rest with
  | [] => s
  | b :: r =>
    if b = 10 then { s with rest := r, line := s.line + 1, column := 0, looked := false }
    else { s with rest := r, column := s.column + 1, looked := false }

/-- The place of the last byte read. -/
def here (s : JsonScan) : Nat × Nat := (s.line, s.column)

/-- The place of an error at what was read. -/
def place (s : JsonScan) : Nat × Nat := if s.streamed && s.looked then s.next.here else s.here

/-- The place of an error at the next byte. -/
def placeAhead (s : JsonScan) : Nat × Nat := if s.streamed then s.place else s.next.here

end JsonScan

namespace JsonReader

/-- Fails at what was read. -/
def fail {α : Type} (cause : JsonCause) : JsonReader α := fun s => .error ⟨cause, some s.place⟩

/-- Fails at the next byte. -/
def failAhead {α : Type} (cause : JsonCause) : JsonReader α :=
  fun s => .error ⟨cause, some s.placeAhead⟩

/-- Looks at the next byte. -/
def peek : JsonReader (Option UInt8) := fun s =>
  .ok (s.rest.head?, { s with looked := !s.rest.isEmpty })

/-- Skips a byte that was looked at. -/
def skip : JsonReader Unit := fun s => .ok ((), s.next)

/-- Takes the next byte. -/
def take : JsonReader (Option UInt8) := fun s => .ok (s.rest.head?, s.next)

/-- Takes the next byte of a string. -/
def takeInString : JsonReader UInt8 := do
  match ← take with
  | some b => pure b
  | none => fail .endInString

/-- Whether a byte is a blank between the parts of a text. -/
def isBlankByte (b : UInt8) : Bool := b == 32 || b == 10 || b == 9 || b == 13

/-- Skips blanks and looks at the byte behind them. -/
def peekPastBlanks : JsonReader (Option UInt8) := fun s =>
  peek ((s.rest.takeWhile isBlankByte).foldl (fun s _ => s.next) s)

/-- The code of an ASCII character. -/
def code (c : Char) : UInt8 := c.toNat.toUInt8

/-- Whether a byte is an ASCII digit. -/
def isDigitByte (b : UInt8) : Bool := 48 ≤ b && b < 58

/-- Looks at the next byte; zero stands for the end. -/
def peekOrZero : JsonReader UInt8 := do return (← peek).getD 0

/-- Takes digits as long as there are any, and returns them. -/
def takeDigits : JsonReader (List UInt8) := do
  let digits := (← get).rest.takeWhile isDigitByte
  modify fun s => digits.foldl (fun s _ => s.next) s
  let _ ← peek
  return digits

/-- Takes the letters of a word of which the first one was taken. -/
def takeWord : List Char → JsonReader Unit
  | [] => pure ()
  | c :: word => do
    match ← take with
    | none => fail .endInValue
    | some b => if b == code c then takeWord word else fail .expectedIdent

/-- Takes four digits of base sixteen. -/
def takeHexEscape : JsonReader Nat := do
  let a ← takeInString
  let b ← takeInString
  let c ← takeInString
  let d ← takeInString
  let digits := [a, b, c, d].map fun b => Char.ofNat b.toNat
  if digits.all Text.isHexDigit then
    return digits.foldl (fun n d => 16 * n + Text.hexValue d) 0
  else fail .invalidEscape

/-- The bytes of the character with a code point. -/
def utf8 (n : Nat) : List UInt8 := String.utf8EncodeChar (Char.ofNat n)

/-- Takes a character written by its number; two numbers, if the first one is half of a pair. -/
def takeUnicodeEscape : JsonReader (List UInt8) := do
  let n ← takeHexEscape
  if 0xdc00 ≤ n && n ≤ 0xdfff then fail .loneSurrogate
  else if n < 0xd800 || 0xdbff < n then return utf8 n
  else
    if (← takeInString) != code '\\' then fail .endOfHexEscape
    if (← takeInString) != code 'u' then fail .endOfHexEscape
    let m ← takeHexEscape
    if m < 0xdc00 || 0xdfff < m then fail .loneSurrogate
    return utf8 ((n - 0xd800) * 0x400 + (m - 0xdc00) + 0x10000)

/-- Takes what follows a backslash. -/
def takeEscape : JsonReader (List UInt8) := do
  let b ← takeInString
  match Char.ofNat b.toNat with
  | '"' => return [b]
  | '\\' => return [b]
  | '/' => return [b]
  | 'b' => return [8]
  | 'f' => return [12]
  | 'n' => return [10]
  | 'r' => return [13]
  | 't' => return [9]
  | 'u' => takeUnicodeEscape
  | _ => fail .invalidEscape

/-- Takes what follows a backslash without looking at what it stands for. -/
def passEscape : JsonReader (List UInt8) := do
  let b ← takeInString
  match Char.ofNat b.toNat with
  | 'u' => do
    let _ ← takeHexEscape
    return []
  | c => if "\"\\/bfnrt".toList.contains c then return [] else fail .invalidEscape

/-- Takes a string up to its closing quote, with the bytes read so far, the last one first. Every
byte read counts against `fuel`. -/
def takeStringBytes (escape : JsonReader (List UInt8)) (fuel : Nat) (read : List UInt8) :
    JsonReader (List UInt8) :=
  match fuel with
  | 0 => fail .endInString
  | fuel + 1 => do
    let b ← takeInString
    if b == code '"' then return read.reverse
    else if b == code '\\' then
      let bytes ← escape
      takeStringBytes escape fuel (bytes.reverse ++ read)
    else if b < 32 then fail .controlCharacter
    else takeStringBytes escape fuel (b :: read)

/-- Takes a string from behind its opening quote. -/
def takeString : JsonReader String := do
  let bytes ← takeStringBytes takeEscape ((← get).rest.length + 1) []
  match Text.decodeUtf8 0 bytes with
  | .ok cs => return String.ofList cs
  | .error done =>
    let s ← get
    throw ⟨.invalidCodePoint, some (s.line, s.column - (bytes.length - done))⟩

/-- Passes over a string from behind its opening quote. -/
def passString : JsonReader Unit := do
  let _ ← takeStringBytes passEscape ((← get).rest.length + 1) []

/-- The number that a row of digits stands for. -/
def digitsValue (digits : List UInt8) : Nat :=
  digits.foldl (fun n b => 10 * n + (b.toNat - 48)) 0

/-- Ten to a power within the range of the finite numbers. -/
def powerOfTen (n : Nat) : Binary64 := .nearest false (Nat.pow 10 n) 1

/-- A significand times a power of ten, in steps of at most 308; `none` if it is too large. -/
def scaled? (x : Binary64) (exponent : Int) : Nat → Option Binary64
  | 0 => some x
  | fuel + 1 =>
    if exponent.natAbs ≤ 308 then
      if 0 ≤ exponent then
        match x.mul (powerOfTen exponent.toNat) with
        | .infinite _ => none
        | y => some y
      else some (x.div (powerOfTen exponent.natAbs))
    else
      match x with
      | .finite _ 0 _ => some x
      | _ => if 0 ≤ exponent then none else scaled? (x.div (powerOfTen 308)) (exponent + 308) fuel

/-- The digits of a significand that fit into 64 bits, and how many were left out. -/
def fitting (digits : List UInt8) : Nat → Nat × Nat
  | 0 => (digitsValue digits, 0)
  | fuel + 1 =>
    if digitsValue digits < Nat.pow 2 64 then (digitsValue digits, 0)
    else
      let (n, left) := fitting digits.dropLast fuel
      (n, left + 1)

/-- Takes the exponent of a number, if there is one, and returns the number. -/
def takeExponent (negative : Bool) (digits : List UInt8) (places : Nat) :
    JsonReader JsonNumber := do
  let (significand, left) := fitting digits digits.length
  let finish (exponent : Int) : JsonReader JsonNumber :=
    match scaled? (.nearest negative significand 1) (exponent - places + left) 400 with
    | some x => return .float x
    | none => fail .numberOutOfRange
  let b ← peekOrZero
  if b == code 'e' || b == code 'E' then
    skip
    let sign ← peekOrZero
    if sign == code '+' || sign == code '-' then skip
    match ← take with
    | none => fail .endInValue
    | some first =>
      if !isDigitByte first then fail .invalidNumber
      let more ← takeDigits
      let exponent : Int := min (digitsValue (first :: more)) 100000
      finish (if sign == code '-' then -exponent else exponent)
  else finish 0

/-- Takes a number from behind its sign. -/
def takeNumber (negative : Bool) : JsonReader JsonNumber := do
  match ← take with
  | none => fail .endInValue
  | some first =>
    if !isDigitByte first then fail .invalidNumber
    let whole ←
      if first == code '0' then
        if isDigitByte (← peekOrZero) then failAhead .invalidNumber
        pure [first]
      else pure (first :: (← takeDigits))
    let b ← peekOrZero
    if b == code '.' then
      skip
      let fraction ← takeDigits
      if fraction.isEmpty then
        failAhead (if (← get).rest.isEmpty then .endInValue else .invalidNumber)
      takeExponent negative (whole ++ fraction) fraction.length
    else if b == code 'e' || b == code 'E' then takeExponent negative whole 0
    else
      let n := digitsValue whole
      if Nat.pow 2 64 ≤ n then takeExponent negative whole 0
      else if !negative then return .int n
      else if 0 < n && n ≤ Nat.pow 2 63 then return .int (-n)
      else return .float (.nearest true n 1)

/-- Passes over a number from behind its sign. -/
def passNumber : JsonReader Unit := do
  let first := (← take).getD 0
  if !isDigitByte first then fail .invalidNumber
  if first == code '0' then
    if isDigitByte (← peekOrZero) then failAhead .invalidNumber
  else
    let _ ← takeDigits
  if (← peekOrZero) == code '.' then
    skip
    if (← takeDigits).isEmpty then failAhead .invalidNumber
  let b ← peekOrZero
  if b == code 'e' || b == code 'E' then
    skip
    let sign ← peekOrZero
    if sign == code '+' || sign == code '-' then skip
    if !isDigitByte ((← take).getD 0) then fail .invalidNumber
    let _ ← takeDigits

/-- Reads the value that starts with the next byte as far as messages need it. A list and an object
are not entered. -/
def peekValue : JsonReader JsonValue := do
  let b ← peekOrZero
  match Char.ofNat b.toNat with
  | 'n' => skip; takeWord "ull".toList; return .null
  | 't' => skip; takeWord "rue".toList; return .bool true
  | 'f' => skip; takeWord "alse".toList; return .bool false
  | '-' => skip; return .number (← takeNumber true)
  | '"' => skip; return .string (← takeString)
  | '[' => return .array []
  | '\x7b' => return .object []
  | _ => if isDigitByte b then return .number (← takeNumber false) else failAhead .expectedValue

/-- Fails because the next value is of another kind than expected. -/
def failType {α : Type} (expected : String) : JsonReader α := do
  let found ← peekValue
  fail (.invalidType found expected)

/-- Passes over a value that has no parts, from its first byte on. -/
def passScalar (b : UInt8) : JsonReader Unit := do
  match Char.ofNat b.toNat with
  | 'n' => skip; takeWord "ull".toList
  | 't' => skip; takeWord "rue".toList
  | 'f' => skip; takeWord "alse".toList
  | '-' => skip; passNumber
  | '"' => skip; passString
  | _ => if isDigitByte b then passNumber else failAhead .expectedValue

/-- Passes over the key of a member and the colon behind it. -/
def passKey : JsonReader Unit := do
  match ← peekPastBlanks with
  | none => failAhead .endInObject
  | some b => if b == code '"' then skip else failAhead .keyNotString
  passString
  match ← peekPastBlanks with
  | none => failAhead .endInObject
  | some b => if b == code ':' then skip else failAhead .expectedColon

/-- Passes over the end of lists and objects up to the next value in one of them. The lists (`true`)
and objects around, the nearest first, are left; `inside` says that a value came before. -/
def passEnds (fuel : Nat) (inside : Bool) (around : List Bool) : JsonReader (List Bool) :=
  match fuel, around with
  | 0, _ => pure []
  | _, [] => pure []
  | fuel + 1, isList :: outer => do
    match ← peekPastBlanks with
    | none => failAhead (if isList then .endInList else .endInObject)
    | some b =>
      if b == code ',' && inside then
        skip
        return around
      else if b == code (if isList then ']' else '\x7d') then
        skip
        passEnds fuel true outer
      else if inside then
        failAhead (if isList then .expectedListCommaOrEnd else .expectedObjectCommaOrEnd)
      else return around

/-- Passes over values until no list or object is open; every value reads a byte. -/
def passValues (fuel : Nat) (around : List Bool) : JsonReader Unit :=
  match fuel with
  | 0 => pure ()
  | fuel + 1 => do
    match ← peekPastBlanks with
    | none => failAhead .endInValue
    | some b =>
      let opens := b == code '[' || b == code '\x7b'
      if opens then skip else passScalar b
      let around := if opens then (b == code '[') :: around else around
      let around ← passEnds ((← get).rest.length + 1) (!opens) around
      match around with
      | [] => pure ()
      | true :: _ => passValues fuel around
      | false :: _ =>
        passKey
        passValues fuel around

/-- Passes over a value. -/
def passValue : JsonReader Unit := do passValues ((← get).rest.length + 1) []

/-- Makes sure that nothing but blanks follows. -/
def finish : JsonReader Unit := do
  match ← peekPastBlanks with
  | none => pure ()
  | some _ => failAhead .trailingCharacters

/-- The value that a whole text holds. -/
def readAll {α : Type} (streamed : Bool) (reader : JsonReader α) (bytes : List UInt8) :
    Except JsonError α :=
  (do let a ← reader; finish; pure a : JsonReader α).run' (.start streamed bytes)

end JsonReader
end UiSkeleton
