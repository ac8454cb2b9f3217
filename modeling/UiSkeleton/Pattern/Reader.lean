/-
Reading patterns. The text is first cut into tokens (a class, a condition, a parenthesis, a bar, a
repetition), and the tokens are then assembled over a stack of open groups. Flags only say which
class or condition is meant, so they are gone from the tokens: whatever spelling a pattern has, it
is assembled from tokens. Classes named by a property of characters, spaced patterns with comments
and names of groups beyond ASCII are refused.
-/
import UiSkeleton.Pattern.Basic

namespace UiSkeleton.Pattern

/-- Why a text is no pattern. -/
inductive ReadError where
  | unclosedGroup
  | unopenedGroup
  | unknownGroupKind
  | repeatedGroupName
  | unclosedClass
  | badRange
  | badEscape
  | nothingToRepeat
  | badCount
  | badFlags
  /-- The class, the flag or the name of a group is not supported. -/
  | unsupported
  deriving DecidableEq, Repr

/-- The parts of a pattern's text. -/
inductive Token where
  | atom (charClass : CharClass)
  | edge (condition : Edge)
  /-- An opening parenthesis, of a group without number if `numbered` is false. -/
  | openGroup (numbered : Bool) (name : Option String)
  | closeGroup
  | bar
  | repetition (isLazy : Bool) (least : Nat) (most : Option Nat)
  deriving DecidableEq, Repr

/-- What a backslash and the characters after it stand for. -/
inductive Escaped where
  | char (c : Char)
  | charClass (charClass : CharClass)
  | edge (condition : Edge)

/-- What the flags of a pattern say of the parts after them. -/
structure Flags where
  /-- Case makes no difference. -/
  ignoresCase : Bool := false
  /-- Lines have starts and ends. -/
  byLine : Bool := false
  /-- A full stop stands for the ends of lines too. -/
  dotsAll : Bool := false
  /-- A carriage return ends a line too. -/
  returnsEndLines : Bool := false
  /-- A repetition is lazy unless it is marked as such. -/
  swapsLazy : Bool := false
  /-- Classes have ASCII characters only. -/
  ascii : Bool := false

namespace Flags

/-- The flags with one more set or unset. -/
def set (flags : Flags) (letter : Char) (on : Bool) : Except ReadError Flags :=
  match letter with
  | 'i' => .ok { flags with ignoresCase := on }
  | 'm' => .ok { flags with byLine := on }
  | 's' => .ok { flags with dotsAll := on }
  | 'R' => .ok { flags with returnsEndLines := on }
  | 'U' => .ok { flags with swapsLazy := on }
  | 'u' => .ok { flags with ascii := !on }
  | 'x' => if on then .error .unsupported else .ok flags
  | _ => .error .badFlags

/-- The class and, where case makes no difference, all its characters in other case. -/
def fold (flags : Flags) (charClass : CharClass) : CharClass :=
  if flags.ignoresCase then .folded flags.ascii charClass else charClass

/-- The class or, if it is negated, all other characters. Of ASCII characters there are no
others. -/
def negate (flags : Flags) (isNegated : Bool) (charClass : CharClass) : Except ReadError CharClass :=
  match isNegated, flags.ascii with
  | false, _ => .ok charClass
  | true, false => .ok (.complement charClass)
  | true, true => .error .badRange

/-- A named class, which has fewer characters if they are ASCII. -/
def named (flags : Flags) (isNegated : Bool) (full ascii : CharClass) : Except ReadError CharClass :=
  flags.negate isNegated (if flags.ascii then ascii else full)

/-- What a full stop stands for. -/
def dot (flags : Flags) : Except ReadError CharClass :=
  flags.negate true <|
    if flags.dotsAll then .none
    else if flags.returnsEndLines then .union (.single '\r') (.single '\n')
    else .single '\n'

/-- The condition on the words around a place. -/
def wordEdge (flags : Flags) (condition : Edge) : Edge :=
  if flags.ascii then .ascii condition else condition

/-- The condition that a circumflex stands for. -/
def startEdge (flags : Flags) : Edge :=
  if !flags.byLine then .start else if flags.returnsEndLines then .returnedLineStart else .lineStart

/-- The condition that a dollar sign stands for. -/
def stopEdge (flags : Flags) : Edge :=
  if !flags.byLine then .stop else if flags.returnsEndLines then .returnedLineStop else .lineStop

end Flags

/-- The character with a number, if there is one. -/
def charOf? (n : Nat) : Option Char :=
  if h : n.isValidChar then some (Char.ofNatAux n h) else none

/-- The number written by digits of base sixteen; `none` without digits or with anything else. -/
def hexNumber? (digits : List Char) : Option Nat :=
  if !digits.isEmpty && digits.all Text.isHexDigit then
    some (digits.foldl (fun n d => 16 * n + Text.hexValue d) 0)
  else none

/-- A character written by its number: in braces, or by exactly `width` digits. -/
def readNumbered (width : Nat) (cs : List Char) : Except ReadError (Char × List Char) :=
  let (digits, rest) :=
    match cs with
    | '\x7b' :: r => (r.takeWhile (· != '\x7d'), (r.dropWhile (· != '\x7d')).drop 1)
    | _ => (cs.take width, cs.drop width)
  let closed := cs.head? != some '\x7b' || cs.contains '\x7d'
  let complete := cs.head? == some '\x7b' || digits.length == width
  match (hexNumber? digits).bind charOf? with
  | some c => if closed && complete then .ok (c, rest) else .error .badEscape
  | none => .error .badEscape

/-- ASCII characters that stand for themselves after a backslash. -/
def isEscapable (c : Char) : Bool :=
  c.toNat < 0x80 && !c.isAlphanum && c != '<' && c != '>'

/-- The conditions on words that have a name. -/
def wordEdges : List (String × Edge) :=
  [("start", .wordStart), ("end", .wordStop), ("start-half", .wordStartHalf), ("end-half", .wordStopHalf)]

/-- Reads what follows `\b`: the name of a condition in braces, unless the braces count
repetitions. -/
def readWordEdge (cs : List Char) : Except ReadError (Edge × List Char) :=
  let inName := fun c : Char => c.isAlpha || c == '-'
  match cs with
  | '\x7b' :: c :: r =>
    if inName c then
      match wordEdges.lookup (String.ofList ((c :: r).takeWhile inName)), (c :: r).dropWhile inName with
      | some condition, '\x7d' :: rest => .ok (condition, rest)
      | _, _ => .error .badEscape
    else .ok (.word, cs)
  | ['\x7b'] => .error .badEscape
  | cs => .ok (.word, cs)

/-- Reads what follows a backslash. -/
def readEscape (flags : Flags) : List Char → Except ReadError (Escaped × List Char)
  | [] => .error .badEscape
  | c :: r =>
    let named (full ascii : CharClass) (isNegated : Bool) : Except ReadError (Escaped × List Char) :=
      (flags.named isNegated full ascii).map fun charClass => (.charClass charClass, r)
    let wordEdge (condition : Edge) := Escaped.edge (flags.wordEdge condition)
    match c with
    | 'd' => named .decimal .asciiDigit false
    | 'D' => named .decimal .asciiDigit true
    | 's' => named .blank .asciiBlank false
    | 'S' => named .blank .asciiBlank true
    | 'w' => named .word .asciiWord false
    | 'W' => named .word .asciiWord true
    | 'b' => (readWordEdge r).map fun (condition, r) => (wordEdge condition, r)
    | 'B' => .ok (wordEdge .inside, r)
    | '<' => .ok (wordEdge .wordStart, r)
    | '>' => .ok (wordEdge .wordStop, r)
    | 'A' => .ok (.edge .start, r)
    | 'z' => .ok (.edge .stop, r)
    | 'n' => .ok (.char '\n', r)
    | 't' => .ok (.char '\t', r)
    | 'r' => .ok (.char '\r', r)
    | 'f' => .ok (.char '\x0c', r)
    | 'v' => .ok (.char '\x0b', r)
    | 'a' => .ok (.char '\x07', r)
    | 'x' => do
      let (c, rest) ← readNumbered 2 r
      -- two digits are a byte where characters are ASCII
      if flags.ascii && r.head? != some '\x7b' && 0x80 ≤ c.toNat then .error .badEscape
      else pure (.char c, rest)
    | 'u' => (readNumbered 4 r).map fun (c, r) => (.char c, r)
    | 'U' => (readNumbered 8 r).map fun (c, r) => (.char c, r)
    | 'p' | 'P' => .error .unsupported
    | c => if isEscapable c then .ok (.char c, r) else .error .badEscape

/-- The classes of ASCII characters that have a name between colons. -/
def namedClasses : List (String × CharClass) :=
  [("alnum", .asciiAlnum), ("alpha", .asciiAlpha), ("ascii", .range '\x00' '\x7f'),
    ("blank", .union (.single '\t') (.single ' ')), ("cntrl", .union (.range '\x00' '\x1f') (.single '\x7f')),
    ("digit", .asciiDigit), ("graph", .range '!' '~'), ("lower", .range 'a' 'z'), ("print", .range ' ' '~'),
    ("punct", .difference (.range '!' '~') .asciiAlnum), ("space", .asciiBlank), ("upper", .range 'A' 'Z'),
    ("word", .asciiWord), ("xdigit", .union .asciiDigit (.union (.range 'A' 'F') (.range 'a' 'f')))]

/-- A class by its name between colons, whether it is negated, and what is left, from behind a
bracket. -/
def readNamedClass? : List Char → Option (Bool × CharClass × List Char)
  | ':' :: r =>
    let isNegated := r.head? == some '^'
    let r := if isNegated then r.drop 1 else r
    match namedClasses.lookup (String.ofList (r.takeWhile (· != ':'))), r.dropWhile (· != ':') with
    | some charClass, ':' :: ']' :: rest => some (isNegated, charClass, rest)
    | _, _ => none
  | _ => none

/-- One element of a class in brackets; conditions have no place there. -/
def readClassItem (flags : Flags) : List Char → Except ReadError (Escaped × List Char)
  | [] => .error .unclosedClass
  | c :: r => do
    let (escaped, rest) ← if c = '\\' then readEscape flags r else pure (.char c, r)
    match escaped with
    | .edge _ => .error .badEscape
    | .char c => if flags.ascii && 0x80 ≤ c.toNat then .error .badRange else pure (escaped, rest)
    | .charClass _ => pure (escaped, rest)

/-- The class of one element. -/
def Escaped.toClass : Escaped → CharClass
  | .char c => .single c
  | .charClass named => named
  | .edge _ => .none

/-- What two classes in brackets are joined to by a doubled sign between them. -/
inductive SetOperation where
  | intersection
  | difference
  | symmetricDifference

/-- The class that the operation makes of two. -/
def SetOperation.apply : SetOperation → CharClass → CharClass → CharClass
  | .intersection, left, right => left.intersection right
  | .difference, left, right => left.difference right
  | .symmetricDifference, left, right => .union (left.difference right) (right.difference left)

/-- How far a class in brackets was read: the operation that waits for its right side, and the union
of the elements since, if there are any. -/
structure OpenClass where
  waiting : Option (CharClass × SetOperation) := none
  union : Option CharClass := none

namespace OpenClass

/-- The open class with one more element. -/
def add (s : OpenClass) (charClass : CharClass) : OpenClass :=
  { s with union := some (match s.union with
    | none => charClass
    | some before => .union before charClass) }

/-- The class as far as it was read. -/
def toClass (s : OpenClass) (flags : Flags) : CharClass :=
  let right := s.union.getD .none
  match s.waiting with
  | none => right
  | some (left, operation) => operation.apply (flags.fold left) (flags.fold right)

/-- The open class behind an operation. -/
def behind (s : OpenClass) (flags : Flags) (operation : SetOperation) : OpenClass :=
  { waiting := some (s.toClass flags, operation) }

end OpenClass

mutual

/-- Reads a class from behind its opening bracket; `fuel` bounds the characters read. -/
def readClass (fuel : Nat) (flags : Flags) (cs : List Char) : Except ReadError (CharClass × List Char) :=
  match fuel with
  | 0 => .error .unclosedClass
  | fuel + 1 => do
    let (isNegated, cs) := match cs with
      | '^' :: r => (true, r)
      | _ => (false, cs)
    let dashes := (cs.takeWhile (· == '-')).length
    let cs := cs.drop dashes
    let read : OpenClass := if dashes = 0 then {} else { union := some (.single '-') }
    let (read, cs) := match read.union, cs with
      | none, ']' :: r => (read.add (.single ']'), r)
      | _, _ => (read, cs)
    let (charClass, rest) ← readClassItems fuel flags read cs
    pure (← flags.negate isNegated (flags.fold charClass), rest)

/-- Reads the elements of a class up to its closing bracket. -/
def readClassItems (fuel : Nat) (flags : Flags) (read : OpenClass) (cs : List Char) :
    Except ReadError (CharClass × List Char) :=
  match fuel with
  | 0 => .error .unclosedClass
  | fuel + 1 =>
    match cs with
    | ']' :: r => .ok (read.toClass flags, r)
    | '[' :: r => do
      let (charClass, rest) ← match readNamedClass? r with
        | some (isNegated, charClass, rest) => (flags.negate isNegated (flags.fold charClass)).map (·, rest)
        | none => readClass fuel flags r
      readClassItems fuel flags (read.add charClass) rest
    | '&' :: '&' :: r => readClassItems fuel flags (read.behind flags .intersection) r
    | '-' :: '-' :: r => readClassItems fuel flags (read.behind flags .difference) r
    | '~' :: '~' :: r => readClassItems fuel flags (read.behind flags .symmetricDifference) r
    | cs => do
      let (first, rest) ← readClassItem flags cs
      match rest with
      | '-' :: ']' :: _ => readClassItems fuel flags (read.add first.toClass) rest
      | '-' :: '-' :: _ => readClassItems fuel flags (read.add first.toClass) rest
      | '-' :: r =>
        let (last, rest) ← readClassItem flags r
        match first, last with
        | .char a, .char b =>
          if a ≤ b then readClassItems fuel flags (read.add (.range a b)) rest else .error .badRange
        | _, _ => .error .badRange
      | _ => readClassItems fuel flags (read.add first.toClass) rest

end

/-- Whether an ASCII character may stand in the name of a group, first or later. -/
def isGroupNameChar (first : Bool) (c : Char) : Bool :=
  c == '_' || c.isAlpha || (!first && (c.isDigit || c == '.' || c == '[' || c == ']'))

/-- Reads the name of a group from behind the opening angle bracket. -/
def readGroupName (cs : List Char) : Except ReadError (Token × List Char) :=
  match cs.takeWhile (· != '>'), cs.dropWhile (· != '>') with
  | c :: name, _ :: rest =>
    if isGroupNameChar true c && name.all (isGroupNameChar false) then
      .ok (.openGroup true (some (String.ofList (c :: name))), rest)
    else if (c :: name).any (0x80 ≤ ·.toNat) then .error .unsupported
    else .error .unknownGroupKind
  | _, _ => .error .unknownGroupKind

/-- Reads flags up to a colon or a closing parenthesis. The letters `seen` before are set already,
or unset behind a dash; none comes twice, and a dash stands before a letter. -/
def readFlags (flags : Flags) (seen : List Char) : List Char → Except ReadError (Flags × List Char)
  | [] => .error .unclosedGroup
  | c :: r =>
    if c = ':' ∨ c = ')' then
      if seen.head? = some '-' then .error .badFlags else .ok (flags, c :: r)
    else if c ∈ seen then .error .badFlags
    else if c = '-' then readFlags flags (c :: seen) r
    else do readFlags (← flags.set c ('-' ∉ seen)) (c :: seen) r

/-- Whether a repetition comes next. -/
def startsRepetition (cs : List Char) : Bool :=
  cs.head?.any fun c => c == '*' || c == '+' || c == '?' || c == '\x7b'

/-- Reads what follows an opening parenthesis: a token and the flags inside the group or, if no
group is opened, the flags from here on. -/
def readOpenGroup (flags : Flags) : List Char → Except ReadError (Option Token × Flags × List Char)
  | '?' :: 'P' :: '<' :: r => (readGroupName r).map fun (token, rest) => (some token, flags, rest)
  | '?' :: '<' :: r => (readGroupName r).map fun (token, rest) => (some token, flags, rest)
  | '?' :: r => do
    match ← readFlags flags [] r with
    | (flags, ':' :: rest) => pure (some (.openGroup false none), flags, rest)
    | (flags, rest) =>
      let rest := rest.drop 1
      if r.head? = some ')' || startsRepetition rest then .error .nothingToRepeat
      else pure (none, flags, rest)
  | cs => .ok (some (.openGroup true none), flags, cs)

/-- Whether a repetition is lazy by a question mark after it, and what is left. -/
def readLazy (flags : Flags) : List Char → Bool × List Char
  | '?' :: r => (!flags.swapsLazy, r)
  | cs => (flags.swapsLazy, cs)

/-- Reads a number of 32 bits with blanks around it. -/
def readCount (cs : List Char) : Except ReadError (Nat × List Char) :=
  let cs := Text.trimStart cs
  let digits := cs.takeWhile Char.isDigit
  let count := digits.foldl (fun n d => 10 * n + (d.toNat - 48)) 0
  if digits.isEmpty || Nat.pow 2 32 ≤ count then .error .badCount
  else .ok (count, Text.trimStart (cs.drop digits.length))

/-- Reads a repetition from behind its opening brace. -/
def readCounted (flags : Flags) (cs : List Char) : Except ReadError (Token × List Char) := do
  let (least, rest) ← readCount cs
  let (most, rest) ← match rest with
    | ',' :: '\x7d' :: _ => pure (none, rest.drop 1)
    | ',' :: r => (readCount r).map fun (most, rest) => (some most, rest)
    | _ => pure (some least, rest)
  match rest with
  | '\x7d' :: r =>
    let (isLazy, r) := readLazy flags r
    if most.all (least ≤ ·) then .ok (.repetition isLazy least most, r) else .error .badCount
  | _ => .error .badCount

/-- Reads one token that is no parenthesis; the text is not empty. -/
def readToken (flags : Flags) (c : Char) (r : List Char) : Except ReadError (Token × List Char) :=
  let repetition (least : Nat) (most : Option Nat) :=
    let (isLazy, rest) := readLazy flags r
    .ok (Token.repetition isLazy least most, rest)
  match c with
  | '|' => .ok (.bar, r)
  | '[' => (readClass (r.length + 1) flags r).map fun (charClass, rest) => (.atom charClass, rest)
  | '*' => repetition 0 none
  | '+' => repetition 1 none
  | '?' => repetition 0 (some 1)
  | '\x7b' => readCounted flags r
  | '.' => flags.dot.map fun charClass => (.atom charClass, r)
  | '^' => .ok (.edge flags.startEdge, r)
  | '$' => .ok (.edge flags.stopEdge, r)
  | '\\' => (readEscape flags r).map fun (escaped, rest) =>
    match escaped with
    | .char c => (.atom (flags.fold (.single c)), rest)
    | .charClass charClass => (.atom charClass, rest)
    | .edge condition => (.edge condition, rest)
  | c => .ok (.atom (flags.fold (.single c)), r)

/-- The tokens of a text, read with the flags of the group at hand and, behind it, those of the
groups around it; every token reads a character, so the length of the text is enough `fuel`. -/
def readTokens (fuel : Nat) (flags : Flags) (around : List Flags) (cs : List Char) :
    Except ReadError (List Token) :=
  match fuel, cs with
  | _, [] => .ok []
  | 0, _ => .ok []
  | fuel + 1, '(' :: r => do
    match ← readOpenGroup flags r with
    | (none, flags, rest) => readTokens fuel flags around rest
    | (some token, inside, rest) => pure (token :: (← readTokens fuel inside (flags :: around) rest))
  | fuel + 1, ')' :: r => do
    pure (.closeGroup :: (← readTokens fuel (around.headD flags) around.tail r))
  | fuel + 1, c :: r => do
    let (token, rest) ← readToken flags c r
    pure (token :: (← readTokens fuel flags around rest))

/-- A group that is not closed yet. -/
structure OpenGroup where
  /-- Its number, if it has one. -/
  index : Option Nat
  /-- Its finished branches, the latest first. -/
  branches : List Pattern
  /-- What was read of the last branch, the latest first. -/
  current : List Pattern
  deriving Repr

namespace OpenGroup

/-- The pattern of the branches. -/
def body (g : OpenGroup) : Pattern := choice ((concat g.current.reverse :: g.branches).reverse)

/-- The pattern of the whole group. -/
def toPattern (g : OpenGroup) : Pattern :=
  match g.index with
  | none => g.body
  | some index => .group index g.body

/-- The group with one more pattern in its last branch. -/
def push (g : OpenGroup) (p : Pattern) : OpenGroup := { g with current := p :: g.current }

end OpenGroup

/-- How far the tokens were read. -/
structure Reading where
  /-- The innermost open group; outermost of all is the whole pattern. -/
  inner : OpenGroup
  /-- The groups around it, the nearest first. -/
  outer : List OpenGroup
  /-- How many groups were numbered. -/
  groupCount : Nat
  /-- The names of groups and their numbers. -/
  names : List (String × Nat)
  deriving Repr

namespace Reading

/-- Before the first token. -/
def start : Reading := ⟨⟨none, [], []⟩, [], 0, []⟩

/-- Takes one token in. -/
def step (s : Reading) : Token → Except ReadError Reading
  | .atom charClass => .ok { s with inner := s.inner.push (.atom charClass) }
  | .edge condition => .ok { s with inner := s.inner.push (.edge condition) }
  | .bar =>
    .ok { s with inner :=
      { s.inner with
        branches := concat s.inner.current.reverse :: s.inner.branches
        current := [] } }
  | .repetition isLazy least most =>
    match s.inner.current with
    | [] => .error .nothingToRepeat
    | p :: ps =>
      .ok { s with inner := { s.inner with current := repeated isLazy least most p :: ps } }
  | .openGroup false _ =>
    .ok { s with inner := ⟨none, [], []⟩, outer := s.inner :: s.outer }
  | .openGroup true name =>
    let index := s.groupCount + 1
    let opened :=
      { s with inner := ⟨some index, [], []⟩, outer := s.inner :: s.outer, groupCount := index }
    match name with
    | none => .ok opened
    | some name =>
      if (s.names.lookup name).isSome then .error .repeatedGroupName
      else .ok { opened with names := (name, index) :: s.names }
  | .closeGroup =>
    match s.outer with
    | [] => .error .unopenedGroup
    | around :: more => .ok { s with inner := around.push s.inner.toPattern, outer := more }

end Reading

/-- A pattern that was read, with the names of its groups. -/
structure Read where
  pattern : Pattern
  names : List (String × Nat)
  deriving DecidableEq, Repr

/-- The pattern that tokens are the parts of. -/
def assemble (tokens : List Token) : Except ReadError Read := do
  let s ← tokens.foldlM Reading.step Reading.start
  match s.outer with
  | [] => pure ⟨s.inner.toPattern.marked, s.names⟩
  | _ :: _ => .error .unclosedGroup

/-- Reads a pattern. -/
def read (text : List Char) : Except ReadError Read := do assemble (← readTokens text.length {} [] text)

end UiSkeleton.Pattern
