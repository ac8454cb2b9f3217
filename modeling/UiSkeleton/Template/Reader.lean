/-
Reading templates. The text is cut into stretches of text and tags; a block tag or a comment that
stands alone on its line takes the blanks around it and the end of the line away; and the tags are
then put together from the last one back to the first, so that every part is at hand when the tag
that opens it is met.
-/
import UiSkeleton.Template.Basic
import UiSkeleton.Text.Blank

namespace UiSkeleton.Template

/-- The blocks of a template. -/
inductive Block where
  | choose
  | each
  deriving DecidableEq, Repr

/-- The word that a block's tags are written with. -/
def Block.word : Block → List Char
  | .choose => "if".toList
  | .each => "each".toList

/-- What a tag does. -/
inductive Action where
  | value (raw : Bool) (path : List Char)
  | openBlock (block : Block) (path : List Char)
  | otherwise
  | closeBlock (block : Block)
  | comment
  deriving DecidableEq, Repr

/-- A stretch of a template's text. -/
inductive Token where
  /-- Text, without the backslashes that keep braces from being a tag. -/
  | text (cs : List Char)
  /-- A tag, its place, and whether it stands alone on its line. -/
  | tag (action : Action) (line column : Nat) (alone : Bool)
  deriving DecidableEq, Repr

/-- Characters of a name. -/
def isNameChar (c : Char) : Bool :=
  c.isAlphanum || c == '_' || c == '-' || c == '$' || 0x80 ≤ c.toNat

/-- Blanks inside a tag. -/
def isTagBlank (c : Char) : Bool := c == ' ' || c == '\t' || c == '\n' || c == '\r'

/-- Blanks on a line. -/
def isLineBlank (c : Char) : Bool := c == ' ' || c == '\t'

/-- Characters of a path: names with a point or a slash between them. -/
def isPathChar (c : Char) : Bool := isNameChar c || c == '.' || c == '/'

/-- The keys of a path; the current value itself needs none. `none` if a name is missing. -/
def keys? (path : List Char) : Option (List String) :=
  let names := Text.cutWhere (fun c => c == '.' || c == '/') path
  let names := if "./".toList.isPrefixOf path then names.drop 1 else names
  if path.isEmpty then some []
  else if names.any List.isEmpty then none
  else some ((names.map String.ofList).filter (· != "this"))

/-- The text without the blanks of a tag at its ends. -/
def trimTag (cs : List Char) : List Char :=
  ((cs.dropWhile isTagBlank).reverse.dropWhile isTagBlank).reverse

/-- The path that is the whole of a text, up to blanks. -/
def path? (cs : List Char) : Option (List Char) :=
  let path := trimTag cs
  if path.all isPathChar && (keys? path).isSome then some path else none

/-- The block that a text starts with the word of, and the rest of the text. -/
def block? (cs : List Char) : Option (Block × List Char) :=
  let cs := cs.dropWhile isTagBlank
  let word := cs.takeWhile isNameChar
  ([.choose, .each].find? fun block => block.word == word).map fun block =>
    (block, cs.dropWhile isNameChar)

/-- What is before the first occurrence of a stop. -/
def upTo? (stop : List Char) : List Char → Option (List Char)
  | [] => none
  | c :: r => if stop.isPrefixOf (c :: r) then some [] else (upTo? stop r).map (c :: ·)

/-- The two braces that close a tag. -/
def closing : List Char := ['\x7d', '\x7d']

/-- What the text between the braces of a tag does. -/
def action? (cs : List Char) : Option Action :=
  match cs.dropWhile isTagBlank with
  | '&' :: r => (path? r).map (.value true)
  | '!' :: _ => some .comment
  | '#' :: r => do
    let (block, r) ← block? r
    let path ← path? r
    if path.isEmpty || path == "else".toList || path == "as".toList then none
    else pure (.openBlock block path)
  | '/' :: r => do
    let (block, r) ← block? r
    if (trimTag r).isEmpty then pure (.closeBlock block) else none
  | '^' :: r => if (trimTag r).isEmpty then some .otherwise else none
  | r => (path? r).map fun path => if path == "else".toList then .otherwise else .value false path

/-- Reads a tag from behind its two opening braces, and how many characters are left to its end. -/
def readTag (cs : List Char) : Option (Action × Nat) :=
  match cs with
  | '\x7b' :: r => do
    let inside ← upTo? ('\x7d' :: closing) r
    let path ← path? inside
    pure (.value true path, inside.length + 4)
  | '!' :: '-' :: '-' :: r => do
    let inside ← upTo? ("--".toList ++ closing) r
    pure (.comment, inside.length + 7)
  | _ => do
    let inside ← upTo? closing cs
    let action ← action? inside
    pure (action, inside.length + 2)

/-- A place in the text of a template. -/
structure Place where
  line : Nat
  /-- The characters of the line so far, the last one first. -/
  before : List Char
  deriving DecidableEq, Repr

namespace Place

/-- The first place of a text. -/
def start : Place := ⟨1, []⟩

/-- The place after one more character. -/
def after (p : Place) (c : Char) : Place :=
  if c = '\n' then ⟨p.line + 1, []⟩ else ⟨p.line, c :: p.before⟩

/-- The column of the place, from one. -/
def column (p : Place) : Nat := p.before.length + 1

/-- Whether nothing but blanks stands before the place on its line. -/
def isLineStart (p : Place) : Bool :=
  match p.before.dropWhile isLineBlank with
  | [] => true
  | c :: _ => c == '\r'

end Place

/-- Whether a text starts with an empty line that is ended. -/
def startsWithEmptyLine (cs : List Char) : Bool :=
  match cs.dropWhile isLineBlank with
  | [] => false
  | c :: _ => c == '\n' || c == '\r'

/-- Tags that can take their line away. -/
def Action.takesLine : Action → Bool
  | .value _ _ => false
  | _ => true

/-- The backslashes at the start of a text, if two braces follow them. -/
def backslashes (cs : List Char) : Option Nat :=
  let slashes := cs.takeWhile (· == '\\')
  if !slashes.isEmpty && ['\x7b', '\x7b'].isPrefixOf (cs.drop slashes.length) then
    some slashes.length
  else none

/-- The tokens of a text from a place on. `pending` is the text since the last tag, the last
character first. The next `busy` characters were read already; `keep` says that they are text. -/
def tokens? (place : Place) (busy : Nat) (keep : Bool) (pending : List Char) :
    List Char → Option (List Token)
  | [] => some [.text pending.reverse]
  | c :: r =>
    match busy with
    | n + 1 => tokens? (place.after c) n keep (if keep then c :: pending else pending) r
    | 0 =>
      match backslashes (c :: r) with
      | some n => tokens? (place.after c) (if n = 1 then 2 else n - 1) true pending r
      | none =>
        if ['\x7b', '\x7b'].isPrefixOf (c :: r) then
          match readTag (r.drop 1) with
          | none => none
          | some (action, length) =>
            let alone := action.takesLine && startsWithEmptyLine (r.drop (length + 1)) &&
              place.isLineStart
            (tokens? (place.after c) (length + 1) false [] r).map fun more =>
              .text pending.reverse :: .tag action place.line place.column alone :: more
        else tokens? (place.after c) 0 true (c :: pending) r

/-- Text behind a tag that stands alone: without blanks up to the end of the line, and without that
end. -/
def dropLineStart (cs : List Char) : List Char :=
  match cs.dropWhile isLineBlank with
  | '\r' :: '\n' :: r => r
  | '\n' :: r => r
  | r => r

/-- Text before a tag that stands alone: without blanks at the end. -/
def dropLineEnd (cs : List Char) : List Char := (cs.reverse.dropWhile isLineBlank).reverse

/-- The tokens with the lines of the tags that stand alone taken away; `after` says that the token
before stood alone. -/
def settle (after : Bool) : List Token → List Token
  | [] => []
  | .text cs :: rest =>
    let cs := if after then dropLineStart cs else cs
    let cs := match rest with
      | .tag _ _ _ true :: _ => dropLineEnd cs
      | _ => cs
    .text cs :: settle false rest
  | .tag action line column alone :: rest => .tag action line column alone :: settle alone rest

/-- A block whose closing tag was met. -/
structure ClosedBlock where
  block : Block
  /-- The part behind the `else` tag, once that was met. -/
  other : Option Template
  /-- What follows the block. -/
  next : Template

/-- What was put together from the tokens behind, and the blocks around it. -/
abbrev Assembly := Template × List ClosedBlock

/-- The tag of a value at a place. -/
def tagAt (path : List Char) (line column : Nat) : TemplateTag :=
  { path := String.ofList path, keys := (keys? path).getD [], place := some (line, column) }

/-- Puts a token before what follows it. -/
def assemble? (token : Token) (state : Assembly) : Option Assembly :=
  let (next, blocks) := state
  match token with
  | .text [] => some state
  | .text cs => some (.text cs next, blocks)
  | .tag action line column _ =>
    match action, blocks with
    | .comment, _ => some state
    | .value raw path, _ => some (.value (tagAt path line column) raw next, blocks)
    | .closeBlock block, _ => some (.done, ⟨block, none, next⟩ :: blocks)
    | .otherwise, ⟨block, none, after⟩ :: around =>
      some (.done, ⟨block, some next, after⟩ :: around)
    | .otherwise, _ => none
    | .openBlock _ _, [] => none
    | .openBlock block path, closed :: around =>
      let tag := tagAt path line column
      if block = closed.block then
        match block with
        | .choose => some (.choose tag next (closed.other.getD .done) closed.next, around)
        | .each =>
          some (.each tag next closed.other.isSome (closed.other.getD .done) closed.next, around)
      else none

/-- Reads a template; `none` if a tag is malformed or a block is not closed. -/
def read? (text : String) : Option Template := do
  let cs := text.toList
  let tokens ← tokens? .start 0 true [] cs
  let (template, blocks) ← (settle false tokens).foldrM assemble? (.done, [])
  if blocks.isEmpty then some template else none

end UiSkeleton.Template
