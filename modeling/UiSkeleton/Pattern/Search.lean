/-
Searching a text for a pattern. A search walks over the text and tries the pattern at every place,
so the first occurrence is the leftmost one; all occurrences together cut the text into pieces that
join up to the text again. An empty occurrence is not taken where the one before it ended.
-/
import UiSkeleton.Pattern.Basic

namespace UiSkeleton

/-- Where a pattern matched: the text, and the texts of the groups that took part. -/
structure Occurrence where
  text : List Char
  groups : List (Nat × List Char)
  deriving DecidableEq, Repr

/-- The text of a group, of the whole occurrence for group zero. -/
def Occurrence.group? (o : Occurrence) (index : Nat) : Option (List Char) :=
  if index = 0 then some o.text else o.groups.lookup index

/-- A piece of a searched text. -/
inductive Piece where
  /-- A character outside all occurrences. -/
  | plain (c : Char)
  /-- An occurrence. -/
  | found (occurrence : Occurrence)
  deriving DecidableEq, Repr

namespace Piece

/-- The part of the searched text that the piece stands for. -/
def text : Piece → List Char
  | .plain c => [c]
  | .found o => o.text

/-- The occurrence, if the piece is one. -/
def occurrence? : Piece → Option Occurrence
  | .plain _ => none
  | .found o => some o

end Piece

namespace Pattern

/-- The occurrence at the start of `rest`, which stands after the character `before`. -/
def matchAt (p : Pattern) (before : Option Char) (rest : List Char) : Option Occurrence :=
  (p.run (.start before rest) some).map fun s =>
    { text := rest.take s.place
      groups := s.groups.map fun (index, span) =>
        (index, (rest.drop span.start).take (span.stop - span.start)) }

/-- The leftmost occurrence. -/
def search (p : Pattern) (before : Option Char) : List Char → Option Occurrence
  | [] => p.matchAt before []
  | c :: r => (p.matchAt before (c :: r)).orElse fun _ => p.search (some c) r

/-- The pieces of the text after `before`. The first `busy` characters belong to an occurrence that
was found already, and `touching` says that an occurrence ends here. -/
def pieces (p : Pattern) (before : Option Char) (busy : Nat) (touching : Bool) :
    List Char → List Piece
  | [] =>
    match busy, p.matchAt before [] with
    | 0, some o => if touching then [] else [.found o]
    | _, _ => []
  | c :: r =>
    match busy with
    | n + 1 => p.pieces (some c) n true r
    | 0 =>
      match p.matchAt before (c :: r) with
      | none => .plain c :: p.pieces (some c) 0 false r
      | some o =>
        match o.text with
        | [] =>
          let more := .plain c :: p.pieces (some c) 0 false r
          if touching then more else .found o :: more
        | _ :: t => .found o :: p.pieces (some c) t.length true r

end Pattern
end UiSkeleton
