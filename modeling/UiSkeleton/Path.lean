/-
Paths of files as they are spelled. A path is a text whose names stand between slashes; empty names
and points that stand alone count for nothing, except at the start, where they say whether the path
leads from the root or from the working directory.
-/
import UiSkeleton.Text.Blank
import UiSkeleton.Text.Character

namespace UiSkeleton

/-- A spelled path. -/
structure Path where
  chars : List Char
  deriving DecidableEq, Repr

namespace Path

/-- The path with a spelling. -/
def ofText (s : String) : Path := ⟨s.toList⟩

/-- The spelling of a path. -/
def text (p : Path) : String := String.ofList p.chars

/-- The spelling as messages show it. -/
def quoted (p : Path) : String := Text.quoted p.text

/-- Whether a path leads from the root. -/
def isAbsolute (p : Path) : Bool := p.chars.head? == some '/'

/-- Whether a path ends in a slash. -/
def endsInSlash (p : Path) : Bool := p.chars.getLast? == some '/'

/-- The path `q` seen from the directory `p`. -/
def join (p q : Path) : Path :=
  if q.isAbsolute then q
  else if p.chars.isEmpty || p.endsInSlash then ⟨p.chars ++ q.chars⟩
  else ⟨p.chars ++ '/' :: q.chars⟩

/-- What stands between the slashes. -/
def names (p : Path) : List (List Char) := Text.cutWhere (· == '/') p.chars

/-- The path with some names between its slashes. -/
def ofNames (names : List (List Char)) : Path := ⟨List.intercalate ['/'] names⟩

/-- Whether a name counts for nothing inside a path. -/
def isIdle (name : List Char) : Bool := name == [] || name == ['.']

/-- The names without those at the end that count for nothing. -/
def dropIdleEnd (names : List (List Char)) : List (List Char) :=
  (names.reverse.dropWhile isIdle).reverse

/-- The name of the file that a path leads to; `none` if it ends in the root, in the working
directory or with a step up. -/
def fileName? (p : Path) : Option (List Char) :=
  (dropIdleEnd p.names).getLast?.filter (· != ['.', '.'])

/-- The path without its last name; `none` if there is none. -/
def parent? (p : Path) : Option Path :=
  match p.names with
  | [] => none
  | first :: more =>
    match dropIdleEnd more with
    | [] => if first.isEmpty then none else some (ofNames [])
    | kept =>
      let above := dropIdleEnd kept.dropLast
      if first.isEmpty && above.isEmpty then some ⟨['/']⟩ else some (ofNames (first :: above))

/-- The paths above a path, at most `count` of them, the nearest first. -/
def above (p : Path) : Nat → List Path
  | 0 => []
  | count + 1 =>
    match p.parent? with
    | none => []
    | some q => q :: q.above count

/-- All paths above a path, the nearest first; every one has fewer names. -/
def ancestors (p : Path) : List Path := p.above p.names.length

end Path
end UiSkeleton
