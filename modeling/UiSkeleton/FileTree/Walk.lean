/-
Where a path leads in a tree. Every name is looked up in a directory: an empty name and a point stay
there, two points lead up, and any other name must be an entry. The last name of a path may be a new
one; then the walk ends in the directory that would hold it.
-/
import UiSkeleton.FileTree.Basic
import UiSkeleton.Path

namespace UiSkeleton.FileTree

/-- The greatest number of bytes in a name. -/
def maxNameBytes : Nat := 255

/-- The greatest number of bytes in a path. -/
def maxPathBytes : Nat := 4095

/-- How many bytes a text has. -/
def byteCount (cs : List Char) : Nat := (String.ofList cs).utf8ByteSize

/-- Whether a name stays in its directory or leads out of it. -/
def isStep (name : List Char) : Bool := Path.isIdle name || name == ['.', '.']

/-- Whether a name can be the name of an entry. -/
def checkName (name : List Char) : Except FileFault Unit :=
  if maxNameBytes < byteCount name then .error .nameTooLong else .ok ()

/-- Whether the system takes a path at all. -/
def checkPath (p : Path) : Except FileFault Unit :=
  if p.chars.contains '\x00' then .error .unusableName
  else if p.chars.isEmpty then .error .notFound
  else if maxPathBytes < byteCount p.chars then .error .nameTooLong
  else .ok ()

/-- The location of the directory that is at a location. -/
def directoryAt (t : FileTree) (place : Location) : Except FileFault Location :=
  match t.get? place with
  | some .directory => .ok place
  | some (.file _) => .error .notDirectory
  | none => .error .notFound

/-- Where a name leads from a location. -/
def follow (t : FileTree) (place : Location) (name : List Char) : Except FileFault Location := do
  let place ← t.directoryAt place
  if Path.isIdle name then return place
  if name == ['.', '.'] then return place.dropLast
  checkName name
  if (t.get? (place ++ [name])).isNone then throw .notFound
  return place ++ [name]

/-- Where the names lead from a location. -/
def followAll (t : FileTree) (place : Location) : List (List Char) → Except FileFault Location
  | [] => .ok place
  | name :: more => do t.followAll (← t.follow place name) more

/-- Where a path starts. -/
def start (t : FileTree) (p : Path) : Location := if p.isAbsolute then [] else t.workingDirectory

/-- The location of the entry that a path leads to. -/
def locate (t : FileTree) (p : Path) : Except FileFault Location := do
  checkPath p
  t.followAll (t.start p) p.names

/-- The names without the empty ones at the end. -/
def dropEmptyEnd (names : List (List Char)) : List (List Char) :=
  (names.reverse.dropWhile List.isEmpty).reverse

/-- The directory in which the last name of a path lies, and that name; the name is empty for the
root. -/
def lastName (t : FileTree) (p : Path) : Except FileFault (Location × List Char) := do
  checkPath p
  let names := dropEmptyEnd p.names
  let place ← t.followAll (t.start p) names.dropLast
  return (← t.directoryAt place, names.getLastD [])

/-- The entry that a path leads to. -/
def find? (t : FileTree) (p : Path) : Option FileEntry :=
  match t.locate p with
  | .ok place => t.get? place
  | .error _ => none

/-- Whether a path leads to an entry. -/
def has (t : FileTree) (p : Path) : Bool := (t.find? p).isSome

/-- Whether a path leads to a directory. -/
def hasDirectory (t : FileTree) (p : Path) : Bool := t.find? p == some .directory

/-- Whether a path leads to a file. -/
def hasFile (t : FileTree) (p : Path) : Bool :=
  match t.find? p with
  | some (.file _) => true
  | _ => false

/-- The bytes of the file that a path leads to. -/
def read (t : FileTree) (p : Path) : Except FileFault (List UInt8) := do
  match t.get? (← t.locate p) with
  | some (.file bytes) => return bytes
  | some .directory => throw .isDirectory
  | none => throw .notFound

/-- The tree with a new directory. -/
def makeDirectory (t : FileTree) (p : Path) : Except FileFault FileTree := do
  let (place, name) ← t.lastName p
  if isStep name then throw .alreadyExists
  checkName name
  if (t.get? (place ++ [name])).isSome then throw .alreadyExists
  return t.put (place ++ [name]) .directory

/-- The tree with some bytes in a file, a new one or in place of what the file held. -/
def write (t : FileTree) (p : Path) (bytes : List UInt8) : Except FileFault FileTree := do
  let (place, name) ← t.lastName p
  if isStep name || p.endsInSlash then throw .isDirectory
  checkName name
  if t.get? (place ++ [name]) == some .directory then throw .isDirectory
  return t.put (place ++ [name]) (.file bytes)

/-- The tree with the bytes of one file in another. The other file is emptied before the first is
read. -/
def copy (t : FileTree) (source target : Path) : Except FileFault FileTree := do
  let _ ← t.read source
  let emptied ← t.write target []
  emptied.write target (← emptied.read source)

end UiSkeleton.FileTree
