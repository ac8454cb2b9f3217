/-
A tree of files and directories. A location is the list of names that lead to an entry from the
root; the root itself is always a directory. The view of a tree is `get?`, and the lemmas on `put`
say what it does to that view.
-/
import UiSkeleton.Text.Utf8

namespace UiSkeleton

/-- The names that lead from the root to an entry. -/
abbrev Location := List (List Char)

/-- What is at a location. -/
inductive FileEntry where
  | directory
  | file (bytes : List UInt8)
  deriving DecidableEq, Repr

/-- Why the system refuses an operation on files. -/
inductive FileFault where
  | notFound
  | alreadyExists
  | notDirectory
  | isDirectory
  | nameTooLong
  /-- A path that holds the character that ends texts. -/
  | unusableName
  /-- A directory that cannot be made because there is nothing above it. -/
  | nothingAbove
  deriving DecidableEq, Repr

/-- The text of a fault. -/
def FileFault.message : FileFault → String
  | .notFound => "No such file or directory (os error 2)"
  | .alreadyExists => "File exists (os error 17)"
  | .notDirectory => "Not a directory (os error 20)"
  | .isDirectory => "Is a directory (os error 21)"
  | .nameTooLong => "File name too long (os error 36)"
  | .unusableName => "file name contained an unexpected NUL byte"
  | .nothingAbove => "failed to create whole tree"

/-- A tree of files, and the directory in which relative paths start. -/
structure FileTree where
  entries : List (Location × FileEntry)
  workingDirectory : Location
  deriving DecidableEq, Repr

namespace FileTree

/-- What is at a location. -/
def get? (t : FileTree) (place : Location) : Option FileEntry :=
  if place = [] then some .directory else t.entries.lookup place

/-- The tree with an entry at a location in place of what was there. -/
def put (t : FileTree) (place : Location) (entry : FileEntry) : FileTree :=
  { t with entries := (place, entry) :: t.entries.filter (·.1 != place) }

/-- The tree with a working directory and nothing else. -/
def empty (workingDirectory : Location) : FileTree where
  entries := (List.range workingDirectory.length).map fun n =>
    (workingDirectory.take (n + 1), .directory)
  workingDirectory := workingDirectory

/-- The entries below the working directory, under their locations from there. -/
def visible (t : FileTree) : List (Location × FileEntry) :=
  t.entries.filterMap fun (place, entry) =>
    if t.workingDirectory.isPrefixOf place && place != t.workingDirectory then
      some (place.drop t.workingDirectory.length, entry)
    else none

theorem lookup_filter_ne {place other : Location} (h : other ≠ place)
    (entries : List (Location × FileEntry)) :
    (entries.filter (·.1 != place)).lookup other = entries.lookup other := by
  induction entries with
  | nil => rfl
  | cons first more ih =>
    obtain ⟨key, entry⟩ := first
    by_cases hk : key = place
    · subst hk
      have hne : (other == key) = false := by simpa using h
      simp [List.lookup_cons, hne, ih]
    · simp [List.lookup_cons, hk, ih]

@[simp] theorem get?_put_self {t : FileTree} {place : Location} {entry : FileEntry}
    (h : place ≠ []) : (t.put place entry).get? place = some entry := by
  simp [get?, put, h]

theorem get?_put_of_ne {t : FileTree} {place other : Location} {entry : FileEntry}
    (h : other ≠ place) : (t.put place entry).get? other = t.get? other := by
  have hne : (other == place) = false := by simpa using h
  simp [get?, put, List.lookup_cons, hne, lookup_filter_ne h]

@[simp] theorem workingDirectory_put {t : FileTree} {place : Location} {entry : FileEntry} :
    (t.put place entry).workingDirectory = t.workingDirectory := rfl

@[simp] theorem get?_root {t : FileTree} : t.get? [] = some .directory := rfl

end FileTree
end UiSkeleton
