/-
What a run does to a tree of files: making directories with all above them, writing texts and
copying files. An action that fails keeps what it changed before.
-/
import UiSkeleton.Failure

namespace UiSkeleton

/-- An action on a tree that may fail. -/
abbrev FileAction := ExceptT Failure (StateM FileTree)

namespace FileAction

/-- A change of the tree, or a failure in a context. -/
def change (context : String) (f : FileTree → Except FileFault FileTree) : FileAction Unit := do
  match f (← get) with
  | .ok t => set t
  | .error fault => throw ⟨[context], .file fault⟩

/-- The tree with a directory. It is no fault if the directory is there already. -/
def addDirectory (p : Path) (t : FileTree) : Except FileFault Unit × FileTree :=
  match t.makeDirectory p with
  | .ok t => (.ok (), t)
  | .error fault => (if t.hasDirectory p then .ok () else .error fault, t)

/-- The tree with the first of some directories, each of which lies in the next one; those are added
before it if they are not there. What was added before a fault stays. -/
def addDirectories : List Path → FileTree → Except FileFault Unit × FileTree
  | [], t => (.error .nothingAbove, t)
  | p :: above, t =>
    if p.chars.isEmpty then (.ok (), t)
    else match t.makeDirectory p with
      | .error .notFound =>
        match addDirectories above t with
        | (.ok (), t) => addDirectory p t
        | refused => refused
      | _ => addDirectory p t

/-- Makes sure that a path leads to a directory. -/
def ensureDirectory (p : Path) : FileAction Unit := do
  let t ← get
  if t.hasDirectory p then return
  let (result, t) := addDirectories (p :: p.ancestors) t
  set t
  match result with
  | .ok () => pure ()
  | .error fault => throw ⟨["Failed to create directory: " ++ p.quoted], .file fault⟩

/-- Makes sure that there is a directory for a file. -/
def ensureParent (p : Path) : FileAction Unit :=
  match p.parent? with
  | none => pure ()
  | some parent => ensureDirectory parent

/-- Writes some bytes to a file. -/
def writeBytes (p : Path) (bytes : List UInt8) : FileAction Unit := do
  ensureParent p
  change ("Failed to write to file: " ++ p.quoted) fun t => t.write p bytes

/-- Writes a text to a file. -/
def writeText (p : Path) (content : String) : FileAction Unit := writeBytes p (Text.toBytes content)

/-- Copies a file. -/
def copyFile (source target : Path) : FileAction Unit := do
  if !(← get).hasFile source then throw (.ofCause (.noSourceFile source))
  ensureParent target
  change ("Failed to copy " ++ source.quoted ++ " to " ++ target.quoted) fun t =>
    t.copy source target

end FileAction
end UiSkeleton
