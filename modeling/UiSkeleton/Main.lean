/-
The program. It looks up the file of the configuration, does the run on a tree that holds it, and
writes what the run changed. It has no connection to a network, so requests for examples fail.
-/
import UiSkeleton.CommandLine.Run

namespace UiSkeleton

/-- What is at a path on the disk. -/
def diskEntry (p : Path) : IO (Option FileEntry) := do
  try
    return some (.file (← IO.FS.readBinFile p.text).toList)
  catch
    | .inappropriateType _ 21 _ => return some .directory
    | _ => return none

/-- The tree with an entry at a path, and the directories above it. -/
def withEntry (t : FileTree) (p : Path) : FileEntry → FileTree
  | .directory => ((FileAction.ensureDirectory p).run t).2
  | .file bytes => ((FileAction.writeBytes p bytes).run t).2

/-- The path of a location. -/
def pathTo (place : Location) : Path := ⟨place.flatMap ('/' :: ·)⟩

/-- Writes the entries of a tree that are not in the tree before. -/
def writeChanges (before after : FileTree) : IO Unit := do
  for (place, entry) in after.entries.reverse do
    if before.get? place != some entry then
      match entry with
      | .directory => IO.FS.createDirAll (pathTo place).text
      | .file bytes => IO.FS.writeBinFile (pathTo place).text (ByteArray.mk bytes.toArray)

/-- A time in milliseconds as hours, minutes, seconds and thousandths. -/
def clockText (milliseconds : Nat) : String :=
  let padded (width n : Nat) : String :=
    let digits := toString n
    "".pushn '0' (width - digits.length) ++ digits
  padded 2 (milliseconds / 3600000 % 24) ++ ":" ++ padded 2 (milliseconds / 60000 % 60) ++ ":" ++
    padded 2 (milliseconds / 1000 % 60) ++ "." ++ padded 3 (milliseconds % 1000)

end UiSkeleton

open UiSkeleton in
/-- Runs the program on the disk. The clock of the log starts with the program. -/
def main (arguments : List String) : IO UInt32 := do
  let start ← IO.monoMsNow
  let workingDirectory := Path.ofText (toString (← IO.currentDir))
  let configVariable ← IO.getEnv Config.fileVariable
  let empty := FileTree.empty (workingDirectory.names.filter (· != []))
  let configFile := Config.file configVariable
  let files := match ← diskEntry configFile with
    | some entry => withEntry empty configFile entry
    | none => empty
  let ending := CommandLine.run ⟨configVariable, Network.unreachable, files⟩ arguments
  (← IO.getStdout).putStr ending.output
  (← IO.getStderr).putStr (ending.errorText (clockText ((← IO.monoMsNow) - start)))
  writeChanges files ending.files
  return UInt32.ofNat ending.exitCode
