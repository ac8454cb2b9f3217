/-
Failures of a run: what went wrong, under the contexts in which it did, each saying more than the
one inside it.
-/
import UiSkeleton.FileTree.Walk
import UiSkeleton.Json.Error

namespace UiSkeleton

/-- Why a source of examples gave no answer. -/
inductive SourceError where
  | requestFailed (reason : String)
  | badStatus (code : Nat) (url : String)
  | malformedListing (reason : String)
  | emptyExample (name : String)
  deriving DecidableEq, Repr

/-- The text of a source's error. -/
def SourceError.message : SourceError → String
  | .requestFailed reason => "Request failed: " ++ reason
  | .badStatus code url => "Endpoint responded with error: " ++ toString code ++ " - " ++ url
  | .malformedListing reason => "Failed to parse listing response: " ++ reason
  | .emptyExample name => "Example '" ++ name ++ "' is empty"

/-- What went wrong. -/
inductive Cause where
  | source (e : SourceError)
  | template (reason : String)
  | config (reason : String)
  | json (e : JsonError)
  /-- A text that should be read is at no file. -/
  | unreadable (fault : FileFault)
  | file (fault : FileFault)
  | noSourceFile (p : Path)
  | invalidName (raw : String)
  deriving Repr

namespace Cause

/-- The texts of a cause; that of a source's error stands again behind that of the fetch. -/
def messages : Cause → List String
  | .source e => ["Fetch error: " ++ e.message, e.message]
  | .template reason => ["Template error: " ++ reason]
  | .config reason => ["Config error: " ++ reason]
  | .json e => [e.message]
  | .unreadable fault => [fault.message]
  | .file fault => [fault.message]
  | .noSourceFile p => ["Source file does not exist: " ++ p.quoted]
  | .invalidName raw => ["Invalid example name: " ++ Text.quoted raw]

end Cause

/-- A failure. -/
structure Failure where
  /-- The contexts, the outermost first. -/
  contexts : List String
  cause : Cause
  deriving Repr

namespace Failure

/-- The failure that only has a cause. -/
def ofCause (cause : Cause) : Failure := ⟨[], cause⟩

/-- The failure in one more context. -/
def within (context : String) (f : Failure) : Failure :=
  { f with contexts := context :: f.contexts }

/-- All texts of a failure, the outermost first. -/
def chain (f : Failure) : List String := f.contexts ++ f.cause.messages

/-- The outermost text. -/
def message (f : Failure) : String := f.chain.headD ""

/-- A text whose lines are indented; the first one starts with the given mark. -/
def indented (mark indent text : String) : String :=
  mark ++ ("\n" ++ indent).intercalate (text.splitOn "\n")

/-- The texts below the first, numbered if there are several. -/
def listed : List String → List String
  | [] => []
  | [only] => [indented "    " "    " only]
  | several => several.zipIdx.map fun (text, i) =>
    let number := toString i
    indented ("".pushn ' ' (5 - number.length) ++ number ++ ": ") "       " text

/-- The text with which a failed run ends. -/
def report (f : Failure) : String :=
  let causes := f.chain.drop 1
  "Error: " ++ f.message ++
    (if causes.isEmpty then "" else "\n\nCaused by:\n" ++ "\n".intercalate (listed causes)) ++ "\n"

end Failure
end UiSkeleton
