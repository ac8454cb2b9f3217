/-
Templates: text with places for values, conditions and repetitions, in a form that recursion follows
from front to back. A tag knows its place in the template's text and the path of the value it asks
for, as it was written.
-/
import UiSkeleton.Json.Basic
import UiSkeleton.Text.Character

namespace UiSkeleton

/-- A tag of a template that asks for a value. -/
structure TemplateTag where
  /-- The path as it was written. -/
  path : String
  /-- The keys on the way from the current value to the one asked for. -/
  keys : List String
  /-- The line and the column of a tag that was read from a text, both from one. -/
  place : Option (Nat × Nat)
  deriving DecidableEq, Repr

/-- A template. -/
inductive Template where
  /-- The end. -/
  | done
  /-- Text that stays as it is. -/
  | text (cs : List Char) (next : Template)
  /-- A value, escaped unless it is wanted raw. -/
  | value (tag : TemplateTag) (raw : Bool) (next : Template)
  /-- The first part for a value that counts as true, the second one for any other. -/
  | choose (tag : TemplateTag) (yes no next : Template)
  /-- The body for every item of a value; another part for no items, if there is one. -/
  | each (tag : TemplateTag) (body : Template) (hasOther : Bool) (other next : Template)
  deriving DecidableEq, Repr

namespace TemplateTag

/-- The tag for the member of the current value under a key. -/
def ofKey (key : String) : TemplateTag := ⟨key, [key], none⟩

/-- The tag for a member of a member. -/
def ofKeys (outer inner : String) : TemplateTag := ⟨outer ++ "." ++ inner, [outer, inner], none⟩

/-- The tag for the current value itself. -/
def current : TemplateTag := ⟨"this", [], none⟩

end TemplateTag

namespace Template

/-- Lines of text, with line feeds between them, before what follows. -/
def lines (ls : List String) (next : Template) : Template :=
  .text (List.intercalate ['\n'] (ls.map String.toList)) next

/-- The value of a tag, escaped, before what follows. -/
def slot (tag : TemplateTag) (next : Template) : Template := .value tag false next

/-- The text of a template. -/
def source : Template → List Char
  | .done => []
  | .text cs next => cs ++ next.source
  | .value tag raw next =>
    (if raw then "\x7b\x7b\x7b".toList else "\x7b\x7b".toList) ++ tag.path.toList ++
      (if raw then "\x7d\x7d\x7d".toList else "\x7d\x7d".toList) ++ next.source
  | .choose tag yes no next =>
    "\x7b\x7b#if ".toList ++ tag.path.toList ++ "\x7d\x7d".toList ++ yes.source ++
      "\x7b\x7belse\x7d\x7d".toList ++ no.source ++ "\x7b\x7b/if\x7d\x7d".toList ++
      next.source
  | .each tag body hasOther other next =>
    "\x7b\x7b#each ".toList ++ tag.path.toList ++ "\x7d\x7d".toList ++ body.source ++
      (if hasOther then "\x7b\x7belse\x7d\x7d".toList ++ other.source else []) ++
      "\x7b\x7b/each\x7d\x7d".toList ++ next.source

end Template

/-- What is done to the text of a value. -/
inductive Escaping where
  /-- It is inserted as it is. -/
  | raw
  /-- Characters with a meaning in HTML become entities. -/
  | html
  deriving DecidableEq, Repr

/-- Why a template was not rendered. -/
inductive RenderError where
  /-- No template has the name. -/
  | unknownTemplate (name : String)
  /-- A tag asks for a value that is not there. -/
  | missingValue (name : String) (tag : TemplateTag)
  deriving DecidableEq, Repr

/-- The text of an error. -/
def RenderError.message : RenderError → String
  | .unknownTemplate name => "Template not found " ++ name
  | .missingValue name tag =>
    let place := match tag.place with
      | some (line, column) => " line " ++ toString line ++ ", col " ++ toString column
      | none => ""
    "Error rendering \"" ++ name ++ "\"" ++ place ++
      ": Failed to access variable in strict mode Some(" ++ Text.quoted tag.path ++ ")"

end UiSkeleton
