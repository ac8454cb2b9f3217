/-
Names of examples: one or more ASCII letters, digits, underscores and hyphens. A name may be given
with the extension of its source and with blanks around it. No name has a slash or a point, so files
named for an example stay in their directory.
-/
import UiSkeleton.Failure
import UiSkeleton.OutputLayout

namespace UiSkeleton

/-- The characters of names. -/
def isNameChar (c : Char) : Bool := c.isAlphanum || c == '_' || c == '-'

/-- A name of an example. -/
structure ExampleName where
  text : String
  nonempty : text.toList ≠ []
  plain : ∀ c ∈ text.toList, isNameChar c

namespace ExampleName

/-- The text without an ending, or as it is if it does not have the ending. -/
def dropEnding (ending cs : List Char) : List Char :=
  if ending.isSuffixOf cs then cs.take (cs.length - ending.length) else cs

/-- The name that a text is, if it is one. -/
def ofChars? (cs : List Char) : Option ExampleName :=
  if h : (!cs.isEmpty && cs.all isNameChar) = true then
    some ⟨String.ofList cs, by simp_all, by simp_all⟩
  else none

/-- The name that a text gives. -/
def read (raw : String) : Except Failure ExampleName :=
  match ofChars? (dropEnding sourceExtension.toList (Text.trim raw.toList)) with
  | some name => .ok name
  | none => .error (.ofCause (.invalidName raw))

end ExampleName
end UiSkeleton
