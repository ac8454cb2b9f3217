/-
Named templates that share one way of escaping. Putting a text that is no template leaves the store
as it was.
-/
import UiSkeleton.Template.Reader
import UiSkeleton.Template.Render

namespace UiSkeleton

/-- Named templates and what is done to the values in them. -/
structure TemplateStore where
  escaping : Escaping
  /-- The templates by their names, the latest first. -/
  templates : List (String × Template)

namespace TemplateStore

/-- A store without templates. -/
def empty (escaping : Escaping) : TemplateStore := ⟨escaping, []⟩

/-- The store with one more template. -/
def put (s : TemplateStore) (name : String) (template : Template) : TemplateStore :=
  { s with templates := (name, template) :: s.templates }

/-- The store with one more template; `none` if the text is no template. -/
def put? (s : TemplateStore) (name text : String) : Option TemplateStore :=
  (Template.read? text).map (s.put name)

/-- The text of a template for some data. -/
def render (s : TemplateStore) (name : String) (data : JsonValue) : Except RenderError String :=
  match s.templates.lookup name with
  | none => .error (.unknownTemplate name)
  | some template =>
    match template.render s.escaping data with
    | .ok cs => .ok (String.ofList cs)
    | .error tag => .error (.missingValue name tag)

end TemplateStore
end UiSkeleton
