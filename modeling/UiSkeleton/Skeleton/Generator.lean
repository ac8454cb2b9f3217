/-
Skeletons: files to start from by hand. A generator fills the template of its target with the names
of an example and the blocks that its analysis gives; the same input always gives the same file.
-/
import UiSkeleton.Skeleton.Blocks
import UiSkeleton.Template.Store

namespace UiSkeleton

/-- A generated file. -/
structure SkeletonDocument where
  /-- The name of the example. -/
  name : String
  extension : String
  content : String
  deriving DecidableEq, Repr

/-- The name of the file. -/
def SkeletonDocument.fileName (d : SkeletonDocument) : String := d.name ++ "." ++ d.extension

/-- What makes skeletons for one target. -/
structure SkeletonGenerator where
  target : SkeletonTarget
  templates : TemplateStore
  catalog : Catalog
  /-- Where the generated program finds its font. -/
  fontAsset : String

namespace SkeletonGenerator

/-- The name under which a generator keeps its template. -/
def templateName : String := "skeleton"

/-- Where the generated program finds its font, unless it is told otherwise. -/
def usualFontAsset : String := "assets/DejaVuSans.ttf"

/-- The generator for a target, with the built-in catalog. -/
def ofTarget (target : SkeletonTarget) : SkeletonGenerator where
  target := target
  templates := (TemplateStore.empty .raw).put templateName target.template
  catalog := Catalog.builtin
  fontAsset := usualFontAsset

/-- The generator for ZapUI. -/
def zap : SkeletonGenerator := ofTarget ZapUi.target

/-- What the template is filled with. -/
def data (g : SkeletonGenerator) (name source : String) (a : Analysis) : JsonValue :=
  .ofMembers [
    ("name", .string name),
    ("title", .string (Naming.displayTitle name)),
    ("type_name", .string (Naming.typeIdentifier name)),
    ("target", .string g.target.name),
    ("source_lines", .number (.int (Text.lineCount source))),
    ("width", .number (.int a.windowSize.width)),
    ("height", .number (.int a.windowSize.height)),
    ("font_asset", .string g.fontAsset),
    ("colors", .string (SkeletonTarget.joinLines (g.target.colorLines a))),
    ("warnings", .string (SkeletonTarget.joinLines (g.target.warningLines a))),
    ("todos", .string (SkeletonTarget.joinLines (g.target.todoLines g.catalog a))),
    ("chains", .string (g.target.chainsBlock g.catalog a))]

/-- The skeleton of an example. -/
def generate (g : SkeletonGenerator) (name source : String) (a : Analysis) :
    Except RenderError SkeletonDocument :=
  (g.templates.render templateName (g.data name source a)).map fun content =>
    { name, extension := g.target.extension, content }

end SkeletonGenerator
end UiSkeleton
