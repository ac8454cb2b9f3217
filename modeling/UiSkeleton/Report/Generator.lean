/-
Comparison reports: the source of an example and its skeleton, some counts, and links to the
pictures that are taken elsewhere. A report in Markdown encloses each text between fences, rows of
backticks that are longer than every row of backticks in the text.
-/
import UiSkeleton.Report.Templates
import UiSkeleton.Skeleton.Generator

namespace UiSkeleton

/-- The backtick. -/
def backtick : Char := '\x60'

/-- The length of the longest row of backticks in a text. -/
def longestRow (cs : List Char) : Nat :=
  ((Text.cutWhere (· != backtick) cs).map List.length).foldl max 0

/-- The fence of a text: at least three backticks. -/
def codeFence (text : String) : String :=
  String.ofList (List.replicate (max (longestRow text.toList) 2 + 1) backtick)

/-- The form of a report. -/
inductive ReportFormat where
  | html
  | markdown
  deriving DecidableEq, Repr

namespace ReportFormat

/-- All forms, the usual one first. -/
def all : List ReportFormat := [.html, .markdown]

/-- The name of a form in a configuration. -/
def name : ReportFormat → String
  | .html => "html"
  | .markdown => "markdown"

/-- The extension of a report's file. -/
def extension : ReportFormat → String
  | .html => "html"
  | .markdown => "md"

/-- The template of the form. -/
def template : ReportFormat → Template
  | .html => htmlReport
  | .markdown => markdownReport

/-- What is done to the values in a report. -/
def escaping : ReportFormat → Escaping
  | .html => .html
  | .markdown => .raw

/-- The form's template, under the extension of its files. -/
def templates (format : ReportFormat) : TemplateStore :=
  (TemplateStore.empty format.escaping).put format.extension format.template

end ReportFormat

/-- A generated report. -/
structure ReportDocument where
  /-- The name of the example. -/
  name : String
  format : ReportFormat
  content : String
  deriving DecidableEq, Repr

/-- The name of the file. -/
def ReportDocument.fileName (d : ReportDocument) : String := d.name ++ "." ++ d.format.extension

/-- The pictures of an example, as seen from the directory of the reports. -/
structure AssetRefs where
  gpui : String
  zapui : String
  diff : String
  animation : String
  deriving DecidableEq, Repr

/-- The pictures of the example with a name. -/
def AssetRefs.ofName (name : String) : AssetRefs :=
  let asset (file : String) : String := "../screenshots/" ++ name ++ "/" ++ file
  ⟨asset "gpui.png", asset "zapui.png", asset "diff.png", asset "compare.gif"⟩

/-- The pictures as the report's template sees them. -/
def AssetRefs.data (assets : AssetRefs) : JsonValue :=
  .ofMembers [("gpui", .string assets.gpui), ("zapui", .string assets.zapui),
    ("diff", .string assets.diff), ("animation", .string assets.animation)]

namespace ReportFormat

/-- What a report's template is filled with. -/
def data (name source : String) (skeleton : SkeletonDocument) (a : Analysis) : JsonValue :=
  .ofMembers [
    ("name", .string name),
    ("title", .string (if a.title.isEmpty then Naming.displayTitle name else a.title)),
    ("skeleton_file", .string skeleton.fileName),
    ("source", .string source),
    ("skeleton", .string skeleton.content),
    ("source_fence", .string (codeFence source)),
    ("skeleton_fence", .string (codeFence skeleton.content)),
    ("skeleton_lang", .string skeleton.extension),
    ("source_lines", .number (.int (Text.lineCount source))),
    ("skeleton_lines", .number (.int (Text.lineCount skeleton.content))),
    ("color_count", .number (.int a.colors.size)),
    ("window_size", .string a.windowSize.text),
    ("warnings", .array (a.warnings.toList.map .string)),
    ("assets", (AssetRefs.ofName name).data)]

/-- The report on an example. -/
def generate (format : ReportFormat) (name source : String) (skeleton : SkeletonDocument)
    (a : Analysis) : Except RenderError ReportDocument :=
  (format.templates.render format.extension (data name source skeleton a)).map fun content =>
    { name, format, content }

end ReportFormat
end UiSkeleton
