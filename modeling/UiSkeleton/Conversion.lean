/-
Converting an example: its source is fetched and analyzed, and the skeleton, a copy of the source, a
report and a directory for pictures are written in this order, the font last. Nothing is written
before both documents are made, and a font that is not there only changes the outcome.
-/
import UiSkeleton.Config
import UiSkeleton.FileTree.Action
import UiSkeleton.Source

namespace UiSkeleton

/-- What runs change and leave behind. -/
structure Session where
  files : FileTree
  /-- All log lines in order. -/
  log : List LogLine
  /-- How many requests went to the source. -/
  requests : Nat

/-- A step of a run, which may fail. What it changed before it failed stays. -/
abbrev Run := ExceptT Failure (StateM Session)

namespace Session

/-- The session before the first step. -/
def start (files : FileTree) : Session := ⟨files, [], 0⟩

end Session

namespace Run

/-- Adds lines to the log. -/
def say (lines : List LogLine) : Run Unit := modify fun s => { s with log := s.log ++ lines }

/-- Does something to the files. -/
def act {α : Type} (action : FileAction α) : Run α := do
  let s ← get
  let (result, files) := action.run s.files
  set { s with files }
  result

/-- Takes the answer to a request. -/
def request {α : Type} (context : String) (reply : Reply α) : Run α := do
  modify fun s => { s with log := s.log ++ reply.log, requests := s.requests + 1 }
  match reply.result with
  | .ok a => pure a
  | .error e => throw ⟨[context], .source e⟩

/-- Takes a document, unless its template could not be filled. -/
def document {α : Type} (context : String) (made : Except RenderError α) : Run α :=
  match made with
  | .ok a => pure a
  | .error e => throw ⟨[context], .template e.message⟩

end Run

/-- What became of the font. -/
inductive FontStatus where
  | copied (target : Path)
  /-- The font has to be put at the target by hand. -/
  | missing (source target : Path)
  deriving DecidableEq, Repr

/-- What a conversion gives. -/
structure Outcome where
  name : ExampleName
  analysis : Analysis
  skeletonPath : Path
  referencePath : Path
  reportPath : Path
  screenshots : Path
  font : FontStatus

/-- What converts examples. -/
structure Converter where
  config : Config
  source : ExampleSource

namespace Converter

/-- The converter with a configuration, if a run can start with it. -/
def ofConfig (config : Config) (source : ExampleSource) : Except Failure Converter :=
  match config.validate with
  | .ok () => .ok ⟨config, source⟩
  | .error f => .error (f.within "Configuration validation failed")

/-- Where the output goes. -/
def layout (c : Converter) : OutputLayout := ⟨.ofText c.config.outputDir⟩

/-- The font, as the configuration has it. -/
def fontSource (c : Converter) : Path := .ofText c.config.fontPath

/-- Where the font goes. -/
def fontTarget (c : Converter) : Path := c.layout.asset c.fontSource

/-- Where a skeleton finds its font, seen from the root of the output. -/
def fontAsset (c : Converter) : String :=
  match c.fontSource.fileName? with
  | some name => "assets/" ++ String.ofList name
  | none => SkeletonGenerator.usualFontAsset

/-- What makes the skeletons. -/
def generator (c : Converter) : SkeletonGenerator :=
  { SkeletonGenerator.zap with fontAsset := c.fontAsset }

/-- The names of the examples that there are. -/
def list (c : Converter) : Run (List String) :=
  Run.request "Error fetching examples" c.source.list

/-- The counts of an analysis, and its warnings, for the log. -/
def findings (a : Analysis) : List LogLine :=
  [⟨.info, "Analysis:"⟩,
    ⟨.info, "  - Div chains found: " ++ toString a.divChains.length⟩,
    ⟨.info, "  - Colors used: " ++ toString a.colors.size⟩,
    ⟨.info, "  - Window size: " ++ a.windowSize.text⟩,
    ⟨.info, "  - Warnings: " ++ toString a.warnings.size⟩] ++
    a.warnings.toList.map fun warning => ⟨.warn, warning⟩

/-- The skeleton of an example and the report on it. -/
structure Documents where
  skeleton : SkeletonDocument
  report : ReportDocument

/-- Makes both documents. -/
def documents (c : Converter) (name : ExampleName) (text : String) (a : Analysis) :
    Run Documents := do
  let skeleton ← Run.document "Failed to generate skeleton" (c.generator.generate name.text text a)
  let report ← Run.document "Failed to generate report"
    (c.config.reportFormat.generate name.text text skeleton a)
  return ⟨skeleton, report⟩

/-- Copies the font. -/
def copyFont (c : Converter) : Run FontStatus := do
  let source := c.fontSource
  let target := c.fontTarget
  try
    Run.act (FileAction.copyFile source target)
    Run.say [⟨.debug, "Copied font to " ++ target.quoted⟩]
    return .copied target
  catch f =>
    Run.say [⟨.warn, "Could not copy font: " ++ f.message⟩,
      ⟨.warn, "Copy a TrueType font to " ++ target.quoted ++
        " (or set font_path in the config) before running the skeleton"⟩]
    return .missing source target

/-- Writes everything that belongs to an example. -/
def store (c : Converter) (name : ExampleName) (text : String) (a : Analysis) (d : Documents) :
    Run Outcome := do
  let skeletonPath := c.layout.skeleton d.skeleton.fileName
  Run.act (FileAction.writeText skeletonPath d.skeleton.content)
  Run.say [⟨.info, "Generated " ++ skeletonPath.quoted⟩]
  let referencePath := c.layout.reference name.text
  Run.act (FileAction.writeText referencePath text)
  Run.say [⟨.debug, "Saved original source to " ++ referencePath.quoted⟩]
  let reportPath := c.layout.report d.report.fileName
  Run.act (FileAction.writeText reportPath d.report.content)
  Run.say [⟨.info, "Generated report " ++ reportPath.quoted⟩]
  let screenshots := c.layout.screenshots name.text
  Run.act (FileAction.ensureDirectory screenshots)
  Run.say [⟨.debug, "Screenshot directory ready at " ++ screenshots.quoted⟩]
  let font ← c.copyFont
  return ⟨name, a, skeletonPath, referencePath, reportPath, screenshots, font⟩

/-- Converts the example that a text names. -/
def convert (c : Converter) (raw : String) : Run Outcome := do
  let name ← ExampleName.read raw
  Run.say [⟨.info, "Fetching GPUI example: " ++ name.text⟩]
  let text ← Run.request ("Could not fetch example: " ++ name.text) (c.source.fetch name.text)
  Run.say [⟨.info, "Analyzing " ++ toString text.utf8ByteSize ++ " bytes of Rust code..."⟩]
  let a := Catalog.builtin.analyzeExample name.text text
  Run.say (Catalog.builtin.analysisLog text ++ findings a)
  let d ← c.documents name text a
  c.store name text a d

end Converter
end UiSkeleton
