/-
The configuration: where examples come from, where the output goes, the font, the form of reports
and the level of the log. Fields that are not given have usual values.
-/
import UiSkeleton.Failure
import UiSkeleton.Json.Record
import UiSkeleton.Log
import UiSkeleton.Report.Generator
import UiSkeleton.Url.Reader

namespace UiSkeleton

/-- A configuration. -/
structure Config where
  /-- Where the sources of the examples lie. -/
  examplesUrl : String :=
    "https://raw.githubusercontent.com/zed-industries/zed/main/crates/gpui/examples"
  /-- What answers with the list of examples. -/
  listingUrl : String :=
    "https://api.github.com/repos/zed-industries/zed/contents/crates/gpui/examples"
  /-- The root of the output. -/
  outputDir : String := "playground"
  /-- The font that is copied next to the skeletons. -/
  fontPath : String := "/usr/share/fonts/truetype/dejavu/DejaVuSans.ttf"
  reportFormat : ReportFormat := .html
  logLevel : LogLevel := .info
  deriving DecidableEq, Repr

namespace Config

/-- The file that is read unless another one is named. -/
def usualFile : Path := .ofText "uiport.json"

/-- The variable of the environment that names another file. -/
def fileVariable : String := "UIPORT_CONFIG"

/-- The file to read when the variable has some value. -/
def file (value? : Option String) : Path :=
  match value? with
  | none => usualFile
  | some value => if (Text.trim value.toList).isEmpty then usualFile else .ofText value

/-- The fields of a configuration in JSON. -/
def form : RecordForm where
  name := "struct Config"
  fields := [("examples_url", .text), ("listing_url", .text), ("output_dir", .text),
    ("font_path", .text), ("report_format", .choice (ReportFormat.all.map ReportFormat.name)),
    ("log_level", .choice (LogLevel.all.map LogLevel.name))]
  required := false

/-- The configuration with the given fields. -/
def ofFields (fields : FieldValues) : Config :=
  let usual : Config := {}
  { examplesUrl := (fields.lookup "examples_url").getD usual.examplesUrl
    listingUrl := (fields.lookup "listing_url").getD usual.listingUrl
    outputDir := (fields.lookup "output_dir").getD usual.outputDir
    fontPath := (fields.lookup "font_path").getD usual.fontPath
    reportFormat := ((fields.lookup "report_format").bind fun name =>
      ReportFormat.all.find? (·.name == name)).getD usual.reportFormat
    logLevel := ((fields.lookup "log_level").bind fun name =>
      LogLevel.all.find? (·.name == name)).getD usual.logLevel }

/-- The configuration that a JSON value holds. -/
def ofValue (v : JsonValue) : Except Failure Config :=
  match form.ofValue v with
  | .ok fields => .ok (ofFields fields)
  | .error cause => .error (.ofCause (.json ⟨cause, none⟩))

/-- The configuration that the bytes of a file hold. -/
def ofBytes (bytes : List UInt8) : Except Failure Config :=
  match JsonReader.readAll true (JsonReader.expectRecord form) bytes with
  | .ok fields => .ok (ofFields fields)
  | .error e => .error (.ofCause (.json e))

/-- The configuration in a file; the usual one if there is no such file. -/
def load (files : FileTree) (p : Path) : Except Failure Config :=
  if !files.has p then .ok {}
  else
    let read := match files.read p with
      | .ok bytes => ofBytes bytes
      | .error fault => .error (.ofCause (.unreadable fault))
    read.mapError (.within ("Failed to parse config file: " ++ p.quoted))

/-- What loading leaves in the log. -/
def loadLog (files : FileTree) (p : Path) : List LogLine :=
  if files.has p then []
  else [⟨.debug, "No config file at " ++ p.quoted ++ ", using defaults"⟩]

/-- Makes sure that a field is a URL. -/
def checkUrl (field url : String) : Except Failure Unit :=
  match Url.read url with
  | .ok _ => .ok ()
  | .error e =>
    .error (.ofCause (.config ("Invalid " ++ field ++ " '" ++ url ++ "': " ++ e.message)))

/-- Makes sure that a run can start with a configuration. -/
def validate (c : Config) : Except Failure Unit := do
  checkUrl "examples_url" c.examplesUrl
  checkUrl "listing_url" c.listingUrl
  if (Text.trim c.outputDir.toList).isEmpty then
    throw (.ofCause (.config "output_dir must not be empty"))

end Config
end UiSkeleton
