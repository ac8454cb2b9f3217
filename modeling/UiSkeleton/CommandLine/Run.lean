/-
Runs of the program: what a command line does with a tree of files and a network, as one function.
-/
import UiSkeleton.CommandLine.Command
import UiSkeleton.Conversion

namespace UiSkeleton.CommandLine

/-- How a run ends. -/
structure Ending where
  exitCode : Nat
  output : String
  /-- The lines that the log keeps. -/
  log : List LogLine
  /-- What follows the log. -/
  complaint : String
  files : FileTree

/-- What a run works with. -/
structure Setting where
  /-- The value of the variable that names the file of the configuration. -/
  configVariable : Option String
  network : Network
  files : FileTree

/-- What a list of examples looks like. -/
def listText (names : List String) : String :=
  "Available GPUI examples:\n" ++ String.join (names.map fun name => "  " ++ name ++ "\n")

/-- What the log says after a conversion. -/
def closingLines (o : Outcome) : List LogLine :=
  let fontLines : List LogLine := match o.font with
    | .copied _ => []
    | .missing source target => [⟨.info, "   Font missing: copy " ++ source.quoted ++ " to " ++
        target.quoted ++ " by hand"⟩]
  [⟨.info, "✅ Generated " ++ o.skeletonPath.quoted⟩,
    ⟨.info, "   Report: " ++ o.reportPath.quoted⟩,
    ⟨.info, "   Screenshots go in " ++ o.screenshots.quoted⟩] ++ fontLines ++
    [⟨.info, "   Edit the skeleton and add it to build.zig to compile."⟩]

/-- The work that a command asks for, with what it prints. -/
def work (c : Converter) : Command → Run String
  | .list => do return listText (← c.list)
  | .convert raw => do
    let outcome ← c.convert raw
    Run.say (closingLines outcome)
    return ""
  | .help _ | .version => return ""

/-- The converter that a setting gives, or why it gives none. -/
def converter (s : Setting) : Except Failure Converter := do
  let config ← Config.load s.files (Config.file s.configVariable)
  let remote := RemoteExamples.ofUrls config.examplesUrl config.listingUrl
  Converter.ofConfig config (remote.source s.network)

/-- The log before the configuration is known. -/
def openingLog (s : Setting) : List LogLine :=
  keptLines .info (Config.loadLog s.files (Config.file s.configVariable))

/-- Runs a command that needs a converter. -/
def runWork (s : Setting) (command : Command) : Ending :=
  let opening := openingLog s
  match converter s with
  | .error f => ⟨1, "", opening, f.report, s.files⟩
  | .ok c =>
    let (result, after) := (work c command).run (Session.start s.files)
    let log := opening ++ keptLines c.config.logLevel after.log
    match result with
    | .ok output => ⟨0, output, log, "", after.files⟩
    | .error f => ⟨1, "", log, f.report, after.files⟩

/-- Runs the program. -/
def run (s : Setting) (arguments : List String) : Ending :=
  match Command.read arguments with
  | .error e => ⟨2, "", [], e.report, s.files⟩
  | .ok (.help long) => ⟨0, if long then longHelp else shortHelp, [], "", s.files⟩
  | .ok .version => ⟨0, versionText, [], "", s.files⟩
  | .ok command => runWork s command

/-- What a run writes to the log's stream: the log, with some text as its clock, and the
complaint. -/
def Ending.errorText (e : Ending) (clock : String) : String :=
  String.join (e.log.map fun line => line.render clock ++ "\n") ++ e.complaint

end UiSkeleton.CommandLine
