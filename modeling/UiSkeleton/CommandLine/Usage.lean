/-
The arguments of the command line, the texts that explain them, and what is said about arguments
that do not fit.
-/
import UiSkeleton.Text.Similarity

namespace UiSkeleton.CommandLine

/-- The name of the program. -/
def program : String := "uiport"

/-- The version of the program. -/
def version : String := "0.1.0"

/-- A flag. -/
inductive Flag where
  | list
  | help
  | version
  deriving DecidableEq, Repr

namespace Flag

/-- All flags. -/
def all : List Flag := [.list, .help, .version]

/-- The long name of a flag. -/
def name : Flag → String
  | .list => "list"
  | .help => "help"
  | .version => "version"

/-- The letter of a flag, if it has one. -/
def letter? : Flag → Option Char
  | .list => none
  | .help => some 'h'
  | .version => some 'V'

/-- The flag as it is given. -/
def text (f : Flag) : String := "--" ++ f.name

/-- The flag with a long name. -/
def ofName? (name : String) : Option Flag := all.find? (·.name == name)

/-- The flag with a letter. -/
def ofLetter? (letter : Char) : Option Flag := all.find? (·.letter? == some letter)

/-- The flag whose name is most like a text. -/
def like? (text : String) : Option Flag :=
  (Text.mostAlike? text.toList (all.map name)).bind ofName?

end Flag

/-- An argument that was given: a flag, or the example to convert. -/
inductive Argument where
  | flag (f : Flag)
  | exampleName
  deriving DecidableEq, Repr

/-- The argument as messages name it. -/
def Argument.text : Argument → String
  | .flag f => f.text
  | .exampleName => "[EXAMPLE]"

/-- The flag that an argument is. -/
def Argument.flag? : Argument → Option Flag
  | .flag f => some f
  | .exampleName => none

/-- The form of a command line, with the arguments that were given. -/
def usage (given : List Argument) : String :=
  let flags := (given.filterMap Argument.flag?).eraseDups
  let options := if given.isEmpty then " [OPTIONS]"
    else String.join (flags.map (" " ++ ·.text))
  program ++ options ++ (if given.contains .exampleName then " <EXAMPLE>" else " [EXAMPLE]")

/-- What is wrong with a command line. -/
inductive UsageProblem where
  /-- An argument that does not exist, and what was perhaps meant. -/
  | unexpectedArgument (text : String) (tip : Option String)
  | unexpectedValue (value : String) (flag : Flag)
  | repeated (flag : Flag)
  | conflict (first second : Argument)
  | noExample
  deriving DecidableEq, Repr

/-- What is said about a problem. -/
def UsageProblem.message : UsageProblem → String
  | .unexpectedArgument text tip =>
    "unexpected argument '" ++ text ++ "' found" ++ (match tip with
      | none => ""
      | some tip => "\n\n  tip: " ++ tip)
  | .unexpectedValue value flag =>
    "unexpected value '" ++ value ++ "' for '" ++ flag.text ++ "' found; no more were expected"
  | .repeated flag => "the argument '" ++ flag.text ++ "' cannot be used multiple times"
  | .conflict first second =>
    "the argument '" ++ first.text ++ "' cannot be used with '" ++ second.text ++ "'"
  | .noExample => "the following required arguments were not provided:\n  <EXAMPLE>"

/-- A command line that does not fit. -/
structure UsageError where
  problem : UsageProblem
  /-- The arguments for which the usage is shown. -/
  given : List Argument
  deriving DecidableEq, Repr

/-- What is said about a command line that does not fit. -/
def UsageError.report (e : UsageError) : String :=
  "error: " ++ e.problem.message ++ "\n\nUsage: " ++ usage e.given ++
    "\n\nFor more information, try '--help'.\n"

/-- The version, as it is shown. -/
def versionText : String := program ++ " " ++ version ++ "\n"

/-- The short explanation. -/
def shortHelp : String :=
  "Generate ZapUI skeletons from GPUI examples\n\nUsage: " ++ usage [] ++
    "\n\nArguments:\n" ++
    "  [EXAMPLE]  Example to port (e.g. 'hello_world')\n\nOptions:\n" ++
    "      --list     List the available examples\n" ++
    "  -h, --help     Print help (see more with '--help')\n" ++
    "  -V, --version  Print version\n"

/-- The long explanation. -/
def longHelp : String :=
  "uiport downloads a GPUI example, analyzes it and writes a ZapUI skeleton.\n\nEXAMPLES:\n" ++
    "    uiport hello_world        # Port the hello_world example\n" ++
    "    uiport shadow.rs          # The .rs extension is optional\n" ++
    "    uiport --list             # List the available examples\n\nCONFIGURATION:\n" ++
    "    Settings are read from uiport.json in the working directory, or from the\n" ++
    "    file named by the UIPORT_CONFIG environment variable. Defaults are used\n" ++
    "    when neither exists.\n\nUsage: " ++ usage [] ++
    "\n\nArguments:\n  [EXAMPLE]\n          Example to port (e.g. 'hello_world')\n\nOptions:\n" ++
    "      --list\n          List the available examples\n\n" ++
    "  -h, --help\n          Print help (see a summary with '-h')\n\n" ++
    "  -V, --version\n          Print version\n"

end UiSkeleton.CommandLine
