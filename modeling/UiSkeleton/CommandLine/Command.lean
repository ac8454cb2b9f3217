/-
Reading the command line. Arguments count from left to right: the first that does not fit, or that
asks for an explanation or the version, decides. Only at the end is it seen whether the arguments
fit each other.
-/
import UiSkeleton.CommandLine.Usage

namespace UiSkeleton.CommandLine

/-- What the program is asked to do. -/
inductive Command where
  /-- Explain the arguments, at length or in short. -/
  | help (long : Bool)
  | version
  | list
  | convert (raw : String)
  deriving DecidableEq, Repr

/-- What was given so far. -/
structure Given where
  /-- The arguments in order. -/
  arguments : List Argument
  /-- The example to convert. -/
  example? : Option String

namespace Given

/-- Adds the flag for the list. -/
def addList (g : Given) : Except UsageError Given :=
  if g.arguments.contains (.flag .list) then .error ⟨.repeated .list, []⟩
  else .ok { g with arguments := g.arguments ++ [.flag .list] }

/-- Adds the example to convert. -/
def addExample (g : Given) (text : String) : Except UsageError Given :=
  match g.example? with
  | some _ => .error ⟨.unexpectedArgument text none, []⟩
  | none => .ok ⟨g.arguments ++ [.exampleName], some text⟩

/-- What all arguments together ask for. -/
def command (g : Given) : Except UsageError Command :=
  match g.arguments, g.example? with
  | first :: second :: _, _ => .error ⟨.conflict first second, [first]⟩
  | _, some raw => .ok (.convert raw)
  | [.flag .list], none => .ok .list
  | _, none => .error ⟨.noExample, [.exampleName]⟩

/-- What is said about an argument that looks like a flag and is none. -/
def unknownFlag (g : Given) (name : String) : UsageError :=
  let text := "--" ++ name
  match Flag.like? name with
  | some flag =>
    ⟨.unexpectedArgument text (some ("a similar argument exists: '" ++ flag.text ++ "'")),
      g.arguments ++ [.flag flag]⟩
  | none => ⟨.unexpectedArgument text (some (valueTip text)), g.arguments⟩
where
  /-- How to give a text that looks like a flag. -/
  valueTip (text : String) : String :=
    "to pass '" ++ text ++ "' as a value, use '-- " ++ text ++ "'"

end Given

/-- The text before the first equals sign, and the text behind it. -/
def cutValue (cs : List Char) : String × Option String :=
  match cs.span (· != '=') with
  | (name, []) => (String.ofList name, none)
  | (name, _ :: value) => (String.ofList name, some (String.ofList value))

/-- The command that a letter behind one hyphen asks for at once. -/
def letterCommand (letter : Char) : Except UsageError Command :=
  match Flag.ofLetter? letter with
  | some .help => .ok (.help false)
  | some .version => .ok .version
  | _ =>
    let text := "-" ++ String.singleton letter
    .error ⟨.unexpectedArgument text (some (Given.unknownFlag.valueTip text)), []⟩

/-- Reads the arguments; behind two hyphens that stand alone, `plain`, none is a flag. -/
def readFrom (g : Given) (plain : Bool) : List String → Except UsageError Command
  | [] => g.command
  | argument :: more =>
    match plain, argument.toList with
    | false, ['-', '-'] => readFrom g true more
    | false, '-' :: '-' :: rest =>
      let (name, value?) := cutValue rest
      match Flag.ofName? name, value? with
      | none, _ => .error (g.unknownFlag name)
      | some flag, some value => .error ⟨.unexpectedValue value flag, g.arguments ++ [.flag flag]⟩
      | some .help, none => .ok (.help true)
      | some .version, none => .ok .version
      | some .list, none => do readFrom (← g.addList) plain more
    | false, '-' :: letter :: _ => letterCommand letter
    | _, _ => do readFrom (← g.addExample argument) plain more

/-- What a command line asks for. -/
def Command.read (arguments : List String) : Except UsageError Command :=
  readFrom ⟨[], none⟩ false arguments

end UiSkeleton.CommandLine
