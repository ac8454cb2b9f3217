/-
Log lines. A run collects its lines in order; a filter keeps those of its own level and the graver
ones.
-/

namespace UiSkeleton

/-- How grave a log line is, and which lines a log keeps. -/
inductive LogLevel where
  | error
  | warn
  | info
  | debug
  | trace
  deriving DecidableEq, Repr

namespace LogLevel

/-- The place of a level, the gravest first. -/
def rank : LogLevel → Nat
  | .error => 0
  | .warn => 1
  | .info => 2
  | .debug => 3
  | .trace => 4

/-- All levels, the gravest first. -/
def all : List LogLevel := [.error, .warn, .info, .debug, .trace]

/-- The name of a level in a configuration. -/
def name : LogLevel → String
  | .error => "error"
  | .warn => "warn"
  | .info => "info"
  | .debug => "debug"
  | .trace => "trace"

/-- Whether a log that is kept at the level `limit` takes a line of this level. -/
def within (level limit : LogLevel) : Bool := level.rank ≤ limit.rank

end LogLevel

/-- A line of the log. -/
structure LogLine where
  level : LogLevel
  message : String
  deriving DecidableEq, Repr

namespace LogLine

/-- The mark that stands before the message, and the number of the color on a terminal. -/
def decoration : LogLevel → String × String
  | .error => ("❌", "1;31")
  | .warn => ("⚠️ ", "1;33")
  | .info => ("  ", "1;32")
  | .debug => ("🔍", "1;36")
  | .trace => ("📋", "1;35")

/-- The line on a terminal, with the text of the clock. -/
def render (line : LogLine) (clock : String) : String :=
  let (mark, color) := decoration line.level
  "\x1b[" ++ color ++ "m" ++ clock ++ " " ++ mark ++ " " ++ line.message ++ "\x1b[0m"

end LogLine

/-- The lines that a log at a level keeps. -/
def keptLines (limit : LogLevel) (log : List LogLine) : List LogLine :=
  log.filter (·.level.within limit)

end UiSkeleton
