import Converge.Cli.Command
import Converge.Log.Filter
import Converge.Timestamp
/-!
# The log of the command line

Which lines of the log are written, and how: as text with colours, or as a JSON object per line.
-/

namespace Converge.Cli

/-- The part of a program that this one is to a filter. -/
def logPart : String := "apprun_provisioner"

/-- The variable of the environment that holds the filter. -/
def logVariable : String := "RUST_LOG"

/-- How the log is written. -/
structure Logging where
  filter : LogFilter
  format : OutputFormat
  /-- Whether lines of text have colours. -/
  coloured : Bool
  deriving DecidableEq, Repr, Inhabited

namespace Logging

/-- The filter when the environment has none that can be read. -/
def usualFilter : LogFilter := .upTo Level.info.verbosity

/-- The log for an invocation: more is logged when it asks for that, or else what the environment
says. -/
def ofInvocation (environment : String → Option String) (i : Invocation) : Logging :=
  { format := i.logFormat
    coloured := ((environment "NO_COLOR").getD "").isEmpty
    filter :=
      if i.verbose then .upTo Level.debug.verbosity
      else ((environment logVariable).bind LogFilter.ofText?).getD usualFilter }

/-- Whether a line is written. -/
def shows (l : Logging) (level : Level) : Bool := l.filter.shows logPart level

/-- The colour of a level. -/
def levelStyle : Level → Style
  | .trace => .purple
  | .debug => .blue
  | .info => .green
  | .warn => .yellow
  | .error => .red

/-- A point in time, in millionths of a second. -/
def timeText (t : Timestamp) : String :=
  t.dateText ++ "T" ++ t.clockText ++ "." ++ padded 6 (t.nanos / 1000) ++ "Z"

/-- A character of a line; what could steer a terminal is named. -/
def plainChar (c : Char) : List Char :=
  let n := c.toNat
  let digits := Nat.toDigits 16 n
  if n = 7 || n = 8 || n = 12 || n = 27 || n = 127 then
    ['\\', 'x'] ++ List.replicate (2 - digits.length) '0' ++ digits
  else if 128 ≤ n && n ≤ 159 then ['\\', 'u', '\x7b'] ++ digits ++ ['\x7d']
  else [c]

/-- The text of a line without anything that could steer a terminal. -/
def plainText (s : String) : String := String.ofList (s.toList.flatMap plainChar)

/-- A line of the log. -/
def line (l : Logging) (time : Timestamp) (level : Level) (text : String) : String :=
  match l.format with
  | .text =>
    let word := String.ofList (List.replicate (5 - level.word.length) ' ') ++ level.word
    Style.dimmed.paint l.coloured (timeText time) ++ " "
      ++ (levelStyle level).paint l.coloured word ++ " " ++ plainText text ++ "\n"
  | .json =>
    Json.compact (.table [("timestamp", .text (timeText time)), ("level", .text level.word),
      ("fields", .table [("message", .text text)])]) ++ "\n"

end Logging

end Converge.Cli
