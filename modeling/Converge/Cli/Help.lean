import Converge.Cli.Switch
/-!
# Help

What is shown instead of carrying out a command line: help and the version when they were asked
for, and what is wrong with a command line together with its usage.
-/

namespace Converge.Cli

/-- The name of the program. -/
def programName : String := "apprun-provisioner"

/-- The version of the program. -/
def programVersion : String := "0.1.0"

namespace Help

/-- A line of a list, its second column at a fixed place. -/
def row (width : Nat) (name about : String) : String :=
  "  " ++ name ++ String.ofList (List.replicate (width - name.length) ' ') ++ "  " ++ about ++ "\n"

/-- Rows whose second columns begin at one place. -/
def rows (entries : List (String × String)) : String :=
  let width := (entries.map (·.1.length)).foldl max 0
  String.join (entries.map fun (name, about) => row width name about)

/-- The name of the value that an option takes. -/
def valueName : Want → String
  | .flag => ""
  | .path => " <PATH>"
  | .text => " <TEXT>"
  | .number => " <NUMBER>"
  | .format => " <FORMAT>"

/-- How an option is written. -/
def switchName (w : Switch) : String :=
  let short := match w.short with
    | some c => "-" ++ String.singleton c ++ ", "
    | none => "    "
  short ++ "--" ++ w.long ++ valueName w.want

/-- How the words at a place are written. -/
def usage : Scope → String
  | .top => "Usage: " ++ programName ++ " [OPTIONS] <COMMAND>\n"
  | .command w =>
    "Usage: " ++ programName ++ " " ++ w.text ++ " [OPTIONS]"
      ++ (if w.takesOperand then " <CLUSTER>" else "") ++ "\n"

/-- The list of the commands. -/
def commands : String :=
  "\nCommands:\n" ++ rows (Word.all.map fun w => (w.text, w.summary))

/-- The help for a place. -/
def text (scope : Scope) : String :=
  let about := match scope with
    | .top => "Declarative AppRun Dedicated cluster reconciler"
    | .command w => w.summary
  about ++ "\n\n" ++ usage scope
    ++ (match scope with
      | .top => commands
      | .command _ => "")
    ++ "\nOptions:\n" ++ rows (scope.switches.map fun w => (switchName w, w.summary))

/-- The name of the program at a place. -/
def nameAt : Scope → String
  | .top => programName
  | .command w => programName ++ "-" ++ w.text

end Help

namespace Refusal

/-- What is wrong with a command line. -/
def reason : Refusal → String
  | .help _ | .version _ | .nothingGiven => ""
  | .missingCommand => "a command is missing"
  | .unknownCommand => "there is no such command"
  | .unknownArgument => "unexpected argument"
  | .missingArgument => "an argument of the command is missing"
  | .invalidValue => "an option lacks its value or has one that it does not take"
  | .badNumber => "the value of an option is not a number in range"
  | .repeated => "an option is given twice"
  | .needlessValue => "a flag takes no value"

/-- What is shown. -/
def text : Refusal → String
  | .help scope => Help.text scope
  | .version scope => Help.nameAt scope ++ " " ++ programVersion ++ "\n"
  | .nothingGiven => Help.text .top
  | r => "error: " ++ r.reason ++ "\n\n" ++ Help.usage .top ++ "\nFor more information, try '--help'.\n"

end Refusal

end Converge.Cli
