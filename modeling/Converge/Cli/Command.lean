import Converge.Cli.Output
import Converge.Files.Path
/-!
# Command lines

What a command line asks for: a command with its arguments, and the settings that go with every
command.  `Refusal` lists why a command line is not carried out.
-/

namespace Converge.Cli

/-- The words that name a command. -/
inductive Word where
  | validate
  | plan
  | apply
  | versions
  | diff
  | activate
  | dump
  deriving DecidableEq, Repr, Inhabited

namespace Word

def all : List Word := [.validate, .plan, .apply, .versions, .diff, .activate, .dump]

def text : Word → String
  | .validate => "validate"
  | .plan => "plan"
  | .apply => "apply"
  | .versions => "versions"
  | .diff => "diff"
  | .activate => "activate"
  | .dump => "dump"

/-- The command that a text names. -/
def ofText? (t : String) : Option Word := all.find? fun w => w.text = t

/-- A command is named by its own word only. -/
theorem ofText?_text (w : Word) : ofText? w.text = some w := by cases w <;> decide

/-- Whether a command works on something that is named without an option. -/
def takesOperand (w : Word) : Bool := w = .dump

end Word

/-- What is to be done. -/
inductive Command where
  /-- Checks the configuration. -/
  | validate (warnings : Bool)
  /-- Shows what an apply would do. -/
  | plan
  /-- Makes the cluster as it is configured. -/
  | apply (activate autoApprove : Bool)
  /-- Lists the versions of an application. -/
  | versions (app : String)
  /-- Compares two versions of an application. -/
  | diff (app : String) (before after : Option Int32)
  /-- Makes a version of an application the active one. -/
  | activate (app : String) (target : Option Int32)
  /-- Shows a live cluster as a configuration. -/
  | dump (cluster : String)
  deriving DecidableEq, Repr, Inhabited

namespace Command

def word : Command → Word
  | .validate _ => .validate
  | .plan => .plan
  | .apply _ _ => .apply
  | .versions _ => .versions
  | .diff _ _ _ => .diff
  | .activate _ _ => .activate
  | .dump _ => .dump

/-- Whether a command reads the configuration. -/
def needsConfig : Command → Bool
  | .dump _ => false
  | _ => true

end Command

/-- A command with the settings that go with every command. -/
structure Invocation where
  /-- The path of the configuration; without it, one is looked for. -/
  config : Option Path
  verbose : Bool
  output : OutputFormat
  logFormat : OutputFormat
  /-- The address of the control plane, if it is not the usual one. -/
  apiUrl : Option String
  command : Command
  deriving DecidableEq, Repr, Inhabited

/-- Where an option stands: before the word that names a command, or after it. -/
inductive Scope where
  | top
  | command (w : Word)
  deriving DecidableEq, Repr, Inhabited

/-- Why a command line is not carried out. -/
inductive Refusal where
  /-- Help was asked for. -/
  | help (scope : Scope)
  /-- The version was asked for. -/
  | version (scope : Scope)
  /-- There is nothing on the command line. -/
  | nothingGiven
  | missingCommand
  | unknownCommand
  | unknownArgument
  | missingArgument
  /-- An option lacks its value, or the value is none of those that it takes. -/
  | invalidValue
  /-- The value of an option is not a number in range. -/
  | badNumber
  /-- An option is there twice. -/
  | repeated
  /-- A flag has a value. -/
  | needlessValue
  deriving DecidableEq, Repr, Inhabited

namespace Refusal

/-- Whether what was asked for is shown, or a command line is wrong. -/
def isAnswer : Refusal → Bool
  | .help _ | .version _ => true
  | _ => false

/-- The code to exit with. -/
def exitCode (r : Refusal) : UInt8 := if r.isAnswer then 0 else 2

end Refusal

end Converge.Cli
