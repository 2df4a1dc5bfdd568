import Converge.Cli.Command
import Converge.Number.Decimal
/-!
# Options

The options of the command line: their names, what they take, and the variables of the
environment that stand in for them.
-/

namespace Converge.Cli

/-- The options. -/
inductive Switch where
  | config
  | verbose
  | output
  | logFormat
  | apiUrl
  | warnings
  | activate
  | autoApprove
  | app
  | before
  | after
  | target
  | help
  | version
  deriving DecidableEq, Repr, Inhabited

/-- What an option takes. -/
inductive Want where
  /-- Nothing: it is there or not. -/
  | flag
  /-- A path, which is not empty. -/
  | path
  | text
  /-- The number of a version. -/
  | number
  | format
  deriving DecidableEq, Repr, Inhabited

/-- The value of an option. -/
inductive Setting where
  | flag
  | path (p : Path)
  | text (s : String)
  | number (n : Int32)
  | format (f : OutputFormat)
  deriving DecidableEq, Repr, Inhabited

/-- The form that a word stands for. -/
def OutputFormat.ofWord? (w : String) : Option OutputFormat :=
  [OutputFormat.text, .json].find? fun f => f.word = w

/-- Reads the value of an option. -/
def Want.read (want : Want) (value : String) : Except Refusal Setting :=
  match want with
  | .flag => .ok .flag
  | .path => if value.isEmpty then .error .invalidValue else .ok (.path (Path.ofText value))
  | .text => .ok (.text value)
  | .number =>
    match signed? value with
    | some n => if -2147483648 ≤ n && n ≤ 2147483647 then .ok (.number (Int32.ofInt n))
      else .error .badNumber
    | none => .error .badNumber
  | .format =>
    match OutputFormat.ofWord? value with
    | some f => .ok (.format f)
    | none => .error .invalidValue

namespace Switch

/-- The letter of an option. -/
def short : Switch → Option Char
  | .config => some 'c'
  | .verbose => some 'v'
  | .warnings => some 'w'
  | .autoApprove => some 'y'
  | .app => some 'a'
  | .target => some 't'
  | .help => some 'h'
  | .version => some 'V'
  | _ => none

/-- The name of an option. -/
def long : Switch → String
  | .config => "config"
  | .verbose => "verbose"
  | .output => "output"
  | .logFormat => "log-format"
  | .apiUrl => "api-url"
  | .warnings => "warnings"
  | .activate => "activate"
  | .autoApprove => "auto-approve"
  | .app => "app"
  | .before => "from"
  | .after => "to"
  | .target => "target"
  | .help => "help"
  | .version => "version"

/-- What an option takes. -/
def want : Switch → Want
  | .config => .path
  | .output | .logFormat => .format
  | .apiUrl | .app => .text
  | .before | .after | .target => .number
  | _ => .flag

/-- The variable of the environment that stands in for an option. -/
def standIn? : Switch → Option String
  | .config => some "APPRUN_CONFIG"
  | .apiUrl => some "APPRUN_API_URL"
  | _ => none

/-- What an option does, in a few words. -/
def summary : Switch → String
  | .config => "Path to the configuration file"
  | .verbose => "Enable verbose output"
  | .output => "Output format (text, json)"
  | .logFormat => "Log format (text, json)"
  | .apiUrl => "Override the AppRun Dedicated API base URL"
  | .warnings => "Show all warnings, not just errors"
  | .activate => "Activate newly created application versions"
  | .autoApprove => "Skip the confirmation prompt"
  | .app => "Application name"
  | .before => "Base version (defaults to the active version)"
  | .after => "Compared version (defaults to the latest version)"
  | .target => "Version to activate (defaults to the latest version)"
  | .help => "Print help"
  | .version => "Print version"

end Switch

/-- What a command does, in a few words. -/
def Word.summary : Word → String
  | .validate => "Validate the cluster configuration"
  | .plan => "Compare the configuration with the live cluster and print the plan"
  | .apply => "Apply the plan to the live cluster"
  | .versions => "List the versions of an application"
  | .diff => "Show the differences between two versions of an application"
  | .activate => "Activate a version of an application"
  | .dump => "Print the live cluster as a configuration file"

/-- The options of a command of its own. -/
def Word.switches : Word → List Switch
  | .validate => [.warnings]
  | .plan => []
  | .apply => [.activate, .autoApprove]
  | .versions => [.app]
  | .diff => [.app, .before, .after]
  | .activate => [.app, .target]
  | .dump => []

/-- The options that go with every command. -/
def Switch.shared : List Switch :=
  [.config, .verbose, .output, .logFormat, .apiUrl, .help, .version]

namespace Scope

/-- The options that may stand at a place. -/
def switches : Scope → List Switch
  | .top => Switch.shared
  | .command w => w.switches ++ Switch.shared

/-- The option with a letter. -/
def short? (s : Scope) (letter : Char) : Option Switch :=
  s.switches.find? fun w => w.short = some letter

/-- The option with a name. -/
def long? (s : Scope) (name : String) : Option Switch :=
  s.switches.find? fun w => w.long = name

end Scope

end Converge.Cli
