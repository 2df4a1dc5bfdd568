import Converge.Cli.Switch
/-!
# Reading a command line

A command line is read word by word.  Options may stand before and after the word that names the
command, those of the command only after it.  The value of an option follows it, with a sign of
equality or as a word of its own; a word that begins like an option is never such a value.  After
two dashes every word is an operand.
-/

namespace Converge.Cli

/-- What was read of the words at one place. -/
structure Scan where
  /-- The options with their values, in the order in which they were recorded. -/
  given : List (Switch × Setting)
  /-- The latest option that takes a value, until it is recorded; the value may be missing. -/
  pending : Option (Switch × Option String)
  operand : Option String
  /-- Whether two dashes were read. -/
  operandsOnly : Bool
  deriving Repr, Inhabited

/-- What comes after the words at a place. -/
inductive Ahead where
  | nothing
  /-- The word that asks for help, and the words after it. -/
  | help (rest : List String)
  /-- The word that names a command, and the words after it. -/
  | command (w : Word) (rest : List String)
  deriving Repr, Inhabited

namespace Scan

def empty : Scan := ⟨[], none, none, false⟩

/-- Whether the next word may be the value of an option. -/
def waits (s : Scan) : Bool :=
  !s.operandsOnly && match s.pending with
    | some (_, none) => true
    | _ => false

/-- Records an option; none is recorded twice. -/
def record (s : Scan) (w : Switch) (value : String) : Except Refusal Scan :=
  if s.given.any (·.1 = w) then .error .repeated
  else (w.want.read value).map fun setting => { s with given := s.given ++ [(w, setting)] }

/-- Records the latest option. -/
def settle (s : Scan) : Except Refusal Scan :=
  match s.pending with
  | none => .ok s
  | some (_, none) => .error .invalidValue
  | some (w, some value) => { s with pending := none }.record w value

/-- Takes an option, with the value that is attached to it. -/
def meet (scope : Scope) (s : Scan) (w : Switch) (attached : Option String) :
    Except Refusal Scan := do
  let s ← s.settle
  match w, w.want, attached with
  | .help, _, _ => .error (.help scope)
  | .version, _, _ => .error (.version scope)
  | _, .flag, _ => s.record w ""
  | _, _, some value => s.record w value
  | _, _, none => .ok { s with pending := some (w, none) }

/-- Takes the option with a name. -/
def meetLong (scope : Scope) (s : Scan) (name : String) (attached : Option String) :
    Except Refusal Scan :=
  match scope.long? name with
  | none => .error .unknownArgument
  | some w =>
    if w.want = .flag && attached.isSome then .error .needlessValue else s.meet scope w attached

/-- Takes the options with letters; what follows an option that takes a value is the value. -/
def meetShort (scope : Scope) : List Char → Scan → Except Refusal Scan
  | [], s => .ok s
  | letter :: rest, s =>
    match scope.short? letter with
    | none => .error .unknownArgument
    | some w =>
      if w.want = .flag then do meetShort scope rest (← s.meet scope w none)
      else
        match rest with
        | [] => s.meet scope w none
        | '=' :: value => s.meet scope w (some (String.ofList value))
        | value => s.meet scope w (some (String.ofList value))

/-- Takes a word that is no option. -/
def meetPlain (scope : Scope) (s : Scan) (text : String) : Except Refusal Scan :=
  match s.waits, s.pending with
  | true, some (w, _) => .ok { s with pending := some (w, some text) }
  | _, _ =>
    match scope with
    | .top =>
      let isCommand := text = "help" || (Word.ofText? text).isSome
      .error (if s.operandsOnly && isCommand then .unknownArgument else .unknownCommand)
    | .command w =>
      if w.takesOperand && s.operand.isNone then
        s.settle.map fun s => { s with operand := some text }
      else .error .unknownArgument

/-- A name and the value after the first sign of equality. -/
def splitValue (cs : List Char) : String × Option String :=
  let isName := fun c => c ≠ '='
  match cs.dropWhile isName with
  | [] => (String.ofList cs, none)
  | _ :: value => (String.ofList (cs.takeWhile isName), some (String.ofList value))

/-- Takes a word. -/
def step (scope : Scope) (s : Scan) (text : String) : Except Refusal Scan :=
  if s.operandsOnly then s.meetPlain scope text
  else
    match text.toList with
    | ['-', '-'] => .ok { s with operandsOnly := true }
    | '-' :: '-' :: rest =>
      let (name, value) := splitValue rest
      s.meetLong scope name value
    | ['-'] => s.meetPlain scope text
    | '-' :: letters => meetShort scope letters s
    | _ => s.meetPlain scope text

/-- The word that ends the options before it. -/
def ahead? (scope : Scope) (s : Scan) (text : String) (rest : List String) : Option Ahead :=
  if scope ≠ .top || s.operandsOnly || s.waits then none
  else if text = "help" then some (.help rest)
  else (Word.ofText? text).map fun w => .command w rest

/-- Reads the words at a place. -/
def words (scope : Scope) : List String → Scan → Except Refusal (Scan × Ahead)
  | [], s => .ok (s, .nothing)
  | text :: rest, s =>
    match ahead? scope s text rest with
    | some ahead => .ok (s, ahead)
    | none => do words scope rest (← s.step scope text)

end Scan

/-- The options at a place, those that the environment stands in for included. -/
structure Settings where
  given : List (Switch × Setting)
  borrowed : List (Switch × Setting)
  operand : Option String
  deriving Repr, Inhabited

namespace Settings

/-- Ends the reading at a place: the environment stands in for what is not given. -/
def ofScan (scope : Scope) (environment : String → Option String) (s : Scan) :
    Except Refusal Settings := do
  let s ← s.settle
  let missing := scope.switches.filter fun w => !s.given.any (·.1 = w)
  let borrowed ← missing.filterMapM fun w =>
    match w.standIn?.bind environment with
    | none => .ok none
    | some value => (w.want.read value).map fun setting => some (w, setting)
  return ⟨s.given, borrowed, s.operand⟩

/-- The settings of a command, filled up by those before it. -/
def filledBy (inner outer : Settings) : Settings :=
  ⟨inner.given ++ outer.given, inner.borrowed ++ outer.borrowed, inner.operand⟩

def isEmpty (s : Settings) : Bool := s.given.isEmpty && s.borrowed.isEmpty

/-- The value of an option; what is given comes before what the environment says. -/
def get? (s : Settings) (w : Switch) : Option Setting :=
  (s.given.lookup w).or (s.borrowed.lookup w)

def has (s : Settings) (w : Switch) : Bool := (s.get? w).isSome

def text? (s : Settings) (w : Switch) : Option String :=
  match s.get? w with
  | some (.text t) => some t
  | _ => none

def path? (s : Settings) (w : Switch) : Option Path :=
  match s.get? w with
  | some (.path p) => some p
  | _ => none

def number? (s : Settings) (w : Switch) : Option Int32 :=
  match s.get? w with
  | some (.number n) => some n
  | _ => none

def format (s : Settings) (w : Switch) : OutputFormat :=
  match s.get? w with
  | some (.format f) => f
  | _ => .text

/-- The command that a word names with the settings after it; none if an argument is missing. -/
def command? (s : Settings) : Word → Option Command
  | .validate => some (.validate (s.has .warnings))
  | .plan => some .plan
  | .apply => some (.apply (s.has .activate) (s.has .autoApprove))
  | .versions => (s.text? .app).map .versions
  | .diff => (s.text? .app).map fun app => .diff app (s.number? .before) (s.number? .after)
  | .activate => (s.text? .app).map fun app => .activate app (s.number? .target)
  | .dump => s.operand.map .dump

/-- The invocation for a command. -/
def invocation (s : Settings) (c : Command) : Invocation :=
  ⟨s.path? .config, s.has .verbose, s.format .output, s.format .logFormat, s.text? .apiUrl, c⟩

end Settings

namespace Invocation

/-- What is answered when the words after the word for help are these. -/
def helpFor : Scope → List String → Refusal
  | scope, [] => .help scope
  | .top, word :: rest =>
    match Word.ofText? word with
    | some w => helpFor (.command w) rest
    | none => if word = "help" && rest.isEmpty then .help .top else .unknownCommand
  | .command _, _ :: _ => .unknownCommand

/-- Reads a command line. -/
def read (environment : String → Option String) (arguments : List String) :
    Except Refusal Invocation := do
  match ← Scan.words .top arguments .empty with
  | (_, .help rest) => .error (helpFor .top rest)
  | (outer, .nothing) =>
    let outer ← Settings.ofScan .top environment outer
    .error (if outer.isEmpty then .nothingGiven else .missingCommand)
  | (outer, .command w rest) =>
    let scope := Scope.command w
    let (inner, _) ← Scan.words scope rest .empty
    let inner ← Settings.ofScan scope environment inner
    match inner.command? w with
    | none => .error .missingArgument
    | some command =>
      let outer ← Settings.ofScan .top environment outer
      return (inner.filledBy outer).invocation command

end Invocation

end Converge.Cli
