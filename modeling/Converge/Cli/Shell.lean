import Converge.Cli.Help
import Converge.Cli.Logging
import Converge.Cli.Run
/-!
# The program as a whole

A shell runs the program with arguments and an environment, and answers the few questions that
are left when the questions of sessions have been turned into requests, those of the ledger into
steps on files, and the lines of the log into text.
-/

namespace Converge.Cli

namespace Shell

/-- What the program asks its shell. -/
inductive Question where
  | file (q : Files.Question)
  | send (r : Http.Request)
  | sleep (milliseconds : Nat)
  /-- Milliseconds on a clock that never goes back. -/
  | clock
  /-- The date and time of day. -/
  | now
  | readLine
  /-- Writes to the standard output. -/
  | write (text : String)
  /-- Writes to the standard error. -/
  | writeError (text : String)

/-- What the program is answered with. -/
@[reducible] def Question.Reply : Question → Type
  | .file q => q.Reply
  | .send _ => Option Http.Response
  | .sleep _ => Unit
  | .clock => Nat
  | .now => Timestamp
  | .readLine => Except FileError String
  | .write _ => Unit
  | .writeError _ => Unit

/-- The questions to a shell and its answers. -/
@[reducible] def interface : Interface := ⟨Question, Question.Reply⟩

/-- A single question. -/
def ask (q : Question) : Program interface q.Reply := Program.question (I := interface) q

variable (logging : Logging)

/-- Writes a line of the log, if it is to be there. -/
def log (level : Level) (text : String) : Program interface Unit :=
  if logging.shows level then do
    let now ← ask .now
    ask (.writeError (logging.line now level text))
  else pure ()

/-- Answers a step on files. -/
def file : (q : Files.Question) → Program interface q.Reply
  | .log level text => log logging level text
  | q => ask (.file q)

/-- Answers a client. -/
def http : (q : Http.Question) → Program interface q.Reply
  | .send r => ask (.send r)
  | .sleep milliseconds => ask (.sleep milliseconds)
  | .log level text => log logging level text

/-- Answers a session. -/
def session (site : Site) : (q : Converge.Question) → Program interface q.Reply
  | .call c => (site.client.answer c).translate (http logging)
  | .loadLedger =>
    match site.ledger with
    | some path => (LedgerFile.load path).run.translate (file logging)
    | none => pure (.ok .empty)
  | .saveLedger ledger =>
    match site.ledger with
    | some path => (LedgerFile.save path ledger).run.translate (file logging)
    | none => pure (.ok ())
  | .ledgerLocation =>
    match site.ledger with
    | some path => pure path.text
    | none => pure "memory"
  | .clock => ask .clock
  | .now => ask .now
  | .sleep milliseconds => ask (.sleep milliseconds)
  | .log level text => log logging level text

/-- Answers a command. -/
def answer : (q : Cli.Question) → Program interface q.Reply
  | .file q => file logging q
  | .session site q => session logging site q
  | .readLine => ask .readLine
  | .print text => ask (.write text)
  | .tell text => ask (.writeError text)
  | .log level text => log logging level text

end Shell

/-- What the program is started with. -/
structure Start where
  arguments : List String
  environment : Environment
  /-- Whether the standard output is a terminal. -/
  terminal : Bool
  /-- The limit on the rounds of each loop. -/
  limit : Nat
  deriving Repr, Inhabited

/-- The variables of the environment that mean something to the program itself. -/
def Start.variables : List String :=
  [Credentials.tokenName, Credentials.tokenFallback, Credentials.secretName,
    Credentials.secretFallback, logVariable, "CLICOLOR", "CLICOLOR_FORCE", "NO_COLOR"]
  ++ Switch.shared.filterMap Switch.standIn?

/-- A variable as a switch, which is on unless it is 0. -/
def Start.switch? (s : Start) (name : String) : Option Bool :=
  (s.environment.get? name).map fun value => value ≠ "0"

/-- Whether the results have colours. -/
def Start.coloured (s : Start) : Bool :=
  if s.switch? "CLICOLOR_FORCE" = some true then true
  else if (s.switch? "NO_COLOR").isSome then false
  else s.terminal && (s.switch? "CLICOLOR").getD true

/-- Runs the program and comes to the code to exit with. -/
def Start.program (s : Start) : Program Shell.interface UInt8 :=
  match Invocation.read s.environment.get? s.arguments with
  | .error r => do
    if r.isAnswer then Shell.ask (.write r.text) else Shell.ask (.writeError r.text)
    return r.exitCode
  | .ok i =>
    let run : Run := ⟨⟨i.output, s.coloured⟩, s.limit⟩
    let logging := Logging.ofInvocation s.environment.get? i
    (run.toExit s.environment i).translate (Shell.answer logging)

end Converge.Cli
