import Converge.Files.Basic
import Converge.Http.Client
import Converge.Session
/-!
# What commands ask

A command works on files, holds sessions with a control plane, shows its results, and may ask
for an answer.  `Work` is a command as a program over these questions.  A question of a session
says which site the session is with, so that what a command does to a cluster can be told from
its questions alone.
-/

namespace Converge.Cli

/-- Where a session takes place. -/
structure Site where
  client : Http.Client
  /-- The file of the ledger; without one the ledger is empty and is not kept. -/
  ledger : Option Path
  deriving DecidableEq, Inhabited

/-- What a command asks. -/
inductive Question where
  | file (q : Files.Question)
  | session (site : Site) (q : Converge.Question)
  /-- A line from the one who gave the command. -/
  | readLine
  /-- Shows a part of the result. -/
  | print (text : String)
  /-- Tells something that is no part of the result. -/
  | tell (text : String)
  | log (level : Level) (text : String)

/-- What a command is answered with. -/
@[reducible] def Question.Reply : Question → Type
  | .file q => q.Reply
  | .session _ q => q.Reply
  | .readLine => Except FileError String
  | .print _ => Unit
  | .tell _ => Unit
  | .log _ _ => Unit

/-- The questions of commands and their answers. -/
@[reducible] def interface : Interface := ⟨Question, Question.Reply⟩

/-- A command. -/
abbrev Work := ExceptT Failure (Program interface)

namespace Work

/-- Asks, where there is always a reply. -/
def ask (q : Question) : Work q.Reply := ExceptT.lift (Program.question (I := interface) q)

/-- Shows a line of the result. -/
def printLine (text : String) : Work Unit := ask (.print (text ++ "\n"))

def print (text : String) : Work Unit := ask (.print text)
def tell (text : String) : Work Unit := ask (.tell text)
def log (level : Level) (text : String) : Work Unit := ask (.log level text)

/-- Works on files. -/
def files (w : FileWork Failure α) : Work α :=
  ExceptT.mk (w.run.translate fun q => Program.question (I := interface) (.file q))

/-- Holds a session. -/
def session (site : Site) (s : Session α) : Work α :=
  ExceptT.mk (s.run.translate fun q => Program.question (I := interface) (.session site q))

/-- A result that is known already. -/
def ofExcept (r : Except Failure α) : Work α := ExceptT.mk (.done r)

/-- Reads a line. -/
def readLine : Work String := do
  match ← ask .readLine with
  | .ok line => pure line
  | .error e => throw (.io e.message)

end Work

end Converge.Cli
