import Converge.Files.Path
import Converge.Log.Basic
import Converge.Program
/-!
# Working with files

What an operation on files asks of the file system, one step per question.  A file that is
replaced safely is written in several steps, and a statement about it is a statement about the
states between them.
-/

namespace Converge

/-- Why a step on files did not succeed. -/
inductive FileError where
  | notFound
  | notADirectory
  | isADirectory
  | alreadyExists
  /-- The content of a file is not text. -/
  | notText
  | other (message : String)
  deriving DecidableEq, Repr, Inhabited

def FileError.message : FileError → String
  | .notFound => "No such file or directory (os error 2)"
  | .notADirectory => "Not a directory (os error 20)"
  | .isADirectory => "Is a directory (os error 21)"
  | .alreadyExists => "File exists (os error 17)"
  | .notText => "stream did not contain valid UTF-8"
  | .other message => message

namespace Files

/-- One step on files. -/
inductive Question where
  /-- Whether there is a file or directory at a path. -/
  | isPresent (p : Path)
  | isDirectory (p : Path)
  /-- The text of a file. -/
  | read (p : Path)
  | makeDirectory (p : Path)
  /-- Makes a file empty, or makes an empty file. -/
  | create (p : Path)
  /-- Fills an empty file. -/
  | write (p : Path) (text : String)
  /-- Waits until what was written is stored. -/
  | sync (p : Path)
  /-- Moves a file to another path, where it takes the place of the file that is there. -/
  | rename (source target : Path)
  | log (level : Level) (text : String)
  deriving DecidableEq, Repr

/-- What a step is answered with. -/
@[reducible] def Question.Reply : Question → Type
  | .isPresent _ => Bool
  | .isDirectory _ => Bool
  | .read _ => Except FileError String
  | .makeDirectory _ => Except FileError Unit
  | .create _ => Except FileError Unit
  | .write _ _ => Except FileError Unit
  | .sync _ => Except FileError Unit
  | .rename _ _ => Except FileError Unit
  | .log _ _ => Unit

/-- The steps on files and their answers. -/
@[reducible] def interface : Interface := ⟨Question, Question.Reply⟩

end Files

/-- An operation on files that may fail with an `ε`. -/
abbrev FileWork (ε : Type) := ExceptT ε (Program Files.interface)

namespace Files

variable {ε : Type}

/-- Whether there is a file or directory at a path. -/
def isPresent (p : Path) : FileWork ε Bool :=
  ExceptT.lift (Program.question (I := interface) (.isPresent p))

/-- Whether there is a directory at a path. -/
def isDirectory (p : Path) : FileWork ε Bool :=
  ExceptT.lift (Program.question (I := interface) (.isDirectory p))

/-- Writes a line to the log. -/
def log (level : Level) (text : String) : FileWork ε Unit :=
  ExceptT.lift (Program.question (I := interface) (.log level text))

/-- The text of a file. -/
def read (p : Path) : FileWork FileError String :=
  ExceptT.mk (Program.question (I := interface) (.read p))

def makeDirectory (p : Path) : FileWork FileError Unit :=
  ExceptT.mk (Program.question (I := interface) (.makeDirectory p))

def create (p : Path) : FileWork FileError Unit :=
  ExceptT.mk (Program.question (I := interface) (.create p))

def write (p : Path) (text : String) : FileWork FileError Unit :=
  ExceptT.mk (Program.question (I := interface) (.write p text))

def sync (p : Path) : FileWork FileError Unit :=
  ExceptT.mk (Program.question (I := interface) (.sync p))

def rename (source target : Path) : FileWork FileError Unit :=
  ExceptT.mk (Program.question (I := interface) (.rename source target))

/-- Makes a directory, where one that is there already is as good. -/
def ensureDirectory (p : Path) : FileWork FileError Unit := do
  match ← ExceptT.lift (makeDirectory p).run with
  | .ok () => pure ()
  | .error e =>
    if e = .alreadyExists && (← isDirectory p) then pure () else throw e

/-- Makes the first directory of a list that can be made, where those that cannot lack the one
above them, which comes next in the list.  What is left to be made is returned, the highest
first. -/
def climb : List Path → List Path → FileWork FileError (List Path)
  | [], missing => pure missing
  | p :: above, missing =>
    if p.parent.isNone then pure missing
    else do
      match ← ExceptT.lift (makeDirectory p).run with
      | .ok () => pure missing
      | .error .notFound => climb above (p :: missing)
      | .error e =>
        if e = .alreadyExists && (← isDirectory p) then pure missing else throw e

/-- Makes a directory and those above it, as far as they are missing. -/
def makeDirectories (p : Path) : FileWork FileError Unit := do
  for missing in ← climb p.ancestors [] do
    ensureDirectory missing

end Files

end Converge
