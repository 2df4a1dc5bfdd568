import Converge.Failure
import Converge.Files.Basic
import Converge.Json.Printer
import Converge.Json.Reader
import Converge.Ledger.Basic
/-!
# The ledger in a file

The ledger of a configuration is a file beside it.  It is replaced as a whole: the new content is
written to a temporary file first, and that file then takes the place of the old one, so that the
ledger file is at every moment either the old one or the new one.
-/

namespace Converge.LedgerFile

/-- The end of the name of a ledger file. -/
def nameEnd : String := ".apprun-state.json"

/-- The path of the ledger that belongs to a configuration file. -/
def pathFor (config : Path) : Path :=
  let name := config.fileStem.getD "apprun" ++ nameEnd
  match config.parent with
  | some dir => if dir.isEmpty then ⟨false, [name]⟩ else dir.child name
  | none => ⟨false, [name]⟩

/-- The text of a ledger file. -/
def textOf (ledger : SecretLedger) : String :=
  Json.pretty (SecretLedger.codec.write ledger) ++ "\n"

/-- Reads the text of a ledger file. -/
def parse (path : Path) (text : String) : Except Failure SecretLedger :=
  match Json.decode SecretLedger.codec text with
  | .error fault =>
    let detail := match fault.message? with
      | some m => ": " ++ m
      | none => ""
    .error (.ledger (.corrupted ("Failed to parse ledger file " ++ path.text ++ detail)))
  | .ok ledger =>
    if ledger.version = SecretLedger.currentVersion then .ok ledger
    else .error (.ledger (.versionMismatch SecretLedger.currentVersion ledger.version))

/-- Whether there is a ledger file. -/
def holdsLedger (path : Path) : FileWork Failure Bool := Files.isPresent path

/-- Loads the ledger; without a file it is empty. -/
def load (path : Path) : FileWork Failure SecretLedger := do
  if !(← Files.isPresent path) then
    Files.log .debug ("Ledger file does not exist: " ++ path.text)
    pure .empty
  else
    Files.log .debug ("Loading ledger from: " ++ path.text)
    match ← ExceptT.lift (Files.read path).run with
    | .error e =>
      throw (.ledger (.corrupted ("Failed to read ledger file: " ++ e.message)))
    | .ok text => ExceptT.mk (.done (parse path text))

/-- A step of saving, its failure named for what was to be done. -/
def step (action : String) (w : FileWork FileError α) : FileWork Failure α := do
  match ← ExceptT.lift w.run with
  | .ok a => pure a
  | .error e =>
    throw (.ledger (.unavailable ("Failed to " ++ action ++ " ledger file: " ++ e.message)))

/-- The file that is written before it takes the place of the ledger file. -/
def temporary (path : Path) : Path := path.withExtension "tmp"

/-- Makes the directory of the ledger file if it is missing. -/
def prepare (path : Path) : FileWork Failure Unit := do
  match path.parent with
  | none => pure ()
  | some dir =>
    if dir.isEmpty then pure ()
    else if ← Files.isPresent dir then pure ()
    else step "create directory for" (Files.makeDirectories dir)

/-- Saves the ledger. -/
def save (path : Path) (ledger : SecretLedger) : FileWork Failure Unit := do
  prepare path
  Files.log .info ("Saving ledger to: " ++ path.text)
  step "create temp" (Files.create (temporary path))
  step "write" (Files.write (temporary path) (textOf ledger))
  step "sync" (Files.sync (temporary path))
  step "rename" (Files.rename (temporary path) path)
  Files.log .debug "Ledger saved successfully"

end Converge.LedgerFile
