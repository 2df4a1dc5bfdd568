import Converge.Cli.Shell
import Converge.Http.Wire
import Std.Async.DNS
import Std.Async.TCP
import Std.Time.DateTime.Timestamp
/-!
# The executable

Answers the questions of the program from the system that it runs on.  Connections are not
encrypted here: requests to an address that asks for encryption get no response.
-/

namespace Converge.Main

/-- The limit on the rounds of each loop. -/
def limit : Nat := 1000000000

/-- Why the system did not do what it was asked for. -/
def fileError : IO.Error → FileError
  | .noFileOrDirectory .. => .notFound
  | .alreadyExists .. => .alreadyExists
  | .inappropriateType _ 20 _ => .notADirectory
  | .inappropriateType _ 21 _ => .isADirectory
  | .permissionDenied _ code details => .other (details ++ " (os error " ++ toString code ++ ")")
  | e => .other (toString e)

/-- Tries something. -/
def attempt (act : IO α) : IO (Except FileError α) := do
  match ← act.toBaseIO with
  | .ok a => pure (.ok a)
  | .error e => pure (.error (fileError e))

/-- Whether a path can be opened, or is there without that. -/
def isThere (path : String) : IO Bool := do
  match ← attempt (IO.FS.Handle.mk path .read) with
  | .error .notFound | .error .notADirectory => pure false
  | _ => pure true

/-- Takes a step on files. -/
def file : (q : Files.Question) → IO q.Reply
  | .isPresent p => isThere p.text
  | .isDirectory p => isThere (p.text ++ "/.")
  | .read p => do
    match ← attempt (IO.FS.readBinFile p.text) with
    | .error e => pure (.error e)
    | .ok bytes =>
      match String.fromUTF8? bytes with
      | some text => pure (.ok text)
      | none => pure (.error .notText)
  | .makeDirectory p => attempt (IO.FS.createDir p.text)
  | .create p => attempt do let _ ← IO.FS.Handle.mk p.text .write
  | .write p text => attempt (IO.FS.writeFile p.text text)
  | .sync p => attempt do (← IO.FS.Handle.mk p.text .append).flush
  | .rename source target => attempt (IO.FS.rename source.text target.text)
  | .log _ _ => pure ()

/-- Reads a connection to its end. -/
partial def receive (client : Std.Async.TCP.Socket.Client) (bytes : ByteArray) : IO ByteArray := do
  match ← (client.recv? 65536).block with
  | some more => receive client (bytes ++ more)
  | none => pure bytes

/-- The address of a connection. -/
def addressOf (address : Std.Net.IPAddr) (port : UInt16) : Std.Net.SocketAddress :=
  match address with
  | .v4 a => .v4 ⟨a, port⟩
  | .v6 a => .v6 ⟨a, port⟩

/-- Sends a request over a connection of its own. -/
def send (r : Http.Request) : IO (Option Http.Response) := do
  if r.url.secure then pure none
  else
    let exchange : IO (Option Http.Response) := do
      let (host, port) := r.url.endpoint
      let addresses ← (Std.Async.DNS.getAddrInfo host (toString port)).block
      match addresses[0]? with
      | none => pure none
      | some address =>
        let client ← Std.Async.TCP.Socket.Client.mk
        (client.connect (addressOf address port)).block
        (client.send (Http.Wire.ofRequest r).toUTF8).block
        pure (Http.Wire.response? (← receive client .empty).toList)
    match ← exchange.toBaseIO with
    | .ok response => pure response
    | .error _ => pure none

/-- The date and time of day. -/
def now : IO Timestamp := do
  let nanos := (← Std.Time.Timestamp.now).toNanosecondsSinceUnixEpoch.val
  pure ⟨nanos.fdiv 1000000000, (nanos.fmod 1000000000).toNat⟩

/-- Answers the program. -/
def answer : (q : Cli.Shell.Question) → IO q.Reply
  | .file q => file q
  | .send r => send r
  | .sleep milliseconds => IO.sleep (UInt32.ofNat milliseconds)
  | .clock => IO.monoMsNow
  | .now => now
  | .readLine => do attempt (← IO.getStdin).getLine
  | .write text => do
    let out ← IO.getStdout
    out.putStr text
    out.flush
  | .writeError text => do (← IO.getStderr).putStr text

/-- The variables of the environment; where the system has no list of them, those that the
program itself looks for. -/
def environment : IO Environment := do
  match ← attempt (IO.FS.readBinFile "/proc/self/environ") with
  | .ok bytes =>
    let text := (String.fromUTF8? bytes).getD ""
    pure ((text.splitOn "\x00").filterMap fun entry =>
      match entry.splitOn "=" with
      | name :: value => some (name, "=".intercalate value)
      | [] => none)
  | .error _ =>
    Cli.Start.variables.filterMapM fun name => do
      pure ((← IO.getEnv name).map fun value => (name, value))

/-- Runs the program. -/
def run (arguments : List String) : IO UInt32 := do
  let terminal ← (← IO.getStdout).isTty
  let start : Cli.Start := ⟨arguments, ← environment, terminal, limit⟩
  match ← start.program.perform answer with
  | some code => pure code.toUInt32
  | none => pure 1

end Converge.Main

/-- Runs the program with the arguments of the command line. -/
def main (arguments : List String) : IO UInt32 := Converge.Main.run arguments
