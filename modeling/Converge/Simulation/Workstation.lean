import Converge.Cli.Shell
import Converge.Files.Tree
import Converge.Http.Script
/-!
# A workstation

A shell to try the whole program in: files in memory, a scripted server, lines that are read from
a text, and everything that is written kept.  Time passes only while the program sleeps.
-/

namespace Converge

/-- The state of a workstation. -/
structure Workstation where
  tree : FileTree
  server : Http.Script
  /-- What has not been read yet. -/
  input : String
  /-- What was written to the standard output. -/
  output : String
  /-- What was written to the standard error. -/
  errors : String
  /-- Milliseconds since the start. -/
  elapsed : Nat
  deriving Inhabited

namespace Workstation

/-- The first line of a text, with the character that ends it, and the rest. -/
def firstLine (cs : List Char) : List Char × List Char :=
  let isInside := fun c => c ≠ '\n'
  match cs.dropWhile isInside with
  | [] => (cs, [])
  | c :: rest => (cs.takeWhile isInside ++ [c], rest)

/-- Answers the program. -/
def answer : (q : Cli.Shell.Question) → Workstation → q.Reply × Workstation
  | .file q, s =>
    let (reply, tree) := FileTree.answer q s.tree
    (reply, { s with tree := tree })
  | .send r, s =>
    let (reply, server) := s.server.send r
    (reply, { s with server := server })
  | .sleep milliseconds, s => ((), { s with elapsed := s.elapsed + milliseconds })
  | .clock, s => (s.elapsed, s)
  | .now, s => (Timestamp.epoch, s)
  | .readLine, s =>
    let (line, rest) := firstLine s.input.toList
    (.ok (String.ofList line), { s with input := String.ofList rest })
  | .write text, s => ((), { s with output := s.output ++ text })
  | .writeError text, s => ((), { s with errors := s.errors ++ text })

/-- Runs the program; there is no code when a loop used up its rounds. -/
def run (s : Workstation) (start : Cli.Start) : Option UInt8 × Workstation :=
  Program.run (I := Cli.Shell.interface) answer start.program s

end Workstation

end Converge
