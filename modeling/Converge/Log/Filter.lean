import Converge.Log.Basic
import Converge.Number.Decimal
import Converge.Text.Blank
import Converge.Text.Letter
/-!
# Choosing what is logged

A filter is a list of directives, each of which says how much is logged by one part of a program
or by every part.  For a line the directive of the closest part decides, and of several for the
same part the last one.  A line that no directive is about is not logged.
-/

namespace Converge

/-- How much is logged by a part of a program. -/
structure LogDirective where
  /-- The beginning of the names of the parts that it is about. -/
  target : Option String
  /-- The lines that are logged: none at 0, and those of every level at 5. -/
  verbosity : Nat
  /-- Whether it is about lines inside of a named span only. -/
  withinSpan : Bool
  deriving DecidableEq, Repr, Inhabited

/-- Which lines are logged. -/
abbrev LogFilter := List LogDirective

namespace LogDirective

/-- The name for how much is logged, by its number or as a word. -/
def verbosity? (s : String) : Option Nat :=
  match unsigned? s with
  | some n => if n ≤ 5 then some n else none
  | none => ["off", "error", "warn", "info", "debug", "trace"].findIdx? fun w => w = s.toLower

/-- Reads what follows a span or a target: how much is logged, which may be left out. -/
def ofTail? (target : Option String) (withinSpan : Bool) : List Char → Option LogDirective
  | [] | ['='] => some ⟨target, 5, withinSpan⟩
  | '=' :: rest => (verbosity? (String.ofList rest)).map fun n => ⟨target, n, withinSpan⟩
  | _ => none

/-- Reads a span, after the bracket that opens it. -/
def ofSpan? (target : Option String) (cs : List Char) : Option LogDirective :=
  match cs.dropWhile fun c => c ≠ ']' with
  | _ :: rest => ofTail? target true rest
  | [] => none

/-- Whether a name may begin with a character. -/
def startsName (c : Char) : Bool :=
  Char.isLetterOrDigit c || c = '-' || c = ':' || c = '_'

/-- Reads a directive. -/
def ofText? (s : String) : Option LogDirective :=
  match (trimBlank s).toList with
  | [] => none
  | '[' :: span => ofSpan? none span
  | c :: cs =>
    if !startsName c then none
    else
      let inName := fun c => c ≠ '=' && c ≠ '['
      let name := String.ofList (c :: cs.takeWhile inName)
      match cs.dropWhile inName with
      | [] =>
        match verbosity? name with
        | some n => some ⟨none, n, false⟩
        | none => some ⟨some name, 5, false⟩
      | '[' :: span => ofSpan? (some name) span
      | tail => ofTail? (some name) false tail

/-- Whether a directive is about the lines of a part, outside of every span. -/
def concerns (d : LogDirective) (part : String) : Bool :=
  !d.withinSpan && match d.target with
    | none => true
    | some t => t.toList.isPrefixOf part.toList

/-- How close the parts are that a directive is about. -/
def closeness (d : LogDirective) : Nat :=
  match d.target with
  | none => 0
  | some t => t.length + 1

end LogDirective

namespace LogFilter

/-- The lines of every part up to some verbosity. -/
def upTo (verbosity : Nat) : LogFilter := [⟨none, verbosity, false⟩]

/-- Reads a filter: directives with commas between them.  Without any, failures are logged. -/
def ofText? (s : String) : Option LogFilter :=
  let pieces := (s.splitOn ",").filter fun piece => !piece.isEmpty
  if pieces.isEmpty then some (upTo 1) else pieces.mapM LogDirective.ofText?

/-- The directive that decides for a part of a program. -/
def deciding (f : LogFilter) (part : String) : Option LogDirective :=
  (f.filter (·.concerns part)).foldl (fun best d =>
    match best with
    | none => some d
    | some b => if b.closeness ≤ d.closeness then some d else some b) none

/-- Whether a line is logged. -/
def shows (f : LogFilter) (part : String) (level : Level) : Bool :=
  match f.deciding part with
  | some d => level.verbosity ≤ d.verbosity
  | none => false

end LogFilter

end Converge
