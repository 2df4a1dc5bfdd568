import Converge.Data.Node
import Converge.Text.Escape
/-!
# What can be wrong with a document

A fault names its cause and, where a reader knows it, the place of the cause.  The wording of
every cause is in `Cause.message`; the place is written by `Place.text` as the keys and indices
that lead to it, such as `applications[0].spec.cpu`.
-/

namespace Converge

/-- What a report says was found. -/
def Found.description : Found → String
  | .unit => "unit value"
  | .null => "null"
  | .bool b => "boolean `" ++ toString b ++ "`"
  | .int n => "integer `" ++ toString n ++ "`"
  | .wide n => "integer `" ++ toString n ++ (if 0 ≤ n then "` as u128" else "` as i128")
  | .float digits => "floating point `" ++ digits ++ "`"
  | .text s => "string " ++ quoted s
  | .list => "sequence"
  | .table => "map"

/-- One step on the way from the root of a document to a piece of it. -/
inductive Step where
  | key (name : String)
  | index (i : Nat)
  /-- Below a key that is not a scalar. -/
  | unnamed
  deriving DecidableEq, Repr

/-- A place in a document: the steps that lead to it, the last one first. -/
abbrev Place := List Step

namespace Place

/-- The place in words; the root is a single dot. -/
def text : Place → String
  | [] => "."
  | .key k :: [] => k
  | .key k :: above => text above ++ "." ++ k
  | .index i :: above => text above ++ "[" ++ toString i ++ "]"
  | .unnamed :: [] => "?"
  | .unnamed :: above => text above ++ ".?"

end Place

/-- The cause of a fault. -/
inductive Cause where
  /-- Something of another kind was found. -/
  | invalidType (found : Found) (expected : String)
  /-- Something of the right kind was found that is not allowed. -/
  | invalidValue (found : Found) (expected : String)
  | missingField (key : String)
  | duplicateField (key : String)
  /-- The text cannot be read as a document. -/
  | unreadable
  /-- The document can be read, but what it holds cannot be used; there is nothing to report
  about it beyond that. -/
  | unsuitable
  deriving DecidableEq, Repr, Inhabited

namespace Cause

/-- The wording of a cause; text that is no document has none. -/
def message? : Cause → Option String
  | .invalidType found expected =>
    some ("invalid type: " ++ found.description ++ ", expected " ++ expected)
  | .invalidValue found expected =>
    some ("invalid value: " ++ found.description ++ ", expected " ++ expected)
  | .missingField key => some ("missing field `" ++ key ++ "`")
  | .duplicateField key => some ("duplicate field `" ++ key ++ "`")
  | .unreadable => none
  | .unsuitable => none

end Cause

/-- A fault: its cause, and the place where it was met once that is known. -/
structure Fault where
  cause : Cause
  place : Option Place
  deriving DecidableEq, Repr, Inhabited

namespace Fault

/-- The wording without the place. -/
def message? (f : Fault) : Option String := f.cause.message?

/-- The wording with the place in front of it, unless it is the root. -/
def placedMessage? (f : Fault) : Option String :=
  f.message?.map fun m =>
    match f.place with
    | none | some [] => m
    | some place => place.text ++ ": " ++ m

end Fault

end Converge
