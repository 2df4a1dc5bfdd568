/-!
# Documents as they are found

A reader of this library is asked for things -- a text, a number in a range, a list, a record --
and the same piece of a document may answer several of these requests: a bare `5` in a
configuration file is a number where a number is wanted and the text `5` where a text is wanted.
A `Node` therefore keeps, for every scalar, the answer to each kind of request.

A document is read from its beginning, and the first thing that is wrong with it is what gets
reported, be it a wrong value or text that cannot be read at all.  So text that stops being
readable does not make the whole document disappear: what comes before it is kept, and the
place where it breaks off is marked (`broken`, or a list or table that is not `complete`).
-/

namespace Converge

/-- What a document holds at some place, as named in a report. -/
inductive Found where
  /-- An explicit or implied absence of a value. -/
  | unit
  /-- The word `null`. -/
  | null
  | bool (b : Bool)
  | int (n : Int)
  /-- A whole number of more than 64 bits. -/
  | wide (n : Int)
  /-- A number with a fraction or exponent, in its shortest digits. -/
  | float (digits : String)
  | text (s : String)
  | list
  | table
  deriving DecidableEq, Repr, Inhabited

/-- Whether a scalar counts as "no value" where a value may be missing. -/
inductive Absence where
  | absent
  | present
  /-- Declared to be nothing although it says something. -/
  | contradictory (content : String)
  deriving DecidableEq, Repr, Inhabited

/-- A scalar with its answer to each kind of request. -/
structure Scalar where
  /-- The answer to a request for text. -/
  text : Option String
  /-- The answer to a request for a truth value. -/
  bool : Option Bool
  /-- The answer to a request for a whole number, before its range is looked at. -/
  int : Option Int
  /-- Whether it stands for a list or table without entries. -/
  hollow : Bool
  /-- The answer where a value may be missing. -/
  absence : Absence
  /-- What a report says was found. -/
  found : Found
  /-- The kind that the scalar is declared to be, when its text is not of that kind. -/
  undeclared : Option String
  deriving DecidableEq, Repr, Inhabited

/-- A piece of a document. -/
inductive Node where
  | scalar (s : Scalar)
  | list (items : List Node) (complete : Bool)
  | table (entries : List (Node × Node)) (complete : Bool)
  /-- Stands for what was anchored under the number. -/
  | alias (anchor : Nat)
  /-- A scalar that can be skipped but has no value. -/
  | worthless
  /-- The text cannot be read from here on. -/
  | broken
  deriving Inhabited

/-- A document: its root, what its aliases stand for, and whether the text was readable to its
end and held nothing more. -/
structure Document where
  root : Node
  /-- Anchored pieces, each with its number; the first match counts. -/
  anchors : List (Nat × Node)
  /-- How many aliases may be followed while reading. -/
  patience : Nat
  /-- Whether a list may stand for a record, its items in the order of the fields. -/
  positional : Bool
  sound : Bool
  deriving Inhabited

end Converge
