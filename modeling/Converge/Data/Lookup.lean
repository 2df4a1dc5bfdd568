import Converge.Data.Codec
/-!
# Looking things up in a document

Taking single entries out of a document that is known to be whole, without a report of what is
wrong with it: an entry either has the type that is asked for or it is not there.
-/

namespace Converge.Lookup

/-- The last entry of a table under a key. -/
def field? (n : Node) (key : String) : Option Node :=
  match n with
  | .table entries _ =>
    (entries.reverse.find? fun e =>
      match e.1 with
      | .scalar s => s.text = some key
      | _ => false).map (·.2)
  | _ => none

/-- A typed value. -/
def decode (c : Codec α) (n : Node) : Option α :=
  match c.decode ⟨n, [], 0, true, true⟩ with
  | .ok a => some a
  | .error _ => none

/-- Whether a node is the word for nothing. -/
def isNull (n : Node) : Bool :=
  match n with
  | .scalar s => s.absence == .absent
  | _ => false

/-- A required entry. -/
def get (c : Codec α) (n : Node) (key : String) : Option α := (field? n key).bind (decode c)

/-- An entry that may be missing or nothing. -/
def opt (c : Codec α) (n : Node) (key : String) : Option (Option α) :=
  match field? n key with
  | none => some none
  | some v => if isNull v then some none else (decode c v).map some

/-- An entry with a value to fall back on. -/
def getOr (c : Codec α) (n : Node) (key : String) (a : α) : Option α :=
  (opt c n key).map fun found => found.getD a

/-- The items of a list. -/
def items (n : Node) : Option (List Node) :=
  match n with
  | .list is true => some is
  | _ => none

/-- The entries of a table. -/
def entries (n : Node) : Option (List (String × Node)) :=
  match n with
  | .table es true => es.mapM fun (k, v) => (decode .text k).map fun k => (k, v)
  | _ => none

mutual

/-- How many lists and tables are around one another in a document. -/
def depth : Node → Nat
  | .list items _ => depthOfItems items + 1
  | .table entries _ => depthOfEntries entries + 1
  | _ => 0

def depthOfItems : List Node → Nat
  | [] => 0
  | n :: rest => max (depth n) (depthOfItems rest)

def depthOfEntries : List (Node × Node) → Nat
  | [] => 0
  | (_, n) :: rest => max (depth n) (depthOfEntries rest)

end

end Converge.Lookup
