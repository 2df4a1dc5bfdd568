/-!
# Whole numbers in text

Whole numbers as they are written in arguments and headers: digits, with a sign in front of them
where one is allowed.
-/

namespace Converge

/-- The number that a text of digits spells; there has to be a digit. -/
def digits? (cs : List Char) : Option Nat :=
  if cs.isEmpty || !cs.all Char.isDigit then none
  else some (cs.foldl (fun n c => n * 10 + (c.toNat - 48)) 0)

/-- The number that digits spell, where a plus sign may stand before them. -/
def unsigned? (s : String) : Option Nat :=
  match s.toList with
  | '+' :: cs => digits? cs
  | cs => digits? cs

/-- The number that digits spell, where a sign may stand before them. -/
def signed? (s : String) : Option Int :=
  match s.toList with
  | '-' :: cs => (digits? cs).map fun n => -(n : Int)
  | '+' :: cs => (digits? cs).map fun n => (n : Int)
  | cs => (digits? cs).map fun n => (n : Int)

end Converge
