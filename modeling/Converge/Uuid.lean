import Converge.Data.Codec
import Converge.Text.Escape
/-!
# Identifiers of resources

A resource is identified by 32 hexadecimal digits.  They are written in five groups with hyphens
between them; they are read in that form, without hyphens, in braces, or as a resource name.
-/

namespace Converge

/-- The value of a hexadecimal digit. -/
def hexValue (c : Char) : Option (Fin 16) :=
  let n := c.toNat
  if h : 48 ≤ n ∧ n ≤ 57 then some ⟨n - 48, by omega⟩
  else if h : 97 ≤ n ∧ n ≤ 102 then some ⟨n - 87, by omega⟩
  else if h : 65 ≤ n ∧ n ≤ 70 then some ⟨n - 55, by omega⟩
  else none

/-- An identifier: 32 hexadecimal digits. -/
structure Uuid where
  digits : List (Fin 16)
  size : digits.length = 32
  deriving DecidableEq

namespace Uuid

instance : Repr Uuid := ⟨fun u _ => repr (u.digits.map fun d => hexDigit d.val)⟩

/-- The identifier whose digits are all zero. -/
def zero : Uuid := ⟨List.replicate 32 0, by simp⟩

instance : Inhabited Uuid := ⟨zero⟩

/-- The digits in groups of 8, 4, 4, 4 and 12. -/
def text (u : Uuid) : String :=
  let cs := u.digits.map fun d => hexDigit d.val
  String.ofList (cs.take 8 ++ '-' :: (cs.drop 8).take 4 ++ '-' :: (cs.drop 12).take 4
    ++ '-' :: (cs.drop 16).take 4 ++ '-' :: cs.drop 20)

instance : ToString Uuid := ⟨text⟩

/-- Exactly 32 digits. -/
def ofDigits? (cs : List Char) : Option Uuid :=
  match cs.mapM hexValue with
  | some ds => if h : ds.length = 32 then some ⟨ds, h⟩ else none
  | none => none

/-- Digits in five groups of the right sizes. -/
def ofGroups? (cs : List Char) : Option Uuid :=
  if cs.length = 36 ∧ cs[8]? = some '-' ∧ cs[13]? = some '-' ∧ cs[18]? = some '-'
      ∧ cs[23]? = some '-' then
    ofDigits? (cs.take 8 ++ (cs.drop 9).take 4 ++ (cs.drop 14).take 4 ++ (cs.drop 19).take 4
      ++ cs.drop 24)
  else none

/-- The identifier that a text names: bare digits, groups, groups in braces, or a resource name
with groups or bare digits. -/
def ofText? (s : String) : Option Uuid :=
  let cs := s.toList
  let plain := fun cs => (ofDigits? cs).or (ofGroups? cs)
  match cs with
  | '\x7b' :: rest =>
    if rest.getLast? = some '\x7d' then ofGroups? rest.dropLast else none
  | 'u' :: 'r' :: 'n' :: ':' :: 'u' :: 'u' :: 'i' :: 'd' :: ':' :: rest => ofGroups? rest
  | _ => plain cs

/-- The identifier whose digits spell a number. -/
def ofNat (n : Nat) : Uuid :=
  ⟨(List.range 32).map fun i => ⟨n / Nat.pow 16 (31 - i) % 16, Nat.mod_lt _ (by decide)⟩, by simp⟩

/-- An identifier in a document is the text of one. -/
def codec : Codec Uuid where
  read node := do
    let t ← (Codec.textAs "a formatted UUID string").read node
    match ofText? t with
    | some u => pure u
    | none => Reading.fail .unsuitable
  write u := .text u.text

end Uuid

end Converge
