import Converge.Data.Node
import Converge.Number.Shortest
import Converge.Yaml.Token
/-!
# What scalars stand for

A plain scalar may be a truth value, a number or nothing, depending on how it is spelled; any
other scalar is text.  A tag can declare the kind, and then the text has to be of that kind.
-/

namespace Converge.Yaml

/-! ## 1. Words -/

/-- The words for no value. -/
def isNull (s : String) : Bool := s = "null" || s = "Null" || s = "NULL" || s = "~"

/-- The words for truth values. -/
def truth? (s : String) : Option Bool :=
  if s = "true" || s = "True" || s = "TRUE" then some true
  else if s = "false" || s = "False" || s = "FALSE" then some false
  else none

/-! ## 2. Whole numbers -/

/-- Digits after a superfluous zero: they look like a number and are none. -/
def isPaddedDigits (cs : List Char) : Bool :=
  let cs := match cs with
    | '-' :: rest => rest
    | '+' :: rest => rest
    | _ => cs
  match cs with
  | '0' :: d :: rest => (d :: rest).all Char.isDigit
  | _ => false

/-- The value of a digit in a base. -/
def digitIn (base : Nat) (c : Char) : Option Nat :=
  let n := c.toNat
  let v :=
    if 48 ≤ n ∧ n ≤ 57 then some (n - 48)
    else if 97 ≤ n ∧ n ≤ 122 then some (n - 87)
    else if 65 ≤ n ∧ n ≤ 90 then some (n - 55)
    else none
  v.filter (· < base)

/-- The number that digits in a base spell; there has to be at least one. -/
def naturalIn (base : Nat) (cs : List Char) : Option Nat := do
  let ds ← cs.mapM (digitIn base)
  if ds.isEmpty then none
  some (ds.foldl (fun n d => n * base + d) 0)

/-- Digits of another base than ten after its mark. -/
def basedDigits : List Char → Option Nat
  | '0' :: 'x' :: rest => naturalIn 16 rest
  | '0' :: 'o' :: rest => naturalIn 8 rest
  | '0' :: 'b' :: rest => naturalIn 2 rest
  | _ => none

/-- A whole number of any size: digits, or digits of another base after its mark, with a sign
before them. -/
def integer? (s : String) : Option Int :=
  let cs := s.toList
  let (negative, body) := match cs with
    | '-' :: rest => (true, rest)
    | '+' :: rest => (false, rest)
    | _ => (false, cs)
  let n := (basedDigits body).or (if isPaddedDigits cs then none else naturalIn 10 body)
  n.map fun n => if negative then -(n : Int) else n

/-- The whole numbers of 64 bits with a sign. -/
def isSigned64 (n : Int) : Bool := -9223372036854775808 ≤ n && n ≤ 9223372036854775807

/-- The whole numbers of 64 bits with or without a sign. -/
def isWord64 (n : Int) : Bool := -9223372036854775808 ≤ n && n ≤ 18446744073709551615

/-- The whole numbers of 128 bits with or without a sign. -/
def isWord128 (n : Int) : Bool := -0x80000000000000000000000000000000 ≤ n && n < 0x100000000000000000000000000000000

/-- What a report says of a whole number; those of more than 128 bits are none. -/
def foundInteger? (s : String) : Option Found :=
  match integer? s with
  | some n => if isWord64 n then some (.int n) else if isWord128 n then some (.wide n) else none
  | none => none

/-! ## 3. Numbers with a fraction or an exponent -/

/-- The digits, the fraction and the exponent of a number. -/
def decimal? (cs : List Char) : Option (Nat × Int) :=
  let whole := cs.takeWhile Char.isDigit
  let cs := cs.dropWhile Char.isDigit
  let (fraction, cs) := match cs with
    | '.' :: rest => (rest.takeWhile Char.isDigit, rest.dropWhile Char.isDigit)
    | _ => ([], cs)
  let value := fun (ds : List Char) => ds.foldl (fun n c => n * 10 + (c.toNat - 48)) 0
  let result := fun (e : Int) => some (value (whole ++ fraction), e - fraction.length)
  if whole.isEmpty && fraction.isEmpty then none
  else
    match cs with
    | [] => result 0
    | e :: rest =>
      if e ≠ 'e' ∧ e ≠ 'E' then none
      else
        let (minus, ds) := match rest with
          | '-' :: rest => (true, rest)
          | '+' :: rest => (false, rest)
          | _ => (false, rest)
        if ds.isEmpty || !ds.all Char.isDigit then none
        else result (if minus then -(value ds : Int) else value ds)

/-- The floating-point number nearest to `n * 10 ^ e`, if it is finite. -/
def nearest (n : Nat) (e : Int) : Option Float :=
  let size : Int := (Nat.repr n).length + e
  if n = 0 || size < -400 then some 0.0
  else if 400 < size then none
  else
    let x := if 0 ≤ e then Float.ofScientific n false e.toNat else Float.ofScientific n true (-e).toNat
    if x.isInf then none else some x

/-- The text of a number that is no whole number, infinities and "not a number" included. -/
def float? (s : String) : Option String :=
  let cs := s.toList
  let body := match cs with
    | '+' :: rest => rest
    | _ => cs
  if body = ".inf".toList || body = ".Inf".toList || body = ".INF".toList then some "inf"
  else if s = "-.inf" || s = "-.Inf" || s = "-.INF" then some "-inf"
  else if s = ".nan" || s = ".NaN" || s = ".NAN" then some "NaN"
  else
    let (negative, digits) := match cs with
      | '+' :: rest => (false, rest)
      | '-' :: rest => (true, rest)
      | _ => (false, cs)
    match decimal? digits with
    | none => none
    | some (n, e) => (nearest n e).map fun x => FloatLayout.positional.text (if negative then -x else x)

/-! ## 4. Scalars -/

/-- What a plain scalar without a declared kind is. -/
def foundPlain (s : String) : Found :=
  if s.isEmpty || isNull s then .unit
  else
    match truth? s with
    | some b => .bool b
    | none =>
      match foundInteger? s with
      | some f => f
      | none =>
        if isPaddedDigits s.toList then .text s
        else
          match float? s with
          | some digits => .float digits
          | none => .text s

/-- The tags of the kinds that can be declared. -/
def nullTag : String := "tag:yaml.org,2002:null"
def boolTag : String := "tag:yaml.org,2002:bool"
def intTag : String := "tag:yaml.org,2002:int"
def floatTag : String := "tag:yaml.org,2002:float"

/-- What a scalar is, or the kind that it is declared to be and is not. -/
def foundScalar (s : String) (style : Style) (tag : Option String) : Found × Option String :=
  let declared := fun (f : Option Found) (kind : String) =>
    match f with
    | some f => (f, none)
    | none => (.text s, some kind)
  match tag with
  | none => (if style = .plain then foundPlain s else .text s, none)
  | some t =>
    if t = boolTag then declared ((truth? s).map .bool) "a boolean"
    else if t = intTag then declared (foundInteger? s) "an integer"
    else if t = floatTag then declared ((float? s).map .float) "a float"
    else if t = nullTag then declared (if isNull s then some .unit else none) "null"
    else if t.startsWith "!" && style = .plain then (foundPlain s, none)
    else (.text s, none)

/-- Whether a scalar stands for no value where a value may be missing. -/
def absenceOf (s : String) (style : Style) (tag : Option String) : Absence :=
  if style ≠ .plain then .present
  else
    match tag with
    | some t =>
      if t = nullTag then (if isNull s then .absent else .contradictory s) else .present
    | none => if s.isEmpty || isNull s then .absent else .present

/-- A scalar with its answers. -/
def resolve (s : String) (style : Style) (tag : Option String) : Scalar :=
  let (found, undeclared) := foundScalar s style tag
  let answers := fun (t : String) => style = .plain || (style = .literal && tag = some t)
  { text := some s
    bool := if answers boolTag then truth? s else none
    int := if answers intTag then (integer? s).filter fun n => isSigned64 n else none
    hollow := style = .plain && s.isEmpty
    absence := absenceOf s style tag
    found := found
    undeclared := undeclared }

end Converge.Yaml
