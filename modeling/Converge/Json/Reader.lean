import Converge.Data.Codec
import Converge.Json.Printer
import Converge.Number.Shortest
/-!
# Reading JSON

JSON text as a document.  Reading goes from left to right and keeps what it has read when the
text stops being JSON: a list or table that breaks off is not complete, and a value that cannot
be read is `broken`.  Two kinds of scalars can be skipped but have no value, and only a reader
that asks for them fails: text with half of a surrogate pair, and numbers too large for any
format.
-/

namespace Converge.Json

/-- Space between the parts of a document. -/
def isSpace (c : Char) : Bool := c = ' ' || c = '\n' || c = '\t' || c = '\r'

/-- The text after leading space. -/
def skipSpace : List Char → List Char
  | [] => []
  | c :: rest => if isSpace c then skipSpace rest else c :: rest

/-- The value of a hexadecimal digit. -/
def hex (c : Char) : Option Nat :=
  let n := c.toNat
  if 48 ≤ n && n ≤ 57 then some (n - 48)
  else if 97 ≤ n && n ≤ 102 then some (n - 87)
  else if 65 ≤ n && n ≤ 70 then some (n - 55)
  else none

/-- Four hexadecimal digits. -/
def hex4 : List Char → Option (Nat × List Char)
  | a :: b :: c :: d :: rest => do
    let a ← hex a
    let b ← hex b
    let c ← hex c
    let d ← hex d
    some (((a * 16 + b) * 16 + c) * 16 + d, rest)
  | _ => none

/-- The character that a one-letter escape stands for. -/
def shortEscape (c : Char) : Option Char :=
  match c with
  | '"' => some '"'
  | '\\' => some '\\'
  | '/' => some '/'
  | 'b' => some '\x08'
  | 'f' => some '\x0c'
  | 'n' => some '\n'
  | 'r' => some '\r'
  | 't' => some '\t'
  | _ => none

/-- A number for the first half of a surrogate pair. -/
def isHighSurrogate (n : Nat) : Bool := 0xD800 ≤ n && n ≤ 0xDBFF

/-- A number for the second half of a surrogate pair. -/
def isLowSurrogate (n : Nat) : Bool := 0xDC00 ≤ n && n ≤ 0xDFFF

/-- The text up to the closing quote, and what follows it.  The text is missing when it holds
half of a surrogate pair; the whole result is missing when there is no closing quote, a control
character, or an unknown escape. -/
def stringBody : Nat → List Char → Option (Option (List Char) × List Char)
  | 0, _ => none
  | fuel + 1, cs =>
    let andThen := fun (c : Option Char) (rest : List Char) =>
      (stringBody fuel rest).map fun (body, after) =>
        ((do let c ← c; let b ← body; some (c :: b)), after)
    match cs with
    | [] => none
    | '"' :: rest => some (some [], rest)
    | '\\' :: 'u' :: rest =>
      match hex4 rest with
      | none => none
      | some (n, rest) =>
        if isHighSurrogate n then
          match rest with
          | '\\' :: 'u' :: rest' =>
            match hex4 rest' with
            | none => none
            | some (m, rest'') =>
              if isLowSurrogate m then
                andThen (some (Char.ofNat (0x10000 + (n - 0xD800) * 0x400 + (m - 0xDC00)))) rest''
              else andThen none rest
          | _ => andThen none rest
        else if isLowSurrogate n then andThen none rest
        else andThen (some (Char.ofNat n)) rest
    | '\\' :: c :: rest =>
      match shortEscape c with
      | some e => andThen (some e) rest
      | none => none
    | ['\\'] => none
    | c :: rest => if c.toNat < 32 then none else andThen (some c) rest

/-- Leading digits. -/
def digits : List Char → List Char × List Char
  | [] => ([], [])
  | c :: rest =>
    if c.isDigit then
      let (ds, after) := digits rest
      (c :: ds, after)
    else ([], c :: rest)

/-- The number that digits spell. -/
def digitsValue (ds : List Char) : Nat := ds.foldl (fun n c => n * 10 + (c.toNat - 48)) 0

/-- The parts of a number as they are written. -/
structure Numeral where
  negative : Bool
  whole : List Char
  fraction : Option (List Char)
  /-- Sign and digits of the exponent. -/
  exponent : Option (Bool × List Char)

/-- Reads the parts of a number; there is none where a part lacks its digits or the whole part
starts with a superfluous zero. -/
def numeral (cs : List Char) : Option (Numeral × List Char) :=
  let (negative, cs) := match cs with
    | '-' :: rest => (true, rest)
    | _ => (false, cs)
  let (whole, cs) := digits cs
  if whole.isEmpty || (whole.head? = some '0' && 1 < whole.length) then none
  else
    let exponentPart := fun (fraction : Option (List Char)) (cs : List Char) =>
      match cs with
      | e :: rest =>
        if e = 'e' || e = 'E' then
          let (minus, rest) := match rest with
            | '+' :: rest => (false, rest)
            | '-' :: rest => (true, rest)
            | _ => (false, rest)
          let (ds, rest) := digits rest
          if ds.isEmpty then none
          else some (⟨negative, whole, fraction, some (minus, ds)⟩, rest)
        else some (⟨negative, whole, fraction, none⟩, cs)
      | [] => some (⟨negative, whole, fraction, none⟩, [])
    match cs with
    | '.' :: rest =>
      let (ds, rest) := digits rest
      if ds.isEmpty then none else exponentPart (some ds) rest
    | _ => exponentPart none cs

/-- As many digits as fit a word, the number they spell, and how many digits were left over. -/
def wordDigits : Nat → List Char → Nat × Nat
  | n, [] => (n, 0)
  | n, c :: rest =>
    let n' := n * 10 + (c.toNat - 48)
    if n' < 0x10000000000000000 then wordDigits n' rest else (n, rest.length + 1)

/-- `n * 10 ^ e` in floating point: the word is rounded first and scaled afterwards, in steps of
at most 308 places.  Numbers beyond the largest have no value. -/
def scaled : Nat → Float → Int → Option Float
  | 0, f, _ => some f
  | fuel + 1, f, e =>
    if e.natAbs ≤ 308 then
      let power := Float.ofScientific 1 false e.natAbs
      if 0 ≤ e then
        let g := f * power
        if g.isInf then none else some g
      else some (f / power)
    else if f == 0.0 then some f
    else if 0 ≤ e then none
    else scaled fuel (f / 1e308) (e + 308)

/-- The value of a number in floating point. -/
def Numeral.toFloat (n : Numeral) : Option Float :=
  let (word, dropped) := wordDigits 0 n.whole
  let (word, taken) :=
    match n.fraction with
    | none => (word, 0)
    | some ds =>
      let (word', left) := wordDigits word ds
      (word', ds.length - left)
  let (minus, size) :=
    match n.exponent with
    | none => (false, 0)
    | some (minus, ds) => (minus, digitsValue ds)
  let f : Option Float :=
    if 0x80000000 ≤ size then
      if word ≠ 0 && !minus then none else some 0.0
    else
      let e : Int := (dropped : Int) - taken + (if minus then -(size : Int) else size)
      scaled (e.natAbs + 1) (UInt64.ofNat word).toFloat e
  f.map fun f => if n.negative then -f else f

/-- A scalar that answers no request but says what it is. -/
def plainScalar (found : Found) : Scalar := ⟨none, none, none, false, .present, found, none⟩

/-- A number as a scalar.  Whole numbers of at most 64 bits are exact, and a negative zero is not
whole. -/
def Numeral.toNode (n : Numeral) : Node :=
  let magnitude := digitsValue n.whole
  let whole : Option Int :=
    if n.fraction.isSome || n.exponent.isSome then none
    else if n.negative then
      if 0 < magnitude && magnitude ≤ 0x8000000000000000 then some (-(magnitude : Int)) else none
    else if magnitude < 0x10000000000000000 then some magnitude else none
  match whole with
  | some i => .scalar { plainScalar (.int i) with int := some i }
  | none =>
    match n.toFloat with
    | some f => .scalar (plainScalar (.float (FloatLayout.compact.text f)))
    | none => .worthless

/-- A text as a scalar. -/
def textScalar (s : String) : Scalar := { plainScalar (.text s) with text := some s }

/-- The text after a word, if it starts with it. -/
def after (word cs : List Char) : Option (List Char) :=
  match word, cs with
  | [], rest => some rest
  | w :: word, c :: cs => if w = c then after word cs else none
  | _ :: _, [] => none

/-- A word with a fixed meaning. -/
def keyword (word : List Char) (s : Scalar) (cs : List Char) : Node × Option (List Char) :=
  match after word cs with
  | some rest => (.scalar s, some rest)
  | none => (.broken, none)

mutual

/-- Reads a value; the remaining text is missing when reading cannot go on. -/
def value : Nat → List Char → Node × Option (List Char)
  | 0, _ => (.broken, none)
  | fuel + 1, cs =>
    match skipSpace cs with
    | [] => (.broken, none)
    | '"' :: rest =>
      match stringBody (rest.length + 1) rest with
      | some (some body, after) => (.scalar (textScalar (String.ofList body)), some after)
      | some (none, after) => (.worthless, some after)
      | none => (.broken, none)
    | '[' :: rest =>
      match skipSpace rest with
      | ']' :: after => (.list [] true, some after)
      | rest =>
        let (items, complete, after) := items fuel rest
        (.list items complete, after)
    | '\x7b' :: rest =>
      match skipSpace rest with
      | '\x7d' :: after => (.table [] true, some after)
      | rest =>
        let (entries, complete, after) := members fuel rest
        (.table entries complete, after)
    | 'n' :: rest =>
      keyword ['u', 'l', 'l'] { plainScalar .null with absence := .absent } rest
    | 't' :: rest => keyword ['r', 'u', 'e'] { plainScalar (.bool true) with bool := some true } rest
    | 'f' :: rest =>
      keyword ['a', 'l', 's', 'e'] { plainScalar (.bool false) with bool := some false } rest
    | cs =>
      match numeral cs with
      | some (n, after) => (n.toNode, some after)
      | none => (.broken, none)

/-- Reads the items of a list from the first on. -/
def items : Nat → List Char → List Node × Bool × Option (List Char)
  | 0, _ => ([], false, none)
  | fuel + 1, cs =>
    match value fuel cs with
    | (node, none) => ([node], false, none)
    | (node, some rest) =>
      match skipSpace rest with
      | ']' :: after => ([node], true, some after)
      | ',' :: rest =>
        let (others, complete, after) := items fuel rest
        (node :: others, complete, after)
      | _ => ([node], false, none)

/-- Reads the entries of a table from the first on. -/
def members : Nat → List Char → List (Node × Node) × Bool × Option (List Char)
  | 0, _ => ([], false, none)
  | fuel + 1, cs =>
    match skipSpace cs with
    | '"' :: rest =>
      match stringBody (rest.length + 1) rest with
      | none => ([], false, none)
      | some (key, rest) =>
        let key := match key with
          | some k => Node.scalar (textScalar (String.ofList k))
          | none => .worthless
        match skipSpace rest with
        | ':' :: rest =>
          match value fuel rest with
          | (node, none) => ([(key, node)], false, none)
          | (node, some rest) =>
            match skipSpace rest with
            | '\x7d' :: after => ([(key, node)], true, some after)
            | ',' :: rest =>
              let (others, complete, after) := members fuel rest
              ((key, node) :: others, complete, after)
            | _ => ([(key, node)], false, none)
        | _ => ([(key, .broken)], false, none)
    | _ => ([], false, none)

end

/-- Space in front of a value does not matter. -/
theorem value_of_skipSpace {cs ds : List Char} (h : skipSpace cs = skipSpace ds) (fuel : Nat) :
    value fuel cs = value fuel ds := by
  cases fuel with
  | zero => rfl
  | succ fuel => simp only [value, h]

theorem items_of_skipSpace {cs ds : List Char} (h : skipSpace cs = skipSpace ds) (fuel : Nat) :
    items fuel cs = items fuel ds := by
  cases fuel with
  | zero => rfl
  | succ fuel => simp only [items, value_of_skipSpace h]

theorem members_of_skipSpace {cs ds : List Char} (h : skipSpace cs = skipSpace ds) (fuel : Nat) :
    members fuel cs = members fuel ds := by
  cases fuel with
  | zero => rfl
  | succ fuel => simp only [members, h]

/-- The document that a text is.  Lists may stand for records. -/
def document (text : String) : Document :=
  let cs := text.toList
  let (root, rest) := value (2 * cs.length + 2) cs
  let sound := match rest with
    | some rest => (skipSpace rest).isEmpty
    | none => false
  ⟨root, [], 0, true, sound⟩

/-- Reads a typed value from text. -/
def decode (c : Codec α) (text : String) : Except Fault α := c.decode (document text)

mutual

/-- A piece of a document as JSON text on one line; what has no value is written as `null`. -/
def shown : Node → List Char
  | .scalar s =>
    match s.found with
    | .bool b => (toString b).toList
    | .int n => (toString n).toList
    | .wide n => (toString n).toList
    | .float digits => digits.toList
    | .text t => string t
    | _ => ['n', 'u', 'l', 'l']
  | .list items _ => '[' :: shownItems items ++ [']']
  | .table entries _ => '\x7b' :: shownEntries entries ++ ['\x7d']
  | _ => ['n', 'u', 'l', 'l']

def shownItems : List Node → List Char
  | [] => []
  | [n] => shown n
  | n :: rest => shown n ++ ',' :: shownItems rest

def shownEntries : List (Node × Node) → List Char
  | [] => []
  | [(k, n)] => shown k ++ ':' :: shown n
  | (k, n) :: rest => shown k ++ ':' :: shown n ++ ',' :: shownEntries rest

end

mutual

/-- The value of a piece of a document, if all of it has one. -/
def valueOf : Node → Option Value
  | .scalar s =>
    match s.found with
    | .null => some .null
    | .bool b => some (.bool b)
    | .int n => some (.int n)
    | .text t => some (.text t)
    | _ => none
  | .list items true => do
    let vs ← valuesOf items
    some (.list vs)
  | .table entries true => do
    let es ← entriesOf entries
    some (.table es)
  | _ => none

def valuesOf : List Node → Option (List Value)
  | [] => some []
  | n :: rest => do
    let v ← valueOf n
    let vs ← valuesOf rest
    some (v :: vs)

def entriesOf : List (Node × Node) → Option (List (String × Value))
  | [] => some []
  | (k, n) :: rest => do
    let k ← match k with
      | .scalar s => s.text
      | _ => none
    let v ← valueOf n
    let es ← entriesOf rest
    some ((k, v) :: es)

end

/-- The value that a text is. -/
def parse (text : String) : Option Value :=
  let d := document text
  if d.sound then valueOf d.root else none

end Converge.Json
