import Converge.Yaml.Cursor
import Converge.Yaml.Token
/-!
# Scanning properties and directives

Anchors, aliases and tags stand before the nodes that they belong to; directives stand on lines
of their own before a document.
-/

namespace Converge.Yaml

/-! ## 1. Anchors and aliases -/

/-- A character that may follow the name of an anchor. -/
def endsAnchor : List Char → Bool
  | [] => true
  | c :: rest =>
    endsWord (c :: rest) || c = '?' || c = ':' || c = ',' || c = ']' || c = '\x7d' || c = '%'
      || c = '@' || c.toNat = 0x60

/-- The name after the sign of an anchor or alias. -/
def anchorName (c : Cursor) : Option (String × Cursor) :=
  let (name, c') := c.skip.takeWhile isWord
  if name.isEmpty || !endsAnchor c'.rest then none else some (String.ofList name, c')

/-! ## 2. Tags -/

/-- A character of a tag; `verbatim` tags may hold some more. -/
def isTagChar (verbatim : Bool) (c : Char) : Bool :=
  isWord c || [';', '/', '?', ':', '@', '&', '=', '+', '$', '.', '%', '!', '~', '*', '\'', '(',
    ')'].contains c || (verbatim && (c = ',' || c = '[' || c = ']'))

/-- The value of a hexadecimal digit. -/
def octetDigit? (c : Char) : Option Nat :=
  let n := c.toNat
  if 48 ≤ n ∧ n ≤ 57 then some (n - 48)
  else if 97 ≤ n ∧ n ≤ 102 then some (n - 87)
  else if 65 ≤ n ∧ n ≤ 70 then some (n - 55)
  else none

/-- An octet that is written by its number. -/
def octet? : List Char → Option (Nat × List Char)
  | '%' :: a :: b :: rest => do
    let a ← octetDigit? a
    let b ← octetDigit? b
    some (a * 16 + b, rest)
  | _ => none

/-- Further octets of a character. -/
def octets? : Nat → List Char → Option (List Nat × List Char)
  | 0, cs => some ([], cs)
  | n + 1, cs => do
    let (o, rest) ← octet? cs
    if o < 0x80 ∨ 0xBF < o then none
    let (os, rest) ← octets? n rest
    some (o :: os, rest)

/-- A character that is written by its octets, and how many octets it has. -/
def octetChar? (cs : List Char) : Option (Char × Nat) := do
  let (first, rest) ← octet? cs
  let width ←
    if first < 0x80 then some 1
    else if 0xC0 ≤ first ∧ first < 0xE0 then some 2
    else if 0xE0 ≤ first ∧ first < 0xF0 then some 3
    else if 0xF0 ≤ first ∧ first < 0xF8 then some 4
    else none
  let (more, _) ← octets? (width - 1) rest
  let lead := if width = 1 then first else first % Nat.pow 2 (7 - width)
  some (Char.ofNat (more.foldl (fun n o => n * 64 + (o - 0x80)) lead), width)

/-- The characters of a tag. -/
def tagChars (verbatim : Bool) : Nat → Cursor → Option (List Char × Cursor)
  | 0, c => some ([], c)
  | fuel + 1, c =>
    match c.next? with
    | none => some ([], c)
    | some ch =>
      if !isTagChar verbatim ch then some ([], c)
      else if ch = '%' then
        match octetChar? c.rest with
        | none => none
        | some (ch, width) =>
          (tagChars verbatim fuel (c.skipMany (3 * width))).map fun (chs, c) => (ch :: chs, c)
      else (tagChars verbatim fuel c.skip).map fun (chs, c) => (ch :: chs, c)

/-- A handle: an exclamation mark, and a name with a second one after it where there is one. -/
def tagHandle (c : Cursor) : Option (List Char × Cursor) :=
  if c.next? = some '!' then
    let (name, c') := c.skip.takeWhile isWord
    if c'.next? = some '!' then some ('!' :: name ++ ['!'], c'.skip) else some ('!' :: name, c')
  else none

/-- Whether a handle has a second exclamation mark. -/
def isNamedHandle (handle : List Char) : Bool :=
  1 < handle.length && handle.getLast? = some '!'

/-- The handle and the suffix of a tag. -/
def tagParts (c : Cursor) : Option (List Char × List Char × Cursor) :=
  if c.peek 1 = some '<' then do
    let (suffix, c) ← tagChars true (c.rest.length + 1) (c.skipMany 2)
    if suffix.isEmpty ∨ c.next? ≠ some '>' then none
    some ([], suffix, c.skip)
  else do
    let (handle, c) ← tagHandle c
    let (suffix, c) ← tagChars false (c.rest.length + 1) c
    if isNamedHandle handle then
      if suffix.isEmpty then none
      some (handle, suffix, c)
    else
      let suffix := handle.tail ++ suffix
      if suffix.isEmpty then some ([], ['!'], c) else some (['!'], suffix, c)

/-- A tag; inside brackets a comma may follow it. -/
def tag (flow : Bool) (c : Cursor) : Option (Token × Cursor) := do
  let (handle, suffix, c) ← tagParts c
  if !(flow && c.next? = some ',') && !endsWord c.rest then none
  some (.tag (String.ofList handle) (String.ofList suffix), c)

/-! ## 3. Directives -/

/-- A number of at most nine digits. -/
def versionNumber (c : Cursor) : Option (Nat × Cursor) :=
  let (ds, c') := c.takeWhile Char.isDigit
  if ds.isEmpty || 9 < ds.length then none
  else some (ds.foldl (fun n d => n * 10 + (d.toNat - 48)) 0, c')

/-- The version that a directive declares. -/
def versionDirective (c : Cursor) : Option (Token × Cursor) := do
  let (major, c) ← versionNumber (c.skipWhile isBlank)
  if c.next? ≠ some '.' then none
  let (minor, c) ← versionNumber c.skip
  some (.versionDirective major minor, c)

/-- The handle that a directive declares, and what it stands for. -/
def tagDirective (c : Cursor) : Option (Token × Cursor) := do
  let (handle, c) ← tagHandle (c.skipWhile isBlank)
  if handle ≠ ['!'] ∧ !isNamedHandle handle then none
  if !(c.next?.any isBlank) then none
  let c := c.skipWhile isBlank
  let (start, c) ← tagChars true (c.rest.length + 1) c
  if start.isEmpty ∨ !endsWord c.rest then none
  some (.tagDirective (String.ofList handle) (String.ofList start), c)

/-- A directive with the rest of its line. -/
def directive (c : Cursor) : Option (Token × Cursor) := do
  let (name, c) := c.skip.takeWhile isWord
  if name.isEmpty || !endsWord c.rest then none
  let (token, c) ←
    if name = ['Y', 'A', 'M', 'L'] then versionDirective c
    else if name = ['T', 'A', 'G'] then tagDirective c
    else none
  let c := c.skipWhile isBlank
  let c := if c.next? = some '#' then c.skipLine else c
  if !endsLine c.rest then none
  match c.skipBreak with
  | some (_, c') => some (token, c')
  | none => some (token, c)

end Converge.Yaml
