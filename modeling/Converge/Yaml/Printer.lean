import Converge.Data.Value
import Converge.Yaml.Cursor
import Converge.Yaml.Resolve
/-!
# Writing YAML

A document value as indented YAML.  Tables are indented by two columns, the items of a list stand
in the column of the key above them.  Text is written plainly where that reads back as the same
text; otherwise it is quoted, and text of several lines is written as a literal block.
-/

namespace Converge.Yaml

/-! ## 1. The style of a text -/

/-- A character that is written as it is. -/
def isPrintable (c : Char) : Bool :=
  let n := c.toNat
  n = 10 || (0x20 ≤ n && n ≤ 0x7E) || (0xA0 ≤ n && n ≤ 0xD7FF)
    || (0xE000 ≤ n && n ≤ 0xFFFD && n ≠ 0xFEFF) || 0x10000 ≤ n

/-- A character that a plain text must not begin with. -/
def isLeadingMark (c : Char) : Bool :=
  ['#', ',', '[', ']', '\x7b', '\x7d', '&', '*', '!', '|', '>', '\'', '"', '%', '@'].contains c
    || c.toNat = 0x60

/-- Whether the characters after the first hold something that ends a plain text: a colon at the
end of a word, or a number sign at the beginning of one. -/
def hasInnerMark : Char → List Char → Bool
  | _, [] => false
  | before, c :: rest =>
    (c = ':' && endsWord rest) || (c = '#' && (isBlank before || isBreak before))
      || hasInnerMark c rest

/-- Whether a text would be taken for something else if it were written plainly. -/
def hasMark : List Char → Bool
  | [] => false
  | c :: rest =>
    isLeadingMark c || ((c = '?' || c = ':' || c = '-') && endsWord rest) || hasInnerMark c rest
      || ['-', '-', '-'].isPrefixOf (c :: rest) || ['.', '.', '.'].isPrefixOf (c :: rest)

/-- Whether some character is directly followed by another. -/
def hasPair (p q : Char → Bool) : List Char → Bool
  | a :: b :: rest => (p a && q b) || hasPair p q (b :: rest)
  | _ => false

/-- A space. -/
def isSpace (c : Char) : Bool := c = ' '

/-- Whether a text can be written plainly. -/
def canBePlain (cs : List Char) : Bool :=
  cs.all isPrintable && !cs.any isBreak && !hasMark cs && !cs.head?.any isSpace
    && !cs.getLast?.any isSpace

/-- Whether a text can be written in single quotes. -/
def canBeSingle (cs : List Char) : Bool :=
  cs.all isPrintable && !hasPair isBreak isSpace cs && !hasPair isSpace isBreak cs

/-- Whether a text can be written as a literal block. -/
def canBeLiteral (cs : List Char) : Bool :=
  !cs.isEmpty && cs.all isPrintable && !hasPair isSpace isBreak cs && !cs.getLast?.any isSpace

/-- The style that a text asks for: quotes if it looks like something else, a block if it has
several lines. -/
def wantedStyle (s : String) : Style :=
  if s.toList.contains '\n' then .literal
  else if foundPlain s = .text s && !isPaddedDigits s.toList then .plain
  else .singleQuoted

/-- The style that a text is written in: the one that it asks for, or the next one that can hold
it. -/
def styleOf (s : String) : Style :=
  let cs := s.toList
  let single := if canBeSingle cs then Style.singleQuoted else .doubleQuoted
  match wantedStyle s with
  | .plain => if canBePlain cs then .plain else single
  | .literal => if canBeLiteral cs then .literal else .doubleQuoted
  | _ => single

/-! ## 2. Quotes -/

/-- The letter of an escape, for the characters that have one. -/
def escapeLetter? (c : Char) : Option Char :=
  match c with
  | '\x00' => some '0'
  | '\x07' => some 'a'
  | '\x08' => some 'b'
  | '\t' => some 't'
  | '\n' => some 'n'
  | '\x0b' => some 'v'
  | '\x0c' => some 'f'
  | '\r' => some 'r'
  | '\x1b' => some 'e'
  | '"' => some '"'
  | '\\' => some '\\'
  | '\u0085' => some 'N'
  | '\u00a0' => some '_'
  | '\u2028' => some 'L'
  | '\u2029' => some 'P'
  | _ => none

/-- A hexadecimal digit, in capitals. -/
def capitalHex (n : Nat) : Char := if n < 10 then Char.ofNat (48 + n) else Char.ofNat (55 + n)

/-- A number in some hexadecimal digits. -/
def hexDigits : Nat → Nat → List Char
  | 0, _ => []
  | w + 1, n => hexDigits w (n / 16) ++ [capitalHex (n % 16)]

/-- A character by its letter or its number. -/
def escapeChar (c : Char) : List Char :=
  match escapeLetter? c with
  | some letter => ['\\', letter]
  | none =>
    let n := c.toNat
    if n ≤ 0xFF then '\\' :: 'x' :: hexDigits 2 n
    else if n ≤ 0xFFFF then '\\' :: 'u' :: hexDigits 4 n
    else '\\' :: 'U' :: hexDigits 8 n

/-- A character between double quotes. -/
def doubleChar (c : Char) : List Char :=
  if !isPrintable c || isBreak c || c = '"' || c = '\\' then escapeChar c else [c]

/-- Columns. -/
def spaces (n : Nat) : List Char := List.replicate n ' '

/-- Text with separators of lines, each line but the first indented.  `broken` says whether a
separator came last. -/
def separated (indent : Nat) (one : Char → List Char) : Bool → List Char → List Char
  | broken, [] => if broken then spaces indent else []
  | broken, c :: rest =>
    if isBreak c then c :: separated indent one true rest
    else (if broken then spaces indent else []) ++ one c ++ separated indent one false rest

/-- A character between single quotes. -/
def singleChar (c : Char) : List Char := if c = '\'' then ['\'', '\''] else [c]

/-! ## 3. Blocks -/

/-- The lines of a literal block; empty lines are not indented.  `broken` says whether a line
begins here. -/
def literalLines (indent : Nat) : Bool → List Char → List Char
  | _, [] => []
  | broken, c :: rest =>
    if isBreak c then c :: literalLines indent true rest
    else (if broken then spaces indent else []) ++ c :: literalLines indent false rest

/-- The digit that says how far a block is indented, where its first line does not show it. -/
def indentHint (cs : List Char) : List Char :=
  if cs.head?.any fun c => isSpace c || isBreak c then ['2'] else []

/-- The sign that says what becomes of the breaks at the end of a block. -/
def chompHint (cs : List Char) : List Char :=
  match cs.reverse with
  | [] => ['-']
  | last :: before =>
    if !isBreak last then ['-']
    else
      match before with
      | [] => ['+']
      | c :: _ => if isBreak c then ['+'] else []

/-- A literal block, its lines indented to a column. -/
def literalBlock (indent : Nat) (cs : List Char) : List Char :=
  '|' :: indentHint cs ++ chompHint cs ++ '\n' :: literalLines indent true cs

/-! ## 4. Documents -/

/-- A text in its style, further lines indented to a column. -/
def scalarText (indent : Nat) (s : String) : List Char :=
  let cs := s.toList
  match styleOf s with
  | .plain => cs
  | .singleQuoted => '\'' :: separated indent singleChar false cs ++ ['\'']
  | .literal => literalBlock indent cs
  | _ => '"' :: cs.flatMap doubleChar ++ ['"']

/-- A line up to and with its end. -/
def closeLine (cs : List Char) : List Char :=
  if cs.getLast?.any isBreak then cs else cs ++ ['\n']

/-- A key of a table. -/
def keyText (k : String) : List Char :=
  if k.toList.any isBreak then '"' :: k.toList.flatMap doubleChar ++ ['"'] else scalarText 0 k

mutual

/-- What follows a key or a dash in a column. -/
def afterMark (indent : Nat) (mapping : Bool) : Value → List Char
  | .null => [' ', 'n', 'u', 'l', 'l', '\n']
  | .bool true => [' ', 't', 'r', 'u', 'e', '\n']
  | .bool false => [' ', 'f', 'a', 'l', 's', 'e', '\n']
  | .int n => ' ' :: (toString n).toList ++ ['\n']
  | .text s => ' ' :: closeLine (scalarText (indent + 2) s)
  | .list [] => [' ', '[', ']', '\n']
  | .list items =>
    if mapping then '\n' :: listLines indent items
    else ' ' :: (listLines (indent + 2) items).drop (indent + 2)
  | .table [] => [' ', '\x7b', '\x7d', '\n']
  | .table entries =>
    if mapping then '\n' :: tableLines (indent + 2) entries
    else ' ' :: (tableLines (indent + 2) entries).drop (indent + 2)

/-- The items of a list, their dashes in a column. -/
def listLines (indent : Nat) : List Value → List Char
  | [] => []
  | v :: rest => spaces indent ++ '-' :: afterMark indent false v ++ listLines indent rest

/-- The entries of a table, their keys in a column. -/
def tableLines (indent : Nat) : List (String × Value) → List Char
  | [] => []
  | (k, v) :: rest =>
    spaces indent ++ keyText k ++ ':' :: afterMark indent true v ++ tableLines indent rest

end

/-- A document. -/
def documentChars : Value → List Char
  | .list (v :: rest) => listLines 0 (v :: rest)
  | .table (e :: rest) => tableLines 0 (e :: rest)
  | v => (afterMark 0 false v).drop 1

/-- A value as a YAML text. -/
def print (v : Value) : String := String.ofList (documentChars v)

end Converge.Yaml
