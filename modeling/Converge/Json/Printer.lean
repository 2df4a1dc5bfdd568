import Converge.Data.Value
import Converge.Text.Escape
/-!
# Writing JSON

A document value as JSON text, either on one line without spaces or spread over lines with two
spaces per level.  Characters outside the plain Latin ones are written as they are.
-/

namespace Converge.Json

/-- A control character by its number, in four hexadecimal digits. -/
def unicodeEscape (c : Char) : List Char :=
  let n := c.toNat
  ['\\', 'u', hexDigit (n / 4096 % 16), hexDigit (n / 256 % 16), hexDigit (n / 16 % 16),
    hexDigit (n % 16)]

/-- One character between the quotes of a text. -/
def escapeChar (c : Char) : List Char :=
  if c = '"' then ['\\', '"']
  else if c = '\\' then ['\\', '\\']
  else if c = '\n' then ['\\', 'n']
  else if c = '\r' then ['\\', 'r']
  else if c = '\t' then ['\\', 't']
  else if c = '\x08' then ['\\', 'b']
  else if c = '\x0c' then ['\\', 'f']
  else if c.toNat < 32 then unicodeEscape c
  else [c]

/-- A text in quotes. -/
def string (s : String) : List Char :=
  '"' :: s.toList.flatMap escapeChar ++ ['"']

/-- A whole number. -/
def number (n : Int) : List Char := (toString n).toList

mutual

/-- A value on one line. -/
def compactChars : Value → List Char
  | .null => ['n', 'u', 'l', 'l']
  | .bool true => ['t', 'r', 'u', 'e']
  | .bool false => ['f', 'a', 'l', 's', 'e']
  | .int n => number n
  | .text s => string s
  | .list items => '[' :: compactItems items ++ [']']
  | .table entries => '\x7b' :: compactEntries entries ++ ['\x7d']

def compactItems : List Value → List Char
  | [] => []
  | [v] => compactChars v
  | v :: rest => compactChars v ++ ',' :: compactItems rest

def compactEntries : List (String × Value) → List Char
  | [] => []
  | [(k, v)] => string k ++ ':' :: compactChars v
  | (k, v) :: rest => string k ++ ':' :: compactChars v ++ ',' :: compactEntries rest

end

/-- A new line at a level. -/
def lineBreak (level : Nat) : List Char := '\n' :: List.replicate (2 * level) ' '

mutual

/-- A value spread over lines, its inner lines one level deeper than `level`. -/
def prettyChars (level : Nat) : Value → List Char
  | .null => ['n', 'u', 'l', 'l']
  | .bool true => ['t', 'r', 'u', 'e']
  | .bool false => ['f', 'a', 'l', 's', 'e']
  | .int n => number n
  | .text s => string s
  | .list [] => ['[', ']']
  | .list (v :: rest) =>
    '[' :: lineBreak (level + 1) ++ prettyChars (level + 1) v ++ prettyItems (level + 1) rest
      ++ lineBreak level ++ [']']
  | .table [] => ['\x7b', '\x7d']
  | .table ((k, v) :: rest) =>
    '\x7b' :: lineBreak (level + 1) ++ string k ++ ':' :: ' ' :: prettyChars (level + 1) v
      ++ prettyEntries (level + 1) rest ++ lineBreak level ++ ['\x7d']

/-- The items after the first. -/
def prettyItems (level : Nat) : List Value → List Char
  | [] => []
  | v :: rest => ',' :: lineBreak level ++ prettyChars level v ++ prettyItems level rest

/-- The entries after the first. -/
def prettyEntries (level : Nat) : List (String × Value) → List Char
  | [] => []
  | (k, v) :: rest =>
    ',' :: lineBreak level ++ string k ++ ':' :: ' ' :: prettyChars level v
      ++ prettyEntries level rest

end

/-- A value on one line. -/
def compact (v : Value) : String := String.ofList (compactChars v)

/-- A value spread over lines. -/
def pretty (v : Value) : String := String.ofList (prettyChars 0 v)

end Converge.Json
