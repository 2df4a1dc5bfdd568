/-!
# Places in a YAML text

A `Cursor` is a place in a text: what follows it, and its line and column.  The characters that
YAML treats specially -- blanks, line breaks, the characters of names -- are told apart here.
-/

namespace Converge.Yaml

/-- A character that a document may contain. -/
def isPermitted (c : Char) : Bool :=
  let n := c.toNat
  n = 9 || n = 10 || n = 13 || (0x20 ≤ n && n ≤ 0x7E) || n = 0x85 || (0xA0 ≤ n && n ≤ 0xD7FF)
    || (0xE000 ≤ n && n ≤ 0xFFFD) || 0x10000 ≤ n

/-- Space and tab. -/
def isBlank (c : Char) : Bool := c = ' ' || c = '\t'

/-- A character that ends a line. -/
def isBreak (c : Char) : Bool :=
  c = '\n' || c = '\r' || c = '\u0085' || c = '\u2028' || c = '\u2029'

/-- A character of a name. -/
def isWord (c : Char) : Bool := c.isAlphanum || c = '_' || c = '-'

/-- Whether a text is at its end, or goes on with a blank or a line break. -/
def endsWord : List Char → Bool
  | [] => true
  | c :: _ => isBlank c || isBreak c

/-- Whether a text is at its end or goes on with a line break. -/
def endsLine : List Char → Bool
  | [] => true
  | c :: _ => isBreak c

/-- A line break at the beginning of a text: what it stands for, how many characters it has, and
what follows it.  The separators of lines and paragraphs stand for themselves. -/
def lineBreak? : List Char → Option (Char × Nat × List Char)
  | '\r' :: '\n' :: rest => some ('\n', 2, rest)
  | '\r' :: rest => some ('\n', 1, rest)
  | '\n' :: rest => some ('\n', 1, rest)
  | '\u0085' :: rest => some ('\n', 1, rest)
  | '\u2028' :: rest => some ('\u2028', 1, rest)
  | '\u2029' :: rest => some ('\u2029', 1, rest)
  | _ => none

/-- A place in a text. -/
structure Cursor where
  /-- What follows the place. -/
  rest : List Char
  /-- How many characters precede it. -/
  index : Nat
  line : Nat
  column : Nat
  deriving Repr, Inhabited

namespace Cursor

/-- The beginning of a text. -/
def start (text : List Char) : Cursor := ⟨text, 0, 0, 0⟩

/-- The place after the next character, on the same line. -/
def skip (c : Cursor) : Cursor :=
  match c.rest with
  | [] => c
  | _ :: rest => ⟨rest, c.index + 1, c.line, c.column + 1⟩

/-- The place some characters further on the same line. -/
def skipMany (c : Cursor) (n : Nat) : Cursor :=
  let k := min n c.rest.length
  ⟨c.rest.drop n, c.index + k, c.line, c.column + k⟩

/-- The place after a line break, if there is one, and what the break stands for. -/
def skipBreak (c : Cursor) : Option (Char × Cursor) :=
  match lineBreak? c.rest with
  | some (b, size, rest) => some (b, ⟨rest, c.index + size, c.line + 1, 0⟩)
  | none => none

/-- The place after the characters of a class, on the same line, and those characters. -/
def takeWhile (p : Char → Bool) (c : Cursor) : List Char × Cursor :=
  let taken := c.rest.takeWhile p
  (taken, ⟨c.rest.dropWhile p, c.index + taken.length, c.line, c.column + taken.length⟩)

/-- The place after the characters of a class, on the same line. -/
def skipWhile (p : Char → Bool) (c : Cursor) : Cursor := (c.takeWhile p).2

/-- The place at the end of the line. -/
def skipLine (c : Cursor) : Cursor := c.skipWhile fun ch => !isBreak ch

/-- The next character. -/
def next? (c : Cursor) : Option Char := c.rest.head?

/-- The character at some distance. -/
def peek (c : Cursor) (n : Nat) : Option Char := c.rest[n]?

/-- Whether a line begins here with a mark of three characters that stands alone. -/
def atMarker (c : Cursor) (mark : Char) : Bool :=
  c.column = 0 && match c.rest with
    | x :: y :: z :: rest => x = mark && y = mark && z = mark && endsWord rest
    | _ => false

/-- Whether a line begins here with a mark that separates documents. -/
def atDocumentMarker (c : Cursor) : Bool := c.atMarker '-' || c.atMarker '.'

end Cursor

/-! ## 1. Reading in portions -/

/-- How many bytes of a text are looked at together. -/
def portionSize : Nat := 16384

/-- The first portion of a text, in whole characters, and the rest. -/
def portion : Nat → List Char → List Char × List Char
  | _, [] => ([], [])
  | room, c :: rest =>
    if c.utf8Size ≤ room then
      let (p, after) := portion (room - c.utf8Size) rest
      (c :: p, after)
    else ([], c :: rest)

/-- The portions of a text before the first that has a character that is not permitted, and
whether that is all of the text. -/
def readable : Nat → List Char → List Char × Bool
  | 0, _ => ([], false)
  | _, [] => ([], true)
  | fuel + 1, cs =>
    let (p, after) := portion portionSize cs
    if p.all isPermitted then
      let (more, whole) := readable fuel after
      (p ++ more, whole)
    else ([], false)

end Converge.Yaml
