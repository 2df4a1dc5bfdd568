import Converge.Yaml.Cursor
import Converge.Yaml.Token
/-!
# Scanning scalars

The five ways to write a scalar: plain, in single or double quotes, and as a literal or folded
block.  A line break inside a scalar is folded: a single one becomes a space, and of several the
first is dropped.  Literal blocks keep their breaks, and the separators of lines and paragraphs
are never folded.
-/

namespace Converge.Yaml

/-- Blanks and line breaks between the words of a scalar. -/
structure Gap where
  /-- Whether a line was broken. -/
  broken : Bool
  /-- The blanks before any break. -/
  blanks : List Char
  /-- The first break. -/
  first : Option Char
  /-- The breaks after the first. -/
  more : List Char
  deriving Repr, Inhabited

namespace Gap

/-- No gap. -/
def none : Gap := ⟨false, [], .none, []⟩

/-- What a gap stands for. -/
def text (g : Gap) : List Char :=
  if g.broken then
    match g.first with
    | some '\n' => if g.more.isEmpty then [' '] else g.more
    | some b => b :: g.more
    | .none => g.more
  else g.blanks

/-- Scans blanks and breaks.  After a break, a tab is refused in the columns before `margin`. -/
def scan (margin : Nat) : Nat → Cursor → Gap → Option (Gap × Cursor)
  | 0, c, g => some (g, c)
  | fuel + 1, c, g =>
    match c.next? with
    | .none => some (g, c)
    | some ch =>
      if isBlank ch then
        if g.broken && ch = '\t' && c.column < margin then .none
        else scan margin fuel c.skip (if g.broken then g else { g with blanks := g.blanks ++ [ch] })
      else
        match c.skipBreak with
        | some (b, c') =>
          scan margin fuel c'
            (if g.broken then { g with more := g.more ++ [b] }
              else { g with broken := true, blanks := [], first := some b })
        | .none => some (g, c)

end Gap

/-! ## 1. Quoted scalars -/

/-- The value of a hexadecimal digit. -/
def hexDigit? (c : Char) : Option Nat :=
  let n := c.toNat
  if 48 ≤ n ∧ n ≤ 57 then some (n - 48)
  else if 97 ≤ n ∧ n ≤ 102 then some (n - 87)
  else if 65 ≤ n ∧ n ≤ 70 then some (n - 55)
  else none

/-- The number that a fixed count of hexadecimal digits spells. -/
def hexNumber (n : Nat) (cs : List Char) : Option Nat := do
  let ds ← (cs.take n).mapM hexDigit?
  if ds.length = n then some (ds.foldl (fun v d => v * 16 + d) 0) else none

/-- The character with a number, unless it is half of a surrogate pair or beyond all of them. -/
def codePoint? (n : Nat) : Option Char :=
  if (0xD800 ≤ n ∧ n ≤ 0xDFFF) ∨ 0x10FFFF < n then none else some (Char.ofNat n)

/-- What an escape of one letter stands for. -/
def escaped? (c : Char) : Option Char :=
  match c with
  | '0' => some '\x00'
  | 'a' => some '\x07'
  | 'b' => some '\x08'
  | 't' => some '\t'
  | '\t' => some '\t'
  | 'n' => some '\n'
  | 'v' => some '\x0b'
  | 'f' => some '\x0c'
  | 'r' => some '\r'
  | 'e' => some '\x1b'
  | ' ' => some ' '
  | '"' => some '"'
  | '/' => some '/'
  | '\\' => some '\\'
  | 'N' => some '\u0085'
  | '_' => some '\u00a0'
  | 'L' => some '\u2028'
  | 'P' => some '\u2029'
  | _ => none

/-- How many digits follow an escape letter that spells a character by its number. -/
def escapeDigits (c : Char) : Nat :=
  if c = 'x' then 2 else if c = 'u' then 4 else if c = 'U' then 8 else 0

/-- An escape after its backslash: the character, and the place after it. -/
def escape? (c : Cursor) : Option (Char × Cursor) :=
  match c.next? with
  | none => none
  | some letter =>
    let n := escapeDigits letter
    if n = 0 then (escaped? letter).map fun ch => (ch, c.skip)
    else do
      let number ← hexNumber n c.skip.rest
      let ch ← codePoint? number
      some (ch, c.skip.skipMany n)

/-- One word of a quoted scalar: its characters, the place where it ends, and whether it ends with
an escaped line break. -/
def quotedWord (single : Bool) : Nat → Cursor → Option (List Char × Cursor × Bool)
  | 0, c => some ([], c, false)
  | fuel + 1, c =>
    let goOn := fun (ch : Char) (c' : Cursor) =>
      (quotedWord single fuel c').map fun (chs, rest) => (ch :: chs, rest)
    match c.rest with
    | [] => some ([], c, false)
    | ch :: after =>
      if isBlank ch || isBreak ch then some ([], c, false)
      else if single && ch = '\'' then
        if after.head? = some '\'' then goOn '\'' (c.skipMany 2) else some ([], c, false)
      else if !single && ch = '"' then some ([], c, false)
      else if !single && ch = '\\' then
        match c.skip.skipBreak with
        | some (_, c') => some ([], c', true)
        | none =>
          match escape? c.skip with
          | some (ch, c') => goOn ch c'
          | none => none
      else goOn ch c.skip

/-- A quoted scalar after its opening quote, up to and with the closing one. -/
def quotedBody (single : Bool) : Nat → Cursor → Option (List Char × Cursor)
  | 0, _ => none
  | fuel + 1, c =>
    if c.atDocumentMarker || c.rest.isEmpty then none
    else
      match quotedWord single (fuel + 1) c with
      | none => none
      | some (word, c, brokenLine) =>
        if c.next? = some (if single then '\'' else '"') then some (word, c.skip)
        else
          match Gap.scan 0 (fuel + 1) c { Gap.none with broken := brokenLine } with
          | none => none
          | some (g, c) =>
            (quotedBody single fuel c).map fun (rest, c) => (word ++ g.text ++ rest, c)

/-- A quoted scalar from its opening quote on. -/
def quotedScalar (single : Bool) (c : Cursor) : Option (List Char × Cursor) :=
  quotedBody single (c.rest.length + 1) c.skip

/-! ## 2. Plain scalars -/

/-- A character that ends a plain scalar inside brackets. -/
def isFlowEnd (c : Char) : Bool := c = ',' || c = '[' || c = ']' || c = '\x7b' || c = '\x7d'

/-- One word of a plain scalar.  Inside brackets, a colon must not touch a bracket. -/
def plainWord (flow : Bool) : List Char → Option (List Char)
  | [] => some []
  | ch :: rest =>
    if isBlank ch || isBreak ch then some []
    else if flow && ch = ':' && (rest.head?.any fun x => isFlowEnd x || x = '?') then none
    else if ch = ':' && endsWord rest then some []
    else if flow && isFlowEnd ch then some []
    else (plainWord flow rest).map (ch :: ·)

/-- The words of a plain scalar, each with the gap before it: the text, the place where the
scalar ends, and whether a line was broken at its end. -/
def plainBody (flow : Bool) (margin : Nat) :
    Nat → Gap → Cursor → Option (List Char × Cursor × Bool)
  | 0, g, c => some ([], c, g.broken)
  | fuel + 1, g, c =>
    if c.atDocumentMarker || c.next? = some '#' then some ([], c, g.broken)
    else
      match plainWord flow c.rest with
      | none => none
      | some word =>
        let c' := c.skipMany word.length
        let start := if word.isEmpty then [] else g.text
        let g := if word.isEmpty then g else Gap.none
        if endsWord c'.rest && !c'.rest.isEmpty then
          match Gap.scan margin (fuel + 1) c' g with
          | none => none
          | some (g', c'') =>
            if !flow && c''.column < margin then some (start ++ word, c'', g'.broken)
            else
              (plainBody flow margin fuel g' c'').map fun (more, c, broken) =>
                (start ++ word ++ more, c, broken)
        else some (start ++ word, c', g.broken)

/-- A plain scalar; its lines after the first start at `margin` or to the right of it. -/
def plainScalar (flow : Bool) (margin : Nat) (c : Cursor) : Option (List Char × Cursor × Bool) :=
  plainBody flow margin (c.rest.length + 1) Gap.none c

/-! ## 3. Block scalars -/

/-- What becomes of the line breaks at the end of a block. -/
inductive Chomp where
  /-- The last one is kept. -/
  | clip
  /-- None is kept. -/
  | strip
  /-- All are kept. -/
  | keep
  deriving DecidableEq, Repr, Inhabited

/-- A sign for the breaks at the end of a block. -/
def chomp? (c : Cursor) : Option Chomp :=
  match c.next? with
  | some '+' => some .keep
  | some '-' => some .strip
  | _ => none

/-- A digit for the indentation of a block; zero is refused. -/
def blockIndent? (c : Cursor) : Option (Option Nat) :=
  match c.next? with
  | some ch =>
    if ch = '0' then none else if ch.isDigit then some (some (ch.toNat - 48)) else some none
  | none => some none

/-- The sign and the digit after the mark of a block, in either order. -/
def blockHeader (c : Cursor) : Option (Chomp × Option Nat × Cursor) :=
  match chomp? c with
  | some chomp => do
    let indent ← blockIndent? c.skip
    some (chomp, indent, if indent.isSome then c.skip.skip else c.skip)
  | none => do
    match ← blockIndent? c with
    | some n =>
      match chomp? c.skip with
      | some chomp => some (chomp, some n, c.skip.skip)
      | none => some (.clip, some n, c.skip)
    | none => some (.clip, none, c)

/-- Spaces, up to the indentation of a block when it is known. -/
def blockSpaces (indent : Nat) : Nat → Cursor → Cursor
  | 0, c => c
  | fuel + 1, c =>
    if c.next? = some ' ' && (indent = 0 || c.column < indent) then blockSpaces indent fuel c.skip
    else c

/-- The indentation and the empty lines before a line of a block: the breaks, the widest
indentation met, and the place.  A tab is refused where indentation is expected. -/
def blockBreaks (indent : Nat) : Nat → Nat → Cursor → Option (List Char × Nat × Cursor)
  | 0, widest, c => some ([], widest, c)
  | fuel + 1, widest, c =>
    let c := blockSpaces indent (fuel + 1) c
    let widest := max widest c.column
    if c.next? = some '\t' && (indent = 0 || c.column < indent) then none
    else
      match c.skipBreak with
      | some (b, c') =>
        (blockBreaks indent fuel widest c').map fun (bs, w, c) => (b :: bs, w, c)
      | none => some ([], widest, c)

/-- The lines of a block from one that is not empty.  `leading` is the break before it, `breaks`
the empty lines after that; the result ends with the last break and the empty lines after it. -/
def blockLines (literal : Bool) (indent : Nat) :
    Nat → Option Char → List Char → Bool → Cursor →
      Option (List Char × Option Char × List Char × Cursor)
  | 0, leading, breaks, _, c => some ([], leading, breaks, c)
  | fuel + 1, leading, breaks, blankBefore, c =>
    if c.column ≠ indent || c.rest.isEmpty then some ([], leading, breaks, c)
    else
      let startsBlank := c.next?.any isBlank
      let joint :=
        if !literal && leading = some '\n' && !blankBefore && !startsBlank then
          if breaks.isEmpty then [' '] else []
        else leading.toList
      let (line, c) := c.takeWhile fun ch => !isBreak ch
      let (leading', c) := match c.skipBreak with
        | some (b, c') => (some b, c')
        | none => (none, c)
      match blockBreaks indent (fuel + 1) 0 c with
      | none => none
      | some (breaks', _, c) =>
        (blockLines literal indent fuel leading' breaks' startsBlank c).map
          fun (more, leading'', breaks'', c) =>
            (joint ++ breaks ++ line ++ more, leading'', breaks'', c)

/-- A block scalar from its mark on, inside a collection indented by `outer`. -/
def blockScalar (literal : Bool) (outer : Int) (c : Cursor) : Option (List Char × Cursor) := do
  let (chomp, given, c) ← blockHeader c.skip
  let c := c.skipWhile isBlank
  let c := if c.next? = some '#' then c.skipLine else c
  if !endsLine c.rest then none
  let c := match c.skipBreak with
    | some (_, c') => c'
    | none => c
  let known := match given with
    | some n => if 0 ≤ outer then outer.toNat + n else n
    | none => 0
  let (breaks, widest, c) ← blockBreaks known (c.rest.length + 1) 0 c
  let indent := if known = 0 then max (max widest (outer + 1).toNat) 1 else known
  let (text, last, after, c) ← blockLines literal indent (c.rest.length + 1) none breaks false c
  some (text
    ++ (if chomp = .strip then [] else last.toList)
    ++ (if chomp = .keep then after else []), c)

end Converge.Yaml
