import Converge.Yaml.Property
import Converge.Yaml.Scalar
/-!
# From a YAML text to its tokens

The lexer goes through a text from left to right.  Two things make it more than a list of words.
Indentation opens and closes collections, so a token may be preceded by the beginning or the ends
of some.  And whether a scalar is a key is known only at the colon after it: until then the
tokens from it on are held back in a queue, because a `key` token, and possibly the beginning of
a mapping, have to go in front of it.

`tokens` gives the tokens of a text up to the first place where it cannot be read.
-/

namespace Converge.Yaml

/-- A token that may turn out to be the beginning of a key. -/
structure KeyCandidate where
  /-- Whether nothing but a key can stand here. -/
  required : Bool
  /-- The number of the token, counted from the beginning of the text. -/
  number : Nat
  place : Cursor
  deriving Repr, Inhabited

/-- The state of the lexer. -/
structure Lexer where
  place : Cursor
  /-- The column of the innermost indented collection; -1 outside of all. -/
  indent : Int
  /-- The columns of the collections around it. -/
  outer : List Int
  /-- Whether a key may begin here. -/
  keyAllowed : Bool
  /-- The candidate outside of brackets. -/
  blockKey : Option KeyCandidate
  /-- The candidates inside each bracket that is open, the innermost first. -/
  flowKeys : List (Option KeyCandidate)
  /-- Tokens that are held back. -/
  queue : List Token
  /-- How many tokens were let go. -/
  released : Nat
  /-- Whether the end of the text was reached. -/
  finished : Bool
  deriving Inhabited

namespace Lexer

/-- The state at the beginning of a text. -/
def start (text : List Char) : Lexer where
  place := .start text
  indent := -1
  outer := []
  keyAllowed := true
  blockKey := none
  flowKeys := []
  queue := [.streamStart]
  released := 0
  finished := false

/-- Whether a bracket is open. -/
def inFlow (l : Lexer) : Bool := !l.flowKeys.isEmpty

/-- Puts a token at the end of the queue. -/
def emit (l : Lexer) (t : Token) : Lexer := { l with queue := l.queue ++ [t] }

/-- Puts a token in front of the token with a number. -/
def insert (l : Lexer) (number : Nat) (t : Token) : Lexer :=
  let n := number - l.released
  { l with queue := l.queue.take n ++ t :: l.queue.drop n }

/-! ## 1. Candidates for keys -/

/-- The innermost candidate. -/
def candidate (l : Lexer) : Option KeyCandidate :=
  match l.flowKeys with
  | k :: _ => k
  | [] => l.blockKey

/-- Replaces the innermost candidate. -/
def setCandidate (l : Lexer) (k : Option KeyCandidate) : Lexer :=
  match l.flowKeys with
  | _ :: rest => { l with flowKeys := k :: rest }
  | [] => { l with blockKey := k }

/-- Gives up the innermost candidate; it is an error if a key had to stand there. -/
def dropCandidate (l : Lexer) : Option Lexer :=
  match l.candidate with
  | some k => if k.required then none else some (l.setCandidate none)
  | none => some l

/-- Makes the next token a candidate, if a key may begin here. -/
def markCandidate (l : Lexer) : Option Lexer :=
  if l.keyAllowed then do
    let l ← l.dropCandidate
    let required := !l.inFlow && l.indent = l.place.column
    some (l.setCandidate (some ⟨required, l.released + l.queue.length, l.place⟩))
  else some l

/-- A key is on one line and has at most 1024 characters. -/
def isStale (l : Lexer) (k : KeyCandidate) : Bool :=
  k.place.line < l.place.line || k.place.index + 1024 < l.place.index

/-- A candidate, unless it is stale; the outer result is missing if a key had to stand there. -/
def fresh (l : Lexer) : Option KeyCandidate → Option (Option KeyCandidate)
  | none => some none
  | some k => if l.isStale k then (if k.required then none else some none) else some (some k)

/-- Gives up all stale candidates. -/
def dropStale (l : Lexer) : Option Lexer := do
  let block ← l.fresh l.blockKey
  let flow ← l.flowKeys.mapM l.fresh
  some { l with blockKey := block, flowKeys := flow }

/-- Whether a token has to be held back. -/
def holds (l : Lexer) (number : Nat) : Bool :=
  (l.blockKey :: l.flowKeys).any fun
    | some k => k.number = number
    | none => false

/-! ## 2. Indentation -/

/-- Opens a collection at a column, if it is to the right of the present one. -/
def openAt (l : Lexer) (column : Nat) (t : Token) (number : Option Nat) : Lexer :=
  if !l.inFlow && l.indent < column then
    let l := { l with outer := l.indent :: l.outer, indent := column }
    match number with
    | some n => l.insert n t
    | none => l.emit t
  else l

/-- Closes the collections that are indented further than a column. -/
def closeTo (column : Int) : List Int → Lexer → Lexer
  | [], l => l
  | out :: rest, l =>
    if column < l.indent then
      closeTo column rest { l.emit .blockEnd with indent := out, outer := rest }
    else l

/-- Closes the collections that are indented further than a column, outside of brackets. -/
def dedent (l : Lexer) (column : Int) : Lexer :=
  if l.inFlow then l else closeTo column l.outer l

/-! ## 3. Between tokens -/

/-- Goes past blanks, comments and line breaks.  A tab does not count as indentation where a key
may begin. -/
def toNextToken : Nat → Lexer → Lexer
  | 0, l => l
  | fuel + 1, l =>
    let p := l.place
    let p := if p.column = 0 && p.next? = some '\ufeff' then p.skip else p
    let p := p.skipWhile fun c => c = ' ' || (c = '\t' && (l.inFlow || !l.keyAllowed))
    let p := if p.next? = some '#' then p.skipLine else p
    match p.skipBreak with
    | some (_, p') =>
      toNextToken fuel { l with place := p', keyAllowed := l.keyAllowed || !l.inFlow }
    | none => { l with place := p }

/-! ## 4. Tokens -/

/-- The end of the text, which ends its last line too. -/
def atEnd (l : Lexer) : Option Lexer := do
  let p := l.place
  let l := if p.column = 0 then l else { l with place := ⟨p.rest, p.index, p.line + 1, 0⟩ }
  let l ← (l.dedent (-1)).dropCandidate
  some { l.emit .streamEnd with keyAllowed := false, finished := true }

/-- A directive, or a mark between documents. -/
def atTop (l : Lexer) (scan : Cursor → Option (Token × Cursor)) : Option Lexer := do
  let l ← (l.dedent (-1)).dropCandidate
  let (t, p) ← scan l.place
  some { l.emit t with keyAllowed := false, place := p }

/-- An opening bracket. -/
def openFlow (l : Lexer) (t : Token) : Option Lexer := do
  let l ← l.markCandidate
  some { l.emit t with
    flowKeys := none :: l.flowKeys, keyAllowed := true, place := l.place.skip }

/-- A closing bracket. -/
def closeFlow (l : Lexer) (t : Token) : Option Lexer := do
  let l ← l.dropCandidate
  some { l.emit t with
    flowKeys := l.flowKeys.tail, keyAllowed := false, place := l.place.skip }

/-- A comma. -/
def flowEntry (l : Lexer) : Option Lexer := do
  let l ← l.dropCandidate
  some { l.emit .flowEntry with keyAllowed := true, place := l.place.skip }

/-- The dash of an item. -/
def blockEntry (l : Lexer) : Option Lexer := do
  if !l.inFlow && !l.keyAllowed then none
  let l := l.openAt l.place.column .blockSequenceStart none
  let l ← l.dropCandidate
  some { l.emit .blockEntry with keyAllowed := true, place := l.place.skip }

/-- The mark of a key that is not simple. -/
def key (l : Lexer) : Option Lexer := do
  if !l.inFlow && !l.keyAllowed then none
  let l := l.openAt l.place.column .blockMappingStart none
  let l ← l.dropCandidate
  some { l.emit .key with keyAllowed := !l.inFlow, place := l.place.skip }

/-- The colon between a key and its value. -/
def value (l : Lexer) : Option Lexer :=
  match l.candidate with
  | some k =>
    let l := l.insert k.number .key
    let l := l.openAt k.place.column .blockMappingStart (some k.number)
    let l := l.setCandidate none
    some { l.emit .value with keyAllowed := false, place := l.place.skip }
  | none =>
    if !l.inFlow && !l.keyAllowed then none
    else
      let l := l.openAt l.place.column .blockMappingStart none
      some { l.emit .value with keyAllowed := !l.inFlow, place := l.place.skip }

/-- An anchor, an alias, a tag or a quoted scalar: something that a key may begin with. -/
def item (l : Lexer) (scan : Cursor → Option (Token × Cursor)) : Option Lexer := do
  let l ← l.markCandidate
  let (t, p) ← scan l.place
  some { l.emit t with keyAllowed := false, place := p }

/-- A block scalar. -/
def block (l : Lexer) (literal : Bool) : Option Lexer := do
  let l ← l.dropCandidate
  let (text, p) ← blockScalar literal l.indent l.place
  some { l.emit (.scalar (String.ofList text) (if literal then .literal else .folded)) with
    keyAllowed := true, place := p }

/-- A plain scalar. -/
def plain (l : Lexer) : Option Lexer := do
  let l ← l.markCandidate
  let (text, p, broken) ← plainScalar l.inFlow (l.indent + 1).toNat l.place
  some { l.emit (.scalar (String.ofList text) .plain) with keyAllowed := broken, place := p }

/-- A quoted scalar. -/
def quotedToken (single : Bool) (p : Cursor) : Option (Token × Cursor) :=
  (quotedScalar single p).map fun (text, p) =>
    (.scalar (String.ofList text) (if single then .singleQuoted else .doubleQuoted), p)

/-- A character that cannot begin a plain scalar. -/
def isIndicator (c : Char) : Bool :=
  ['-', '?', ':', ',', '[', ']', '\x7b', '\x7d', '#', '&', '*', '!', '|', '>', '\'', '"', '%',
    '@'].contains c || c.toNat = 0x60

/-- Whether a plain scalar begins with a character. -/
def startsPlain (l : Lexer) (c : Char) (rest : List Char) : Bool :=
  !(isBlank c || isBreak c || isIndicator c)
    || (c = '-' && !(rest.head?.any isBlank))
    || (!l.inFlow && (c = '?' || c = ':') && !endsWord rest)

/-- The next token. -/
def next (l : Lexer) : Option Lexer :=
  match l.place.rest with
  | [] => l.atEnd
  | c :: rest =>
    let p := l.place
    if p.column = 0 && c = '%' then l.atTop directive
    else if p.atMarker '-' then l.atTop fun p => some (.documentStart, p.skipMany 3)
    else if p.atMarker '.' then l.atTop fun p => some (.documentEnd, p.skipMany 3)
    else if c = '[' then l.openFlow .flowSequenceStart
    else if c = '\x7b' then l.openFlow .flowMappingStart
    else if c = ']' then l.closeFlow .flowSequenceEnd
    else if c = '\x7d' then l.closeFlow .flowMappingEnd
    else if c = ',' then l.flowEntry
    else if c = '-' && endsWord rest then l.blockEntry
    else if c = '?' && (l.inFlow || endsWord rest) then l.key
    else if c = ':' && (l.inFlow || endsWord rest) then l.value
    else if c = '*' then l.item fun p => (anchorName p).map fun (n, p) => (.alias n, p)
    else if c = '&' then l.item fun p => (anchorName p).map fun (n, p) => (.anchor n, p)
    else if c = '!' then l.item (tag l.inFlow)
    else if c = '|' && !l.inFlow then l.block true
    else if c = '>' && !l.inFlow then l.block false
    else if c = '\'' then l.item (quotedToken true)
    else if c = '"' then l.item (quotedToken false)
    else if l.startsPlain c rest then l.plain
    else none

/-- Goes on to the next token and takes it. -/
def fetch (l : Lexer) : Option Lexer := do
  let l ← (toNextToken (l.place.rest.length + 1) l).dropStale
  (l.dedent l.place.column).next

/-- Lets go of the tokens before the first that is held back. -/
def release : List Token → Lexer → List Token × Lexer
  | [], l => ([], { l with queue := [] })
  | t :: rest, l =>
    if l.holds l.released then ([], { l with queue := t :: rest })
    else
      let (ts, l) := release rest { l with released := l.released + 1 }
      (t :: ts, l)

/-- Tokens up to the end of the text, or to the first place where it cannot be read.  A text that
is not `whole` cannot be read to its end. -/
def run (whole : Bool) : Nat → Lexer → List Token
  | 0, _ => []
  | fuel + 1, l =>
    match l.dropStale with
    | none => []
    | some l =>
      let (ts, l) := release l.queue l
      if l.finished then ts
      else
        match l.fetch with
        | some l' =>
          if !whole && l'.place.rest.length < 4 then ts else ts ++ run whole fuel l'
        | none => ts

end Lexer

/-- The tokens of a text, up to the first place where it cannot be read. -/
def tokens (text : String) : List Token :=
  let (cs, whole) := readable (text.length + 1) text.toList
  if !whole && cs.isEmpty then [] else Lexer.run whole (cs.length + 3) (.start cs)

end Converge.Yaml
