import Converge.Failure
import Converge.Files.Basic
import Converge.Text.Blank
import Converge.Text.Letter
/-!
# Environment files

A file of assignments `NAME=value`, one a line, that fills in variables of the environment.  A
variable that is set already keeps its value.

A value may stand in single quotes, where every character stands for itself, or in double quotes,
where a line may end inside; backslashes escape, and `$NAME` and `$` with a name in braces stand
for the variable of that name.  A `#` after a blank begins a comment.
-/

namespace Converge

/-- The variables of the environment with their values. -/
abbrev Environment := List (String × String)

namespace Environment

/-- The value of a variable. -/
def get? (e : Environment) (name : String) : Option String := e.lookup name

/-- Sets a variable, unless it has a value already. -/
def fillIn (e : Environment) (name value : String) : Environment :=
  if (e.get? name).isSome then e else e ++ [(name, value)]

/-- A variable keeps its value, and an unset one takes the new one. -/
theorem get?_fillIn (e : Environment) (name value : String) :
    (e.fillIn name value).get? name = some ((e.get? name).getD value) := by
  unfold fillIn get?
  cases h : e.lookup name with
  | some v => simp [h]
  | none => simp [List.lookup_append, h]

end Environment

namespace EnvFile

/-- A line that cannot be read: what was being read, and how far. -/
structure LineFault where
  text : List Char
  place : Nat
  deriving DecidableEq, Repr, Inhabited

def LineFault.message (f : LineFault) : String :=
  "Error parsing line: '" ++ String.ofList f.text ++ "', error at line index: " ++ toString f.place

/-- The number of bytes that characters take. -/
def byteCount (cs : List Char) : Nat := cs.foldl (fun n c => n + c.utf8Size) 0

/-! ## 1. Lines -/

/-- What a place in a line is inside of. -/
inductive Inside where
  | plain
  | escape
  | strong
  | strongEscape
  | weak
  | weakEscape
  /-- After a blank, where a comment may begin. -/
  | blank
  deriving DecidableEq, Repr

/-- What a character opens outside of quotes. -/
def Inside.opened (c : Char) : Inside :=
  if c = '\\' then .escape else if c = '"' then .weak else if c = '\'' then .strong else .plain

/-- What comes after a character; nothing where a comment begins. -/
def Inside.next? : Inside → Char → Option Inside
  | .blank, c => if c = '#' then none else some (.opened c)
  | .plain, c =>
    some (if Char.isBlank c && c ≠ '\n' && c ≠ '\r' then .blank else .opened c)
  | .escape, _ => some .plain
  | .weak, c => some (if c = '\\' then .weakEscape else if c = '"' then .plain else .weak)
  | .weakEscape, _ => some .weak
  | .strong, c => some (if c = '\\' then .strongEscape else if c = '\'' then .plain else .strong)
  | .strongEscape, _ => some .strong

/-- The characters up to a comment, and what their end is inside of when there is none. -/
def uncommented : Inside → List Char → List Char × Option Inside
  | inside, [] => ([], some inside)
  | inside, c :: rest =>
    match inside.next? c with
    | none => ([], none)
    | some after =>
      let (kept, last) := uncommented after rest
      (c :: kept, last)

/-- The lines of a text, with the characters that end them. -/
def rawLines : List Char → List (List Char)
  | [] => []
  | c :: rest =>
    if c = '\n' then [c] :: rawLines rest
    else
      match rawLines rest with
      | [] => [[c]]
      | line :: lines => (c :: line) :: lines

/-- Nothing is lost between the lines. -/
theorem flatten_rawLines (cs : List Char) : (rawLines cs).flatten = cs := by
  induction cs with
  | nil => rfl
  | cons c rest ih =>
    simp only [rawLines]
    split
    next h => simp [ih]
    next h => split <;> simp_all

/-- A line without the characters that end it. -/
def withoutEnd (line : List Char) : List Char :=
  match line.reverse with
  | '\n' :: '\r' :: before => before.reverse
  | '\n' :: before => before.reverse
  | _ => line

/-- Whether there is nothing but a comment on a line. -/
def isComment (line : List Char) : Bool := (line.dropWhile Char.isBlank).head? = some '#'

/-- Joins lines that end inside of quotes or after a blank with the lines after them, and cuts
comments off. -/
def joinLines : List (List Char) → List Char → Inside → List (Except LineFault (List Char))
  | [], before, inside =>
    if inside = .plain then [] else [.error ⟨before, byteCount before⟩]
  | line :: lines, before, inside =>
    let whole := before ++ line
    if isComment whole then .ok [] :: joinLines lines [] .plain
    else
      match uncommented inside line with
      | (kept, none) => .ok (before ++ kept) :: joinLines lines [] .plain
      | (_, some .plain) => .ok (withoutEnd whole) :: joinLines lines [] .plain
      | (_, some inside) => joinLines lines whole inside

/-! ## 2. Values -/

/-- The quotes around a place in a value. -/
inductive Quotes where
  | bare
  | strong
  | weak
  deriving DecidableEq, Repr

/-- The name of a variable, as far as it was read. -/
inductive Mention where
  | absent
  | open (name : List Char)
  | braced (name : List Char)
  deriving DecidableEq, Repr

/-- What was read of a value. -/
structure ValueScan where
  quotes : Quotes
  escaped : Bool
  /-- Whether the value is over and only a comment may follow. -/
  ended : Bool
  mention : Mention
  value : List Char
  deriving Repr

namespace ValueScan

def start : ValueScan := ⟨.bare, false, false, .absent, []⟩

def push (s : ValueScan) (c : Char) : ValueScan := { s with value := s.value ++ [c] }

/-- Puts the value of a variable where it is mentioned; an unset one is empty. -/
def putVariable (e : Environment) (s : ValueScan) (name : List Char) : ValueScan :=
  { s with mention := .absent,
           value := s.value ++ ((e.get? (String.ofList name)).getD "").toList }

/-- The character that an escaped one stands for. -/
def escape? (c : Char) : Option Char :=
  if c = 'n' then some '\n' else if ['\\', '\'', '"', '$', ' '].contains c then some c else none

/-- What reading a character comes to. -/
inductive Step where
  | next (s : ValueScan)
  | comment
  | fault

/-- Reads a character where no variable is mentioned. -/
def ordinary (s : ValueScan) (c : Char) : ValueScan :=
  if c = '$' then { s with mention := .open [] }
  else if c = '\\' then { s with escaped := true }
  else
    match s.quotes with
    | .weak => if c = '"' then { s with quotes := .bare } else s.push c
    | _ =>
      if c = '\'' then { s with quotes := .strong }
      else if c = '"' then { s with quotes := .weak }
      else if c = ' ' || c = '\t' then { s with ended := true }
      else s.push c

/-- Reads a character of a value. -/
def step (e : Environment) (s : ValueScan) (c : Char) : Step :=
  if s.ended then
    if c = ' ' || c = '\t' then .next s else if c = '#' then .comment else .fault
  else if s.escaped then
    match escape? c with
    | some c => .next { s.push c with escaped := false }
    | none => .fault
  else if s.quotes = .strong then
    .next (if c = '\'' then { s with quotes := .bare } else s.push c)
  else
    match s.mention with
    | .absent => .next (s.ordinary c)
    | .open name =>
      .next (if Char.isLetterOrDigit c then { s with mention := .open (name ++ [c]) }
        else if c = '{' && name.isEmpty then { s with mention := .braced [] }
        else if c = '$' then { putVariable e s name with mention := .open [] }
        else (putVariable e s name).push c)
    | .braced name =>
      .next (if c = '}' then putVariable e s name else { s with mention := .braced (name ++ [c]) })

/-- Reads a value from a place on. -/
def run (e : Environment) : List Char → Nat → ValueScan → Except Nat ValueScan
  | [], _, s => .ok s
  | c :: rest, place, s =>
    match s.step e c with
    | .next s => run e rest (place + 1) s
    | .comment => .ok s
    | .fault => .error place

/-- The value, if nothing was left open. -/
def finish? (e : Environment) (s : ValueScan) : Option (List Char) :=
  match s.quotes, s.mention with
  | .bare, .absent => some s.value
  | .bare, .open name => some (putVariable e s name).value
  | _, _ => none

end ValueScan

/-- Reads a value. -/
def value (e : Environment) (text : List Char) : Except LineFault String :=
  match ValueScan.run e text 0 .start with
  | .error place => .error ⟨text, place⟩
  | .ok s =>
    match s.finish? e with
    | some v => .ok (String.ofList v)
    | none => .error ⟨text, byteCount text - 1⟩

/-! ## 3. Assignments -/

def isNameStart (c : Char) : Bool := c.isAlpha || c = '_'
def isNameChar (c : Char) : Bool := c.isAlphanum || c = '_' || c = '.'

/-- A name at the beginning of a text, and what comes after it. -/
def name? (cs : List Char) : Option (String × List Char) :=
  match cs with
  | c :: _ =>
    if isNameStart c then some (String.ofList (cs.takeWhile isNameChar), cs.dropWhile isNameChar)
    else none
  | [] => none

def skipBlank (cs : List Char) : List Char := cs.dropWhile Char.isBlank

/-- The name that a line assigns to, and the text of the value; nothing on an empty line. -/
def assignment? (line : List Char) : Except LineFault (Option (String × List Char)) := do
  let text := (line.reverse.dropWhile Char.isBlank).reverse
  let faultAt := fun rest : List Char => (⟨line, byteCount text - byteCount rest⟩ : LineFault)
  let start := skipBlank text
  if start.isEmpty || isComment start then return none
  let some (name, rest) := name? start | .error (faultAt start)
  let rest := skipBlank rest
  let (name, rest) ←
    if name = "export" && rest.head? ≠ some '=' then
      match name? rest with
      | some (name, rest) => .ok (name, skipBlank rest)
      | none => .error (faultAt rest)
    else .ok (name, rest)
  match rest with
  | '=' :: rest => return some (name, skipBlank rest)
  | _ => .error (faultAt rest)

/-- Carries out the assignment on a line. -/
def assign (e : Environment) (line : List Char) : Except LineFault Environment := do
  match ← assignment? line with
  | none => return e
  | some (name, text) =>
    if text.isEmpty || isComment text then return e.fillIn name ""
    else return e.fillIn name (← value e text)

/-- A text without a mark of the order of bytes. -/
def withoutMark : List Char → List Char
  | '\uFEFF' :: rest => rest
  | cs => cs

/-- Carries out the assignments of a text. -/
def assignAll (e : Environment) (text : String) : Except LineFault Environment :=
  (joinLines (rawLines (withoutMark text.toList)) [] .plain).foldlM (fun e line => do
    assign e (← line)) e

/-- Fills the environment in from a file, if it is there. -/
def load (e : Environment) (path : Path) : FileWork Failure Environment := do
  let fail := fun why : String =>
    throw (.config (.parse ("Failed to load .env file: " ++ why) path.text))
  if !(← Files.isPresent path) then
    Files.log .debug (".env file not found at: " ++ path.text)
    return e
  else
    Files.log .info ("Loading environment from: " ++ path.text)
    match ← ExceptT.lift (Files.read path).run with
    | .error why => fail why.message
    | .ok text =>
      match assignAll e text with
      | .error f => fail f.message
      | .ok e => return e

/-- The name of an environment file. -/
def fileName : Path := Path.ofText ".env"

/-- The environment file that belongs to a configuration. -/
def pathFor (config : Path) : Path :=
  match config.parent with
  | some dir => dir.join fileName
  | none => (Path.ofText ".").join fileName

end EnvFile

end Converge
