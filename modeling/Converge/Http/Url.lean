import Converge.Number.Decimal
/-!
# Addresses of requests

The address of a request is a text that is read into its parts and written again in one normal
form: the scheme and the host in small letters, no port where it is the usual one, no dot
segments in the path, and every character that has no place in an address by the numbers of its
bytes.
-/

namespace Converge.Http

/-- An address with a host. -/
structure Url where
  secure : Bool
  /-- Host and, where it is not the usual one, port. -/
  authority : String
  path : List String
  query : Option String
  fragment : Option String
  deriving DecidableEq, Repr, Inhabited

/-- What a text can be besides an address that requests can be sent to. -/
inductive UrlError where
  /-- It is no address. -/
  | malformed
  /-- It is an address without a host. -/
  | hostless (text : String)
  /-- It is an address for something other than requests. -/
  | unsupported (text : String)
  deriving DecidableEq, Repr, Inhabited

namespace Url

/-! ## 1. Characters -/

/-- A hexadecimal digit, in capitals. -/
def hexDigit (n : Nat) : Char := if n < 10 then Char.ofNat (48 + n) else Char.ofNat (55 + n)

/-- A byte by its number. -/
def percentByte (b : UInt8) : List Char :=
  ['%', hexDigit (b.toNat / 16), hexDigit (b.toNat % 16)]

/-- The bytes of a character. -/
def bytesOf (c : Char) : List UInt8 := (c.toString.toUTF8).toList

/-- A character by the numbers of its bytes. -/
def percentChar (c : Char) : List Char := (bytesOf c).flatMap percentByte

/-- Text in which some characters are written by their numbers; those outside the visible Latin
ones always are. -/
def percentText (coded : Char → Bool) (cs : List Char) : List Char :=
  cs.flatMap fun c =>
    if c.toNat ≤ 0x20 || 0x7E < c.toNat || coded c then percentChar c else [c]

def codedInPath (c : Char) : Bool :=
  ['"', '#', '<', '>', '?', '\x7b', '\x7d'].contains c || c.toNat = 0x60
def codedInQuery (c : Char) : Bool := ['"', '#', '<', '>', '\''].contains c
def codedInFragment (c : Char) : Bool := ['"', '<', '>'].contains c || c.toNat = 0x60

/-- A character of a form's text: letters, digits and four marks stand for themselves, and a plus
sign stands for the space. -/
def formChar (c : Char) : List Char :=
  if c.isAlphanum || ['*', '-', '.', '_'].contains c then [c]
  else if c = ' ' then ['+']
  else percentChar c

/-- Text as it is written in a form. -/
def formText (s : String) : String := String.ofList (s.toList.flatMap formChar)

/-- The entries of a form. -/
def formEntries (entries : List (String × String)) : String :=
  "&".intercalate (entries.map fun (k, v) => formText k ++ "=" ++ formText v)

/-! ## 2. Reading -/

/-- The text up to a character that ends it, and the text from there on. -/
def upTo (ends : Char → Bool) (cs : List Char) : List Char × List Char :=
  (cs.takeWhile fun c => !ends c, cs.dropWhile fun c => !ends c)

/-- The scheme of an address and what follows its colon. -/
def scheme? (cs : List Char) : Option (String × List Char) :=
  match upTo (· = ':') cs with
  | (c :: rest, ':' :: after) =>
    if c.isAlpha && rest.all (fun d => d.isAlphanum || ['+', '-', '.'].contains d) then
      some (String.ofList ((c :: rest).map Char.toLower), after)
    else none
  | _ => none

def isSlash (c : Char) : Bool := c = '/' || c = '\\'

/-- Whether a segment stands for the directory it is in. -/
def isDot (s : List Char) : Bool :=
  s = ['.'] || s.map Char.toLower = ['%', '2', 'e']

/-- Whether a segment stands for the directory above. -/
def isDoubleDot (s : List Char) : Bool :=
  [".."  , ".%2e", "%2e.", "%2e%2e"].contains (String.ofList (s.map Char.toLower))

/-- The segments of a path, the last one first, without those that are dots. -/
def segments : List String → List Char → List Char → List String
  | above, piece, [] =>
    let piece := piece.reverse
    if isDoubleDot piece then "" :: above.tail
    else if isDot piece then "" :: above
    else String.ofList (percentText codedInPath piece) :: above
  | above, piece, c :: rest =>
    if isSlash c then
      let piece := piece.reverse
      if isDoubleDot piece then segments above.tail [] rest
      else if isDot piece then segments above [] rest
      else segments (String.ofList (percentText codedInPath piece) :: above) [] rest
    else segments above (c :: piece) rest

/-- A character that has no place in a host. -/
def isForbidden (c : Char) : Bool :=
  c.toNat ≤ 0x20 || c.toNat = 0x7F
    || ['#', '/', ':', '<', '>', '?', '@', '[', '\\', ']', '^', '|', '%'].contains c

/-- A host: a name, or a number of an address between brackets. -/
def host? (cs : List Char) : Option String :=
  match cs with
  | [] => none
  | '[' :: rest =>
    if rest.getLast? = some ']' then some (String.ofList (cs.map Char.toLower)) else none
  | _ => if cs.any isForbidden then none else some (String.ofList (cs.map Char.toLower))

/-- Host and port. -/
def authority? (secure : Bool) (cs : List Char) : Option String :=
  let cs := if cs.contains '@' then (cs.reverse.takeWhile (· ≠ '@')).reverse else cs
  let back := cs.reverse.takeWhile fun c => c ≠ ':' && c ≠ ']'
  match cs.reverse.drop back.length with
  | ':' :: front => do
    let host ← host? front.reverse
    let port := back.reverse
    if port.isEmpty then some host
    else
      let n ← digits? port
      if 65535 < n then none
      else if n = (if secure then 443 else 80) then some host
      else some (host ++ ":" ++ toString n)
  | _ => host? cs

/-- What follows a mark, if the mark is there. -/
def afterMark (mark : Char) (coded : Char → Bool) (ends : Char → Bool) (cs : List Char) :
    Option String × List Char :=
  match cs with
  | c :: rest =>
    if c = mark then
      let (body, rest) := upTo ends rest
      (some (String.ofList (percentText coded body)), rest)
    else (none, cs)
  | [] => (none, [])

/-- The address that a text is. -/
def parse (text : String) : Except UrlError Url :=
  let cs := (text.toList.dropWhile (·.toNat ≤ 0x20)).reverse.dropWhile (·.toNat ≤ 0x20) |>.reverse
  let cs := cs.filter fun c => !(['\t', '\n', '\r'].contains c)
  match scheme? cs with
  | none => .error .malformed
  | some (scheme, rest) =>
    if scheme = "http" || scheme = "https" then
      let secure := scheme = "https"
      let (authority, rest) := upTo (fun c => isSlash c || c = '?' || c = '#')
        (rest.dropWhile isSlash)
      match authority? secure authority with
      | none => .error .malformed
      | some authority =>
        let (path, rest) := upTo (fun c => c = '?' || c = '#') rest
        let path := match path with
          | [] => [""]
          | _ :: path => (segments [] [] path).reverse
        let (query, rest) := afterMark '?' codedInQuery (· = '#') rest
        let (fragment, _) := afterMark '#' codedInFragment (fun _ => false) rest
        .ok ⟨secure, authority, path, query, fragment⟩
    else
      let shown := scheme ++ ":" ++ String.ofList rest
      if ['/', '/'].isPrefixOf rest && !(rest.drop 2).head?.any isSlash && 2 < rest.length then
        .error (.unsupported shown)
      else .error (.hostless shown)

/-! ## 3. Writing -/

/-- The part of an address that is sent to the host. -/
def target (u : Url) : String :=
  "/" ++ "/".intercalate u.path
    ++ match u.query with
      | some q => "?" ++ q
      | none => ""

/-- An address in its normal form. -/
def text (u : Url) : String :=
  (if u.secure then "https://" else "http://") ++ u.authority ++ u.target
    ++ match u.fragment with
      | some f => "#" ++ f
      | none => ""

/-- Entries of a form joined to a query. -/
def joinQuery (query : Option String) (entries : List (String × String)) : Option String :=
  if entries.isEmpty then query
  else
    match query with
    | some q => if q.isEmpty then some (formEntries entries) else some (q ++ "&" ++ formEntries entries)
    | none => some (formEntries entries)

/-- An address with more entries in its query. -/
def withEntries (u : Url) (entries : List (String × String)) : Url :=
  { u with query := joinQuery u.query entries }

end Url

end Converge.Http
