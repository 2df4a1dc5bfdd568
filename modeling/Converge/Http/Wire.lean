import Converge.Http.Message
import Converge.Json.Printer
import Converge.Text.Utf8
/-!
# Requests and responses as bytes

How a request is written to a connection, and how the bytes that come back are read.  A request
asks for the connection to be closed after the response, so a response ends with its connection,
unless its length is given or it comes in chunks.
-/

namespace Converge.Http

/-- The host of an address, and the port where there is not the usual one. -/
def Url.endpoint (u : Url) : String × UInt16 :=
  let usual : UInt16 := if u.secure then 443 else 80
  let reversed := u.authority.toList.reverse
  let digits := reversed.takeWhile Char.isDigit
  match reversed.drop digits.length, digits? digits.reverse with
  | ':' :: host, some port => (String.ofList host.reverse, UInt16.ofNat port)
  | _, _ => (u.authority, usual)

namespace Wire

/-- A header. -/
def headerLine (h : String × String) : String := h.1 ++ ": " ++ h.2 ++ "\r\n"

/-- The text of a request. -/
def ofRequest (r : Request) : String :=
  let body := (r.body.map Json.compact).getD ""
  let size := if r.body.isNone then [] else [("content-length", toString body.utf8ByteSize)]
  let headers := ("host", r.url.authority) :: r.headers ++ size ++ [("connection", "close")]
  r.method.word ++ " " ++ r.url.target ++ " HTTP/1.1\r\n"
    ++ String.join (headers.map headerLine) ++ "\r\n" ++ body

/-- A line from its bytes, the last one first. -/
def lineText : List UInt8 → String
  | 13 :: before => Utf8.lossy before.reverse
  | line => Utf8.lossy line.reverse

/-- The first line of some bytes, and the bytes after it; `before` are those of the line so far,
the last one first. -/
def line? (before : List UInt8) : List UInt8 → Option (String × List UInt8)
  | [] => none
  | 10 :: rest => some (lineText before, rest)
  | b :: rest => line? (b :: before) rest

theorem length_of_line? {before bytes rest : List UInt8} {text : String}
    (h : line? before bytes = some (text, rest)) : rest.length < bytes.length := by
  fun_induction line? before bytes with
  | case1 => simp at h
  | case2 => simp_all
  | case3 before b bytes _ ih => exact Nat.lt_succ_of_lt (ih h)

/-- The lines up to the first empty one, and the bytes after that. -/
def head? (bytes : List UInt8) : Option (List String × List UInt8) :=
  match _h : line? [] bytes with
  | none => none
  | some (text, rest) =>
    if text.isEmpty then some ([], rest)
    else (head? rest).map fun (lines, body) => (text :: lines, body)
termination_by bytes.length
decreasing_by exact length_of_line? _h

/-- The number that hexadecimal digits spell. -/
def hexadecimal? (cs : List Char) : Option Nat :=
  cs.foldlM (fun n c =>
    if c.isDigit then some (n * 16 + (c.toNat - 48))
    else if 'a' ≤ c.toLower && c.toLower ≤ 'f' then some (n * 16 + (c.toLower.toNat - 87))
    else none) 0

/-- Joins chunks, each of which is preceded by its size and followed by the end of a line. -/
def chunks? (bytes : List UInt8) : Option (List UInt8) :=
  match _h : line? [] bytes with
  | none => none
  | some (text, rest) =>
    let size := hexadecimal? (text.toList.takeWhile fun c => c ≠ ';' && c ≠ ' ')
    match size with
    | none => none
    | some 0 => some []
    | some n => (chunks? ((rest.drop n).drop 2)).map (rest.take n ++ ·)
termination_by bytes.length
decreasing_by
  have := length_of_line? _h
  simp only [List.length_drop]
  omega

/-- A header from its line. -/
def header? (line : String) : Option (String × String) :=
  match line.toList.dropWhile (· ≠ ':') with
  | _ :: value =>
    some (String.ofList (line.toList.takeWhile (· ≠ ':')), Response.trimField (String.ofList value))
  | [] => none

/-- The number of the outcome in the first line of a response. -/
def status? (line : String) : Option UInt16 :=
  match line.splitOn " " with
  | _ :: number :: _ => (digits? number.toList).map UInt16.ofNat
  | _ => none

/-- Reads a response from all the bytes of a connection. -/
def response? (bytes : List UInt8) : Option Response := do
  let (lines, rest) ← head? bytes
  let status ← status? (← lines.head?)
  let r : Response := ⟨status, lines.tail.filterMap header?, ""⟩
  let body ←
    if (r.header? "transfer-encoding").map String.toLower = some "chunked" then chunks? rest
    else
      match (r.header? "content-length").bind fun n => digits? n.toList with
      | some n => if rest.length < n then none else some (rest.take n)
      | none => some rest
  return { r with body := Utf8.lossy body }

end Wire

end Converge.Http
