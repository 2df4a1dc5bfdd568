import Converge.Data.Codec
/-!
# Points in time

A point in time is a number of seconds since the beginning of 1970, and a fraction of a second.
It is written as a date and a time of day in the Gregorian calendar, which is taken to hold for
all years.
-/

namespace Converge

/-- A date of the Gregorian calendar. -/
structure Date where
  year : Int
  month : Nat
  day : Nat
  deriving DecidableEq, Repr

namespace Date

/-- The date that lies a number of days after the first of January 1970.  Years are counted from
March, in eras of 400 years, so that the leap day comes last. -/
def ofDays (days : Int) : Date :=
  let z := days + 719468
  let era := z.fdiv 146097
  let doe := (z - era * 146097).toNat
  let yoe := (doe - doe / 1460 + doe / 36524 - doe / 146096) / 365
  let doy := doe - (365 * yoe + yoe / 4 - yoe / 100)
  let mp := (5 * doy + 2) / 153
  let month := if mp < 10 then mp + 3 else mp - 9
  let year : Int := (yoe : Int) + era * 400 + (if month ≤ 2 then 1 else 0)
  ⟨year, month, doy - (153 * mp + 2) / 5 + 1⟩

/-- The number of days from the first of January 1970 to a date. -/
def days (d : Date) : Int :=
  let y := if d.month ≤ 2 then d.year - 1 else d.year
  let era := y.fdiv 400
  let yoe := y - era * 400
  let mp := if d.month ≤ 2 then d.month + 9 else d.month - 3
  let doy := (153 * mp + 2) / 5 + d.day - 1
  let doe := yoe * 365 + yoe.fdiv 4 - yoe.fdiv 100 + doy
  era * 146097 + doe - 719468

/-- The number of days of a month. -/
def monthLength (year : Int) (month : Nat) : Nat :=
  if month = 2 then
    if year % 4 = 0 ∧ (year % 100 ≠ 0 ∨ year % 400 = 0) then 29 else 28
  else if month = 4 ∨ month = 6 ∨ month = 9 ∨ month = 11 then 30 else 31

end Date

/-- A number in at least `width` digits. -/
def padded (width n : Nat) : String :=
  let ds := toString n
  String.ofList (List.replicate (width - ds.length) '0') ++ ds

/-- A point in time. -/
structure Timestamp where
  /-- Seconds since the beginning of 1970. -/
  seconds : Int
  /-- Billionths of a second after that. -/
  nanos : Nat
  deriving DecidableEq, Repr

namespace Timestamp

/-- The beginning of 1970. -/
def epoch : Timestamp := ⟨0, 0⟩

instance : Inhabited Timestamp := ⟨epoch⟩

/-- The years that can be told, as days from the beginning of 1970. -/
def firstDay : Int := Date.days ⟨-262143, 1, 1⟩
def lastDay : Int := Date.days ⟨262142, 12, 31⟩

/-- A number of seconds as a point in time; the beginning of 1970 where no year can be told. -/
def ofSeconds (s : Int) : Timestamp :=
  let day := s.fdiv 86400
  if firstDay ≤ day ∧ day ≤ lastDay then ⟨s, 0⟩ else epoch

/-- The date. -/
def date (t : Timestamp) : Date := Date.ofDays (t.seconds.fdiv 86400)

/-- Four digits for a year, and a sign before one that has more or lies before year zero. -/
def yearText (y : Int) : String :=
  if 0 ≤ y ∧ y ≤ 9999 then padded 4 y.toNat
  else if 0 ≤ y then "+" ++ padded 4 y.toNat
  else "-" ++ padded 4 (-y).toNat

/-- Year, month and day with hyphens. -/
def dateText (t : Timestamp) : String :=
  let d := t.date
  yearText d.year ++ "-" ++ padded 2 d.month ++ "-" ++ padded 2 d.day

/-- Hours, minutes and seconds with colons. -/
def clockText (t : Timestamp) : String :=
  let s := (t.seconds - t.seconds.fdiv 86400 * 86400).toNat
  padded 2 (s / 3600) ++ ":" ++ padded 2 (s / 60 % 60) ++ ":" ++ padded 2 (s % 60)

/-- A fraction of a second in three, six or nine digits, whichever is exact first. -/
def fractionText (nanos : Nat) : String :=
  if nanos = 0 then ""
  else if nanos % 1000000 = 0 then "." ++ padded 3 (nanos / 1000000)
  else if nanos % 1000 = 0 then "." ++ padded 6 (nanos / 1000)
  else "." ++ padded 9 nanos

/-- Date and time of day with a space between them, for tables. -/
def plainText (t : Timestamp) : String := t.dateText ++ " " ++ t.clockText

/-- Date and time of day as documents have them. -/
def documentText (t : Timestamp) : String :=
  t.dateText ++ "T" ++ t.clockText ++ fractionText t.nanos ++ "Z"

/-- A fixed number of digits. -/
def takeDigits (n : Nat) (cs : List Char) : Option (Nat × List Char) :=
  let ds := cs.take n
  if ds.length = n ∧ ds.all Char.isDigit ∧ 0 < n then
    some (ds.foldl (fun v c => v * 10 + (c.toNat - 48)) 0, cs.drop n)
  else none

/-- A character that has to stand there. -/
def expectChar (ok : Char → Bool) : List Char → Option (List Char)
  | c :: rest => if ok c then some rest else none
  | [] => none

/-- A year of four digits, or of more after a sign. -/
def takeYear (cs : List Char) : Option (Int × List Char) :=
  let signed := fun (rest : List Char) =>
    let n := (rest.takeWhile Char.isDigit).length
    takeDigits n rest
  match cs with
  | '+' :: rest => (signed rest).map fun (n, r) => ((n : Int), r)
  | '-' :: rest => (signed rest).map fun (n, r) => (-(n : Int), r)
  | _ => (takeDigits 4 cs).map fun (n, r) => ((n : Int), r)

/-- The seconds by which a clock is ahead. -/
def takeOffset (cs : List Char) : Option Int :=
  match cs with
  | ['Z'] => some 0
  | ['z'] => some 0
  | sign :: rest => do
    if sign ≠ '+' ∧ sign ≠ '-' then none
    let (h, rest) ← takeDigits 2 rest
    let rest := match rest with
      | ':' :: r => r
      | r => r
    let (m, rest) ← takeDigits 2 rest
    if rest ≠ [] ∨ 59 < m ∨ 23 < h then none
    let s : Int := (h * 3600 + m * 60 : Nat)
    some (if sign = '-' then -s else s)
  | [] => none

/-- The point in time that a text names. -/
def ofText? (s : String) : Option Timestamp := do
  let (year, cs) ← takeYear s.toList
  let cs ← expectChar (· = '-') cs
  let (month, cs) ← takeDigits 2 cs
  let cs ← expectChar (· = '-') cs
  let (day, cs) ← takeDigits 2 cs
  let cs ← expectChar (fun c => c = 'T' || c = 't' || c = ' ') cs
  let (hour, cs) ← takeDigits 2 cs
  let cs ← expectChar (· = ':') cs
  let (minute, cs) ← takeDigits 2 cs
  let cs ← expectChar (· = ':') cs
  let (second, cs) ← takeDigits 2 cs
  let (nanos, cs) ← match cs with
    | '.' :: rest => do
      let ds := rest.takeWhile Char.isDigit
      let (n, _) ← takeDigits (min ds.length 9) rest
      some (n * Nat.pow 10 (9 - min ds.length 9), rest.drop ds.length)
    | cs => some (0, cs)
  let offset ← takeOffset cs
  if month = 0 ∨ 12 < month ∨ day = 0 ∨ Date.monthLength year month < day
      ∨ 23 < hour ∨ 59 < minute ∨ 59 < second then none
  let total := Date.days ⟨year, month, day⟩ * 86400
    + (hour * 3600 + minute * 60 + second : Nat) - offset
  some ⟨total, nanos⟩

/-- A point in time in a document is its text. -/
def codec : Codec Timestamp where
  read node := do
    let t ← (Codec.textAs "a formatted date and time string or a unix timestamp").read node
    match ofText? t with
    | some u => pure u
    | none => Reading.fail .unsuitable
  write t := .text t.documentText

end Timestamp

end Converge
