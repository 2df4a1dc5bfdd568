/-!
# The fewest digits that read back

A finite floating-point number stands for an interval of real numbers, those that round to it.
`Shortest.ofFloat` finds the decimal number with the fewest digits in that interval, and among
those the one nearest to the value itself.  All arithmetic is on natural numbers.
-/

namespace Converge

/-- A positive decimal number: `digits * 10 ^ exponent`. -/
structure Shortest where
  digits : Nat
  exponent : Int
  deriving DecidableEq, Repr

namespace Shortest

/-- The numerator and denominator of `n * 2 ^ q`. -/
def dyadic (n : Nat) (q : Int) : Nat × Nat :=
  if 0 ≤ q then (n * Nat.pow 2 q.toNat, 1) else (n, Nat.pow 2 (-q).toNat)

/-- Compares `n / d` with `k * 10 ^ e`: whether the first is at most the second. -/
def atMost (nd : Nat × Nat) (k : Nat) (e : Int) : Bool :=
  if 0 ≤ e then nd.1 ≤ k * Nat.pow 10 e.toNat * nd.2 else nd.1 * Nat.pow 10 (-e).toNat ≤ k * nd.2

/-- Whether `k * 10 ^ e` is at most `n / d`. -/
def atLeast (nd : Nat × Nat) (k : Nat) (e : Int) : Bool :=
  if 0 ≤ e then k * Nat.pow 10 e.toNat * nd.2 ≤ nd.1 else k * nd.2 ≤ nd.1 * Nat.pow 10 (-e).toNat

/-- The whole part of `n / (d * 10 ^ e)`. -/
def quotient (nd : Nat × Nat) (e : Int) : Nat :=
  if 0 ≤ e then nd.1 / (nd.2 * Nat.pow 10 e.toNat) else nd.1 * Nat.pow 10 (-e).toNat / nd.2

/-- The number `p` with `10 ^ (p - 1) ≤ n / d < 10 ^ p`, searched upwards from a lower bound. -/
def magnitude (nd : Nat × Nat) : Nat → Int → Int
  | 0, p => p
  | fuel + 1, p => if atLeast nd 1 p then magnitude nd fuel (p + 1) else p

/-- Twice the distance between `n / d` and `k * 10 ^ e` is less for `k` than for `k + 1`; on the
middle the even one is nearer. -/
def nearerBelow (nd : Nat × Nat) (k : Nat) (e : Int) : Bool :=
  let middle := 2 * k + 1
  let twice := (2 * nd.1, nd.2)
  if atMost twice middle e && atLeast twice middle e then k % 2 = 0
  else atMost twice middle e

/-- The first number of digits for which a decimal number lies in the interval. -/
def search (value low high : Nat × Nat) (ends : Bool) (p : Int) : Nat → Nat → Shortest
  | 0, d => ⟨quotient value (p - d), p - d⟩
  | fuel + 1, d =>
    let e := p - d
    let k := quotient value e
    let inside := fun j =>
      (if ends then atMost low j e else !atLeast low j e)
        && (if ends then atLeast high j e else !atMost high j e)
    match inside k, inside (k + 1) with
    | true, true => if nearerBelow value k e then ⟨k, e⟩ else ⟨k + 1, e⟩
    | true, false => ⟨k, e⟩
    | false, true => ⟨k + 1, e⟩
    | false, false => search value low high ends p fuel (d + 1)

/-- Takes zeros off the end of the digits. -/
def trimZeros : Nat → Shortest → Shortest
  | 0, s => s
  | fuel + 1, s =>
    if s.digits % 10 = 0 ∧ s.digits ≠ 0 then trimZeros fuel ⟨s.digits / 10, s.exponent + 1⟩ else s

/-- The fewest digits of `m * 2 ^ q`, for a positive `m`; the interval is narrower below when `m`
is the least of its exponent. -/
def ofParts (m : Nat) (q : Int) (leastOfExponent : Bool) : Shortest :=
  let value := dyadic (4 * m) (q - 2)
  let high := dyadic (4 * m + 2) (q - 2)
  let low := dyadic (4 * m - if leastOfExponent then 1 else 2) (q - 2)
  let p := magnitude value 700 (-340)
  trimZeros 20 (search value low high (m % 2 = 0) p 17 1)

/-- The fewest digits of the absolute value of a finite number other than zero. -/
def ofFloat (x : Float) : Shortest :=
  let bits := x.toBits.toNat % 0x8000000000000000
  let exponent : Nat := bits / 0x10000000000000
  let fraction := bits % 0x10000000000000
  if exponent = 0 then ofParts fraction (-1074) false
  else ofParts (0x10000000000000 + fraction) ((exponent : Int) - 1075) (fraction = 0 && 1 < exponent)

end Shortest

/-- How the digits of a number with a fraction are laid out. -/
structure FloatLayout where
  /-- Whether an exponent is used outside the range of ordinary sizes. -/
  scientific : Bool

namespace FloatLayout

/-- Digits with a point in every case. -/
def positional : FloatLayout := ⟨false⟩

/-- Digits with a point from `0.00001` to below `10 ^ 16`, and with an exponent otherwise. -/
def compact : FloatLayout := ⟨true⟩

/-- Digits and exponent of a positive number, laid out. -/
def digits (layout : FloatLayout) (s : Shortest) : String :=
  let ds := toString s.digits
  let n : Int := ds.length
  let point := n + s.exponent
  if layout.scientific && (point > 16 || point ≤ -5) then
    let mantissa := match ds.toList with
      | [c] => c.toString
      | c :: rest => c.toString ++ "." ++ String.ofList rest
      | [] => "0"
    mantissa ++ "e" ++ toString (point - 1)
  else if 0 ≤ s.exponent then
    ds ++ String.ofList (List.replicate s.exponent.toNat '0') ++ ".0"
  else if 0 < point then
    String.ofList (ds.toList.take point.toNat) ++ "." ++ String.ofList (ds.toList.drop point.toNat)
  else
    "0." ++ String.ofList (List.replicate (-point).toNat '0') ++ ds

/-- A number in its fewest digits. -/
def text (layout : FloatLayout) (x : Float) : String :=
  if x.isNaN then "NaN"
  else
    let negative := decide (0x8000000000000000 ≤ x.toBits.toNat)
    let sign := if negative then "-" else ""
    if x.isInf then sign ++ "inf"
    else if x == 0.0 then sign ++ "0.0"
    else sign ++ layout.digits (Shortest.ofFloat x)

end FloatLayout

end Converge
