import ResourceServer.Number.Binary64
/-! The shortest decimal that reads back as a given double, and its two layouts. -/

namespace ResourceServer.Number

/-- The decimal `digits * 10 ^ exponent`. -/
structure Decimal where
  digits : Nat
  exponent : Int
  deriving DecidableEq, Repr

/-- Which neighbour is taken when two shortest decimals are equally near. -/
inductive Tie
  | up
  | even
  deriving DecidableEq, Repr

namespace Shortest

/-- The reals that round to one magnitude, as numerators over a common denominator. -/
structure Interval where
  low : Nat
  value : Nat
  high : Nat
  denominator : Nat
  closed : Bool

/-- The reals that round to a finite magnitude. The gap below a power of two is half as wide, and the
ends belong to the interval when the significand is even. -/
def interval (magnitude : Nat) : Interval :=
  let m := Binary64.significand magnitude
  let e := Binary64.exponent magnitude
  let narrow := decide (2 * Binary64.leadingBit ≤ magnitude ∧ magnitude % Binary64.leadingBit = 0)
  let low := if narrow then 4 * m - 1 else 4 * m - 2
  let scale := if e < 2 then 1 else Nat.pow 2 (e - 2).toNat
  let denominator := if e < 2 then Nat.pow 2 (2 - e).toNat else 1
  ⟨low * scale, 4 * m * scale, (4 * m + 2) * scale, denominator, m % 2 = 0⟩

def Interval.contains (range : Interval) (numerator denominator : Nat) : Bool :=
  let point := numerator * range.denominator
  if range.closed then
    decide (range.low * denominator ≤ point ∧ point ≤ range.high * denominator)
  else
    decide (range.low * denominator < point ∧ point < range.high * denominator)

/-- The better of the two neighbours of the value on the grid of multiples of `10 ^ exponent`, if one of
them lies in the interval. -/
def onGrid (tie : Tie) (range : Interval) (exponent : Int) : Option Decimal :=
  let unit := if exponent < 0 then 1 else Nat.pow 10 exponent.toNat
  let parts := if exponent < 0 then Nat.pow 10 (-exponent).toNat else 1
  let scaled := range.value * parts
  let cell := range.denominator * unit
  let below := scaled / cell
  let remainder := scaled % cell
  let lower := range.contains (below * unit) parts && below != 0
  let upper := range.contains ((below + 1) * unit) parts
  let preferUpper :=
    if 2 * remainder = cell then (match tie with | .up => true | .even => below % 2 = 1)
    else decide (cell < 2 * remainder)
  if lower && upper then some ⟨if preferUpper then below + 1 else below, exponent⟩
  else if lower then some ⟨below, exponent⟩
  else if upper then some ⟨below + 1, exponent⟩
  else none

/-- The decimal exponent of the first digit of `numerator / denominator`. -/
def leadingExponent (numerator denominator : Nat) : Int :=
  let guess : Int := ((numerator.log2 : Int) - denominator.log2) * 30103 / 100000
  let reaches (e : Int) : Bool :=
    if e < 0 then decide (denominator ≤ numerator * Nat.pow 10 (-e).toNat)
    else decide (denominator * Nat.pow 10 e.toNat ≤ numerator)
  if reaches (guess + 1) then guess + 1 else if reaches guess then guess else guess - 1

/-- Tries grids from coarse to fine, at most `count` of them. -/
def search (tie : Tie) (range : Interval) (exponent : Int) : Nat → Decimal
  | 0 => ⟨0, 0⟩
  | count + 1 =>
    match onGrid tie range exponent with
    | some decimal => decimal
    | none => search tie range (exponent - 1) count

/-- Drops the trailing zeros of a digit string. -/
def strip (decimal : Decimal) : Nat → Decimal
  | 0 => decimal
  | fuel + 1 =>
    if decimal.digits ≠ 0 ∧ decimal.digits % 10 = 0 then
      strip ⟨decimal.digits / 10, decimal.exponent + 1⟩ fuel
    else decimal

end Shortest

/-- The shortest decimal that reads back as a finite magnitude above zero, nearest to it among those. -/
def shortest (tie : Tie) (magnitude : Nat) : Decimal :=
  let range := Shortest.interval magnitude
  let first := Shortest.leadingExponent range.value range.denominator
  Shortest.strip (Shortest.search tie range (first + 1) 19) 20

def digitText (digits : Nat) : String :=
  String.ofList (Nat.toDigits 10 digits)

def zeros (count : Nat) : String :=
  String.ofList (List.replicate count '0')

/-- Positional notation: every digit, no exponent and no superfluous point. -/
def Decimal.positional (decimal : Decimal) : String :=
  let text := digitText decimal.digits
  if 0 ≤ decimal.exponent then text ++ zeros decimal.exponent.toNat
  else
    let places := (-decimal.exponent).toNat
    if text.length ≤ places then "0." ++ zeros (places - text.length) ++ text
    else
      let whole := text.length - places
      String.ofList (text.toList.take whole) ++ "." ++ String.ofList (text.toList.drop whole)

/-- The notation of numbers in JSON text: positional from `1e-5` up to below `1e16`, where a whole number
ends in `.0`, and scientific elsewhere, with the sign of the exponent written. -/
def Decimal.scientific (decimal : Decimal) : String :=
  let text := digitText decimal.digits
  let point : Int := decimal.exponent + text.length
  if 0 ≤ decimal.exponent ∧ point ≤ 16 then text ++ zeros decimal.exponent.toNat ++ ".0"
  else if -5 < point ∧ point ≤ 16 then decimal.positional
  else
    let power := point - 1
    let sign := if power < 0 then "-" else "+"
    let mantissa :=
      if text.length = 1 then text
      else String.ofList (text.toList.take 1) ++ "." ++ String.ofList (text.toList.drop 1)
    mantissa ++ "e" ++ sign ++ digitText power.natAbs

namespace Binary64

/-- The text of a number among other text: positional, without a point when it is whole. -/
def text : Binary64 → String
  | .nan => "NaN"
  | .signed negative magnitude =>
    let body :=
      if magnitude = 0 then "0"
      else if magnitude < infinity then (shortest .up magnitude).positional
      else "inf"
    if negative then "-" ++ body else body

/-- The text of a finite number in JSON. -/
def jsonText : Binary64 → String
  | .nan => "null"
  | .signed negative magnitude =>
    let body :=
      if magnitude = 0 then "0.0"
      else if magnitude < infinity then (shortest .even magnitude).scientific
      else "null"
    if negative then "-" ++ body else body

end Binary64

end ResourceServer.Number
