/-! Double precision numbers as a sign and a magnitude, with exact rounding from fractions. -/

namespace ResourceServer.Number

/-- A double precision number. The magnitude is the bit pattern without its sign bit, so the order of
magnitudes is the order of absolute values; `Binary64.infinity` is the largest one in use. -/
inductive Binary64
  | nan
  | signed (negative : Bool) (magnitude : Nat)
  deriving DecidableEq, Repr, Inhabited

namespace Binary64

/-- The leading bit of a normal significand, and the number of significands with one exponent. -/
def leadingBit : Nat := 4503599627370496

/-- The magnitude of both infinities. -/
def infinity : Nat := 2047 * leadingBit

def zero : Binary64 := .signed false 0

def isFinite : Binary64 → Bool
  | .nan => false
  | .signed _ magnitude => magnitude < infinity

/-- The position of a number on the line; the two zeros share one. -/
def rank? : Binary64 → Option Int
  | .nan => none
  | .signed true magnitude => some (-(magnitude : Int))
  | .signed false magnitude => some magnitude

/-- Numbers compare by rank, and nothing compares with a NaN. -/
def compare? (left right : Binary64) : Option Ordering :=
  match left.rank?, right.rank? with
  | some l, some r => some (Ord.compare l r)
  | _, _ => none

def neg : Binary64 → Binary64
  | .nan => .nan
  | .signed negative magnitude => .signed (!negative) magnitude

/-- A finite magnitude stands for `significand * 2 ^ exponent`. -/
def significand (magnitude : Nat) : Nat :=
  if magnitude < leadingBit then magnitude else leadingBit + magnitude % leadingBit

def exponent (magnitude : Nat) : Int :=
  if magnitude < leadingBit then -1074 else (magnitude / leadingBit : Nat) - 1075

/-- The quotient rounded to the nearest natural number, a half going to the even neighbour. -/
def roundHalfEven (numerator denominator : Nat) : Nat :=
  let quotient := numerator / denominator
  let twice := 2 * (numerator % denominator)
  if twice < denominator then quotient
  else if denominator < twice then quotient + 1
  else quotient + quotient % 2

/-- `numerator / denominator` in units of `2 ^ scale`, as a numerator and a denominator. -/
def inUnits (numerator denominator : Nat) (scale : Int) : Nat × Nat :=
  if scale < 0 then (numerator * Nat.pow 2 (-scale).toNat, denominator)
  else (numerator, denominator * Nat.pow 2 scale.toNat)

/-- The exponent of the largest power of two that is at most the fraction. -/
def binaryExponent (numerator denominator : Nat) : Int :=
  let guess : Int := (numerator.log2 : Int) - denominator.log2
  let (scaled, unit) := inUnits numerator denominator guess
  if scaled < unit then guess - 1 else guess

/-- The magnitude nearest to a fraction, ties going to the even pattern. -/
def magnitudeOfFraction (numerator denominator : Nat) : Nat :=
  if numerator = 0 then 0
  else
    let scale := max (binaryExponent numerator denominator - 52) (-1074)
    let (scaled, unit) := inUnits numerator denominator scale
    min ((scale + 1074).toNat * leadingBit + roundHalfEven scaled unit) infinity

def ofFraction (negative : Bool) (numerator denominator : Nat) : Binary64 :=
  .signed negative (magnitudeOfFraction numerator denominator)

def ofInt (value : Int) : Binary64 :=
  ofFraction (value < 0) value.natAbs 1

/-- A finite magnitude as a numerator and a denominator. -/
def fraction (magnitude : Nat) : Nat × Nat :=
  if exponent magnitude < 0 then (significand magnitude, Nat.pow 2 (-(exponent magnitude)).toNat)
  else (significand magnitude * Nat.pow 2 (exponent magnitude).toNat, 1)

/-- The rounded product. -/
def mul : Binary64 → Binary64 → Binary64
  | .signed negative magnitude, .signed negative' magnitude' =>
    if magnitude < infinity ∧ magnitude' < infinity then
      let (numerator, denominator) := fraction magnitude
      let (numerator', denominator') := fraction magnitude'
      ofFraction (negative != negative') (numerator * numerator') (denominator * denominator')
    else if magnitude = 0 ∨ magnitude' = 0 then .nan
    else .signed (negative != negative') infinity
  | _, _ => .nan

/-- The rounded quotient of a number by a finite nonzero one. -/
def div : Binary64 → Binary64 → Binary64
  | .signed negative magnitude, .signed negative' magnitude' =>
    if magnitude' = 0 ∨ infinity ≤ magnitude' then .nan
    else if magnitude < infinity then
      let (numerator, denominator) := fraction magnitude
      let (numerator', denominator') := fraction magnitude'
      ofFraction (negative != negative') (numerator * denominator') (denominator * numerator')
    else .signed (negative != negative') infinity
  | _, _ => .nan

/-- The nearest integer, a half going away from zero; only finite numbers have one. -/
def round? : Binary64 → Option Int
  | .nan => none
  | .signed negative magnitude =>
    if magnitude < infinity then
      let (numerator, denominator) := fraction magnitude
      let nearest : Int := ((2 * numerator + denominator) / (2 * denominator) : Nat)
      some (if negative then -nearest else nearest)
    else none

end Binary64

end ResourceServer.Number
