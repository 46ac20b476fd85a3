import ResourceServer.Number.Binary64
/-! Numerals: whole numbers, decimals, and the two ways a decimal becomes a double. -/

namespace ResourceServer.Number

/-- The bounds of a stored whole number. -/
def minInteger : Int := -9223372036854775808
def maxInteger : Int := 9223372036854775807

def isStorable (value : Int) : Bool :=
  minInteger ≤ value && value ≤ maxInteger

/-- The digits at the front of a text, and the rest. -/
def spanDigits (text : List Char) : List Char × List Char :=
  text.span Char.isDigit

def digitValue (digit : Char) : Nat :=
  digit.toNat - 48

/-- The value of a digit string read after `start`. -/
def numeral (start : Nat) (digits : List Char) : Nat :=
  digits.foldl (fun value digit => 10 * value + digitValue digit) start

/-- Splits an optional sign off a text; `true` is a minus. -/
def spanSign : List Char → Bool × List Char
  | '-' :: rest => (true, rest)
  | '+' :: rest => (false, rest)
  | text => (false, text)

/-- A whole number is an optional sign and digits, within 64 bits. -/
def readInteger? (text : String) : Option Int :=
  let (negative, rest) := spanSign text.toList
  let (digits, rest) := spanDigits rest
  if digits.isEmpty || !rest.isEmpty then none
  else
    let value : Int := numeral 0 digits
    let value := if negative then -value else value
    if isStorable value then some value else none

namespace Binary64

/-- The double nearest to `digits * 10 ^ exponent`. Exponents far outside the range of doubles are
answered without computing the power. -/
def ofDecimal (negative : Bool) (digits : Nat) (exponent : Int) : Binary64 :=
  if digits = 0 then .signed negative 0
  else
    let size : Int := (Nat.toDigits 10 digits).length + exponent
    if 310 < size then .signed negative infinity
    else if size < -330 then .signed negative 0
    else if 0 ≤ exponent then ofFraction negative (digits * Nat.pow 10 exponent.toNat) 1
    else ofFraction negative digits (Nat.pow 10 (-exponent).toNat)

/-- The double nearest to a power of ten. -/
def powerOfTen (exponent : Nat) : Binary64 :=
  ofFraction false (Nat.pow 10 exponent) 1

end Binary64

/-- An exponent mark, an optional sign and digits. -/
def readExponent? : List Char → Option (Int × List Char)
  | mark :: rest =>
    if mark = 'e' ∨ mark = 'E' then
      let (negative, rest) := spanSign rest
      let (digits, rest) := spanDigits rest
      if digits.isEmpty then none
      else
        let value : Int := numeral 0 digits
        some (if negative then -value else value, rest)
    else none
  | [] => none

/-- A decimal is a sign, digits around an optional point with a digit on at least one side, and an
optional exponent; infinity and NaN are spelled in any case. -/
def readDecimal? (text : String) : Option Binary64 :=
  let (negative, body) := spanSign text.toList
  let word := String.ofList (body.map Char.toLower)
  if word = "inf" ∨ word = "infinity" then some (.signed negative Binary64.infinity)
  else if word = "nan" then some .nan
  else
    let (whole, rest) := spanDigits body
    let (places, rest) :=
      match rest with
      | '.' :: rest => spanDigits rest
      | rest => ([], rest)
    if whole.isEmpty && places.isEmpty then none
    else
      let digits := numeral 0 (whole ++ places)
      if rest.isEmpty then some (Binary64.ofDecimal negative digits (-(places.length : Int)))
      else
        match readExponent? rest with
        | some (exponent, []) =>
          some (Binary64.ofDecimal negative digits (exponent - places.length))
        | _ => none

/-- The number of 64-bit words. -/
def wordCount : Nat := 18446744073709551616

/-- Reads digits while the value stays within 64 bits; the digits that no longer fit are left over. -/
def fillWord (value : Nat) : List Char → Nat × List Char
  | [] => (value, [])
  | digit :: rest =>
    let next := 10 * value + digitValue digit
    if next < wordCount then fillWord next rest else (value, digit :: rest)

/-- A 64-bit significand times a power of ten in steps that each round: the significand, the power, and
their product or quotient. A value too large for a double has none. -/
def scaleWord? (significand : Nat) (exponent : Int) : Option Binary64 :=
  let start := Binary64.ofInt significand
  if 0 ≤ exponent then
    if 308 < exponent then if significand = 0 then some Binary64.zero else none
    else
      let value := start.mul (Binary64.powerOfTen exponent.toNat)
      if value.isFinite then some value else none
  else
    let places := (-exponent).toNat
    if places ≤ 308 then some (start.div (Binary64.powerOfTen places))
    else if places ≤ 616 then
      some ((start.div (Binary64.powerOfTen 308)).div (Binary64.powerOfTen (places - 308)))
    else some Binary64.zero

end ResourceServer.Number
