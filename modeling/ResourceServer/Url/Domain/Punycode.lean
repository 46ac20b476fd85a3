/-! Labels beyond ASCII as letters, digits and hyphens: the ASCII characters of a label come first, then a
number for each other character, which says how far it is from the one before. -/

namespace ResourceServer.Url.Domain

/-- The digits of a delta in the encoding of labels beyond ASCII. -/
def deltaDigits (bias : Nat) : Nat → Nat → Nat → List Char
  | 0, _, _ => []
  | fuel + 1, k, delta =>
    let digit (value : Nat) : Char :=
      if value < 26 then Char.ofNat (97 + value) else Char.ofNat (22 + value)
    let threshold := if k ≤ bias then 1 else if bias + 26 ≤ k then 26 else k - bias
    if delta < threshold then [digit delta]
    else
      digit (threshold + (delta - threshold) % (36 - threshold)) ::
        deltaDigits bias fuel (k + 36) ((delta - threshold) / (36 - threshold))

def adaptBias (delta count : Nat) (first : Bool) : Nat :=
  let halved := if first then delta / 700 else delta / 2
  let rec loop : Nat → Nat → Nat → Nat
    | 0, delta, k => k + 36 * delta / (delta + 38)
    | fuel + 1, delta, k =>
      if 455 < delta then loop fuel (delta / 35) (k + 36) else k + 36 * delta / (delta + 38)
  loop 64 (halved + halved / count) 0

/-- One pass over a label: emits a delta for every occurrence of a code point. -/
def encodePass (code basic : Nat) :
    List Char → (Nat × Nat × Nat × List Char) → (Nat × Nat × Nat × List Char)
  | [], state => state
  | c :: rest, (delta, bias, handled, digits) =>
    if c.toNat < code then encodePass code basic rest (delta + 1, bias, handled, digits)
    else if c.toNat = code then
      let output := deltaDigits bias 32 36 delta
      encodePass code basic rest
        (0, adaptBias delta (handled + 1) (handled = basic), handled + 1, digits ++ output)
    else encodePass code basic rest (delta, bias, handled, digits)

/-- Passes over a label for its code points beyond ASCII, in increasing order. -/
def encodePasses (label : List Char) (basic : Nat) :
    List Nat → Nat → (Nat × Nat × Nat × List Char) → List Char
  | [], _, (_, _, _, digits) => digits
  | code :: rest, next, (delta, bias, handled, digits) =>
    let state := (delta + (code - next) * (handled + 1), bias, handled, digits)
    let (delta, bias, handled, digits) := encodePass code basic label state
    encodePasses label basic rest (code + 1) (delta + 1, bias, handled, digits)

/-- The encoded form of a label. -/
def encodePunycode (label : List Char) : List Char :=
  let basic := label.filter fun c => c.toNat < 128
  let codes := ((label.filter fun c => 128 ≤ c.toNat).map Char.toNat).eraseDups.mergeSort
  let lead := if basic.isEmpty then [] else basic ++ ['-']
  lead ++ encodePasses label basic.length codes 128 (0, 72, basic.length, [])

def digitValue? (c : Char) : Option Nat :=
  if c.isLower then some (c.toNat - 97)
  else if c.isUpper then some (c.toNat - 65)
  else if c.isDigit then some (c.toNat - 22)
  else none

/-- Numbers of a label stay below this bound. -/
def numberBound : Nat := 4294967296

/-- A label that is being decoded: its characters so far, the place and the code point of the next one. -/
structure PunycodeReading where
  label : List Char
  place : Nat
  code : Nat
  bias : Nat

/-- Reads a number in digits of growing weight, added to a start; gives the sum and the rest. -/
def readDelta? (bias : Nat) : List Char → Nat → Nat → Nat → Option (Nat × List Char)
  | [], _, _, _ => none
  | c :: rest, position, weight, sum => do
    let digit ← digitValue? c
    let sum := sum + digit * weight
    if numberBound ≤ sum then none
    let threshold := if position ≤ bias then 1 else if bias + 26 ≤ position then 26 else position - bias
    if digit < threshold then some (sum, rest)
    else
      let weight := weight * (36 - threshold)
      if numberBound ≤ weight then none
      else readDelta? bias rest (position + 36) weight sum

/-- Puts the characters in that the digits name, at most so many. -/
def insertCodes? : Nat → List Char → PunycodeReading → Option (List Char)
  | _, [], reading => some reading.label
  | 0, _, _ => none
  | limit + 1, digits, reading => do
    let (sum, rest) ← readDelta? reading.bias digits 36 1 reading.place
    let count := reading.label.length + 1
    let code := reading.code + sum / count
    let place := sum % count
    if !code.isValidChar then none
    let label := reading.label.take place ++ Char.ofNat code :: reading.label.drop place
    let bias := adaptBias (sum - reading.place) count (reading.place = 0)
    insertCodes? limit rest ⟨label, place + 1, code, bias⟩

/-- The label that an encoded form stands for. -/
def decodePunycode? (text : List Char) : Option (List Char) :=
  let digits := (text.reverse.takeWhile (· ≠ '-')).reverse
  let basic := text.take (text.length - digits.length - 1)
  if basic.isEmpty then insertCodes? text.length text ⟨[], 0, 128, 72⟩
  else insertCodes? digits.length digits ⟨basic, 0, 128, 72⟩

end ResourceServer.Url.Domain
