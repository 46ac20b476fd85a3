import ResourceServer.Text.Split
/-! Percent encoding, reading bytes as text with replacement of what is no text, and query strings. -/

namespace ResourceServer.Url

def hexDigit (value : Nat) : Char :=
  if value < 10 then Char.ofNat (48 + value) else Char.ofNat (55 + value)

def hexValue? (c : Char) : Option Nat :=
  if '0' ≤ c ∧ c ≤ '9' then some (c.toNat - 48)
  else if 'a' ≤ c ∧ c ≤ 'f' then some (c.toNat - 87)
  else if 'A' ≤ c ∧ c ≤ 'F' then some (c.toNat - 55)
  else none

def encodeByte (byte : UInt8) : List Char :=
  ['%', hexDigit (byte.toNat / 16), hexDigit (byte.toNat % 16)]

/-- Control characters and everything beyond ASCII are encoded everywhere. -/
def isControl (c : Char) : Bool :=
  c.toNat < 32 || 126 < c.toNat

def isFragmentReserved (c : Char) : Bool :=
  isControl c || [' ', '"', '<', '>', '\x60'].contains c

def isPathReserved (c : Char) : Bool :=
  isFragmentReserved c || ['#', '?', '\x7b', '\x7d'].contains c

def isUserReserved (c : Char) : Bool :=
  isPathReserved c || ['/', ':', ';', '=', '@', '[', '\\', ']', '^', '|'].contains c

def isQueryReserved (c : Char) : Bool :=
  isControl c || [' ', '"', '#', '<', '>'].contains c

def isSpecialQueryReserved (c : Char) : Bool :=
  isQueryReserved c || c = '\''

/-- Writes the reserved characters as the bytes of their encoding. -/
def percentEncode (reserved : Char → Bool) (text : List Char) : List Char :=
  text.flatMap fun c =>
    if reserved c then (String.utf8EncodeChar c).flatMap encodeByte else [c]

/-- The bytes of a text, a percent sign and two hexadecimal digits standing for one byte. -/
def percentDecode : List Char → List UInt8
  | [] => []
  | '%' :: a :: b :: rest =>
    match hexValue? a, hexValue? b with
    | some high, some low => UInt8.ofNat (16 * high + low) :: percentDecode rest
    | _, _ => String.utf8EncodeChar '%' ++ percentDecode (a :: b :: rest)
  | c :: rest => String.utf8EncodeChar c ++ percentDecode rest

def replacement : Char := Char.ofNat 0xFFFD

/-- The number of bytes that follow a first byte, with the range of the next one. -/
def following (first : UInt8) : Option (Nat × UInt8 × UInt8) :=
  if 0xC2 ≤ first ∧ first ≤ 0xDF then some (1, 0x80, 0xBF)
  else if first = 0xE0 then some (2, 0xA0, 0xBF)
  else if first = 0xED then some (2, 0x80, 0x9F)
  else if 0xE1 ≤ first ∧ first ≤ 0xEF then some (2, 0x80, 0xBF)
  else if first = 0xF0 then some (3, 0x90, 0xBF)
  else if 0xF1 ≤ first ∧ first ≤ 0xF3 then some (3, 0x80, 0xBF)
  else if first = 0xF4 then some (3, 0x80, 0x8F)
  else none

/-- The state between two bytes: no character begun, or the bits read, the bytes missing and the range of
the next one. -/
inductive Decoding
  | idle
  | pending (bits missing : Nat) (low high : UInt8)

/-- What a byte adds when no character is begun. -/
def begin (byte : UInt8) : List Char × Decoding :=
  if byte < 0x80 then ([Char.ofNat byte.toNat], .idle)
  else
    match following byte with
    | some (count, low, high) =>
      let mask := if count = 1 then 32 else if count = 2 then 16 else 8
      ([], .pending (byte.toNat % mask) count low high)
    | none => ([replacement], .idle)

/-- Decodes bytes as text; the longest beginning of a character that leads nowhere becomes one replacement
character. -/
def decodeFrom (state : Decoding) : List UInt8 → List Char
  | [] =>
    match state with
    | .idle => []
    | .pending _ _ _ _ => [replacement]
  | byte :: rest =>
    match state with
    | .idle =>
      let (read, state) := begin byte
      read ++ decodeFrom state rest
    | .pending bits missing low high =>
      if low ≤ byte ∧ byte ≤ high then
        let bits := bits * 64 + byte.toNat % 64
        if missing = 1 then Char.ofNat bits :: decodeFrom .idle rest
        else decodeFrom (.pending bits (missing - 1) 0x80 0xBF) rest
      else
        let (read, state) := begin byte
        replacement :: read ++ decodeFrom state rest

def decodeText (bytes : List UInt8) : List Char :=
  decodeFrom .idle bytes

/-! Query strings as lists of keys and values. -/

/-- One part of a pair: a plus sign is a blank, then percent decoding. -/
def decodePart (text : List Char) : String :=
  String.ofList (decodeText (percentDecode (text.map fun c => if c = '+' then ' ' else c)))

/-- A pair is cut at its first equals sign; without one the value is empty. -/
def decodePair (piece : List Char) : String × String :=
  let (key, value) := piece.span (· ≠ '=')
  (decodePart key, decodePart (value.drop 1))

/-- The pairs of a query string; empty pieces are no pairs. -/
def decodeForm (query : String) : List (String × String) :=
  ((Text.splitChars '&' [] query.toList).filter fun piece => !piece.isEmpty).map decodePair

/-- Letters, digits and `*-._` stand for themselves, a blank is a plus sign, and all else is encoded. -/
def encodePart (text : String) : List Char :=
  text.toList.flatMap fun c =>
    if c.isAlphanum || ['*', '-', '.', '_'].contains c then [c]
    else if c = ' ' then ['+']
    else (String.utf8EncodeChar c).flatMap encodeByte

def encodeForm (pairs : List (String × String)) : String :=
  "&".intercalate (pairs.map fun (key, value) =>
    String.ofList (encodePart key ++ '=' :: encodePart value))

end ResourceServer.Url
