import ResourceServer.Json.Basic
/-! Reading JSON text. Values may nest at most 127 deep. -/

namespace ResourceServer.Json

open ResourceServer.Number

/-- The nesting of arrays and objects that a text may have. -/
def maxDepth : Nat := 127

def isBlank (c : Char) : Bool :=
  c = ' ' || c = '\t' || c = '\n' || c = '\r'

def skipBlanks (text : List Char) : List Char :=
  text.dropWhile isBlank

def hexValue? (c : Char) : Option Nat :=
  if '0' ≤ c ∧ c ≤ '9' then some (c.toNat - 48)
  else if 'a' ≤ c ∧ c ≤ 'f' then some (c.toNat - 87)
  else if 'A' ≤ c ∧ c ≤ 'F' then some (c.toNat - 55)
  else none

/-- Four hexadecimal digits. -/
def readUnit? : List Char → Option (Nat × List Char)
  | a :: b :: c :: d :: rest => do
    let a ← hexValue? a
    let b ← hexValue? b
    let c ← hexValue? c
    let d ← hexValue? d
    some (((a * 16 + b) * 16 + c) * 16 + d, rest)
  | _ => none

/-- What follows a backslash and `u`: one unit, or a surrogate pair in two escapes. -/
def readUnicode? (text : List Char) : Option (Char × List Char) := do
  let (unit, rest) ← readUnit? text
  if 0xD800 ≤ unit ∧ unit < 0xDC00 then
    match rest with
    | '\\' :: 'u' :: rest =>
      let (low, rest) ← readUnit? rest
      if 0xDC00 ≤ low ∧ low < 0xE000 then
        some (Char.ofNat (0x10000 + (unit - 0xD800) * 0x400 + (low - 0xDC00)), rest)
      else none
    | _ => none
  else if 0xDC00 ≤ unit ∧ unit < 0xE000 then none
  else some (Char.ofNat unit, rest)

/-- What follows a backslash in a string. -/
def readEscape? : List Char → Option (Char × List Char)
  | '"' :: rest => some ('"', rest)
  | '\\' :: rest => some ('\\', rest)
  | '/' :: rest => some ('/', rest)
  | 'b' :: rest => some ('\x08', rest)
  | 'f' :: rest => some ('\x0c', rest)
  | 'n' :: rest => some ('\n', rest)
  | 'r' :: rest => some ('\r', rest)
  | 't' :: rest => some ('\t', rest)
  | 'u' :: rest => readUnicode? rest
  | _ => none

/-- The rest of a string after its opening quote; `before` holds the characters read, last first. -/
def readString? : Nat → List Char → List Char → Option (String × List Char)
  | 0, _, _ => none
  | fuel + 1, before, text =>
    match text with
    | [] => none
    | '"' :: rest => some (String.ofList before.reverse, rest)
    | '\\' :: rest => do
      let (c, rest) ← readEscape? rest
      readString? fuel (c :: before) rest
    | c :: rest => if c.toNat < 32 then none else readString? fuel (c :: before) rest

/-- A number with neither point nor exponent that fits in 64 bits is whole, save for a negative zero; any
other number is a double. -/
def readNumber? (text : List Char) : Option (Json × List Char) := do
  let (negative, rest) := match text with
    | '-' :: rest => (true, rest)
    | rest => (false, rest)
  let (whole, rest) := spanDigits rest
  if whole.isEmpty || (whole.head? = some '0' && whole.length ≠ 1) then none
  let (significand, surplus) := fillWord 0 whole
  let decimal (significand : Nat) (exponent : Int) (rest : List Char) := do
    let value ← scaleWord? significand exponent
    some (Json.decimal (if negative then value.neg else value), rest)
  let withExponent (significand : Nat) (exponent : Int) (rest : List Char) :=
    match rest with
    | mark :: _ =>
      if mark = 'e' ∨ mark = 'E' then do
        let (power, rest) ← readExponent? rest
        decimal significand (exponent + power) rest
      else decimal significand exponent rest
    | [] => decimal significand exponent rest
  match rest with
  | '.' :: rest =>
    let (places, rest) := spanDigits rest
    if places.isEmpty then none
    let (significand, unread) := fillWord significand places
    withExponent significand (surplus.length - (places.length - unread.length : Nat)) rest
  | _ =>
    let scientific := match rest with
      | mark :: _ => mark = 'e' || mark = 'E'
      | [] => false
    if scientific || !surplus.isEmpty then withExponent significand surplus.length rest
    else if negative then
      if significand = 0 ∨ minInteger.natAbs < significand then
        some (.decimal (Binary64.ofInt significand).neg, rest)
      else some (.integer (-(significand : Int)), rest)
    else some (.integer significand, rest)

/-- Items separated by commas up to a closing character. -/
def readItems? {α : Type} (item : List Char → Option (α × List Char)) (close : Char) :
    Nat → List Char → Option (List α × List Char)
  | 0, _ => none
  | fuel + 1, text => do
    let (first, rest) ← item text
    match skipBlanks rest with
    | ',' :: rest =>
      let (others, rest) ← readItems? item close fuel rest
      some (first :: others, rest)
    | c :: rest => if c = close then some ([first], rest) else none
    | [] => none

/-- An empty list, or items up to a closing character. -/
def readList? {α : Type} (item : List Char → Option (α × List Char)) (close : Char)
    (text : List Char) : Option (List α × List Char) :=
  match skipBlanks text with
  | [] => none
  | c :: rest => if c = close then some ([], rest) else readItems? item close (rest.length + 1) (c :: rest)

/-- A key, a colon and a value. -/
def readMember? (value : List Char → Option (Json × List Char)) (text : List Char) :
    Option ((String × Json) × List Char) :=
  match skipBlanks text with
  | '"' :: rest => do
    let (key, rest) ← readString? (rest.length + 1) [] rest
    match skipBlanks rest with
    | ':' :: rest =>
      let (json, rest) ← value rest
      some ((key, json), rest)
    | _ => none
  | _ => none

def readLiteral? (literal : String) (value : Json) (text : List Char) : Option (Json × List Char) :=
  let expected := literal.toList
  if text.take expected.length = expected then some (value, text.drop expected.length) else none

/-- A value nested at most `depth` deep. -/
def readValue? : Nat → List Char → Option (Json × List Char)
  | depth, text =>
    match skipBlanks text with
    | 'n' :: rest => readLiteral? "ull" .null rest
    | 't' :: rest => readLiteral? "rue" (.bool true) rest
    | 'f' :: rest => readLiteral? "alse" (.bool false) rest
    | '"' :: rest => do
      let (value, rest) ← readString? (rest.length + 1) [] rest
      some (.string value, rest)
    | '[' :: rest =>
      match depth with
      | 0 => none
      | depth + 1 => do
        let (items, rest) ← readList? (readValue? depth) ']' rest
        some (.array items, rest)
    | '\x7b' :: rest =>
      match depth with
      | 0 => none
      | depth + 1 => do
        let (members, rest) ← readList? (readMember? (readValue? depth)) '\x7d' rest
        some (.ofMembers members, rest)
    | text => readNumber? text

/-- The value of a text that holds nothing else. -/
def parse? (text : String) : Option Json := do
  let (json, rest) ← readValue? maxDepth text.toList
  if (skipBlanks rest).isEmpty then some json else none

end ResourceServer.Json
