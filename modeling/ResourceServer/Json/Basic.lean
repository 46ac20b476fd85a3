import ResourceServer.Keyed
import ResourceServer.Number.Reading
import ResourceServer.Number.Shortest
/-! JSON values and their compact texts. Objects hold their members in the order of their keys, each key once. -/

namespace ResourceServer

open ResourceServer.Number

inductive Json
  | null
  | bool (value : Bool)
  | integer (value : Int)
  | decimal (value : Binary64)
  | string (text : String)
  | array (items : List Json)
  | object (members : List (String × Json))
  deriving Repr, Inhabited

namespace Json

/-- The object of some members; of two members with one key the later counts. -/
def ofMembers (members : List (String × Json)) : Json :=
  .object (Keyed.ofList members)

def get? (json : Json) (key : String) : Option Json :=
  match json with
  | .object members => Keyed.get? members key
  | _ => none

def string? : Json → Option String
  | .string text => some text
  | _ => none

/-- A number that is whole and fits in a stored integer. -/
def integer? : Json → Option Int
  | .integer value => if isStorable value then some value else none
  | _ => none

/-- Any number, as a double. -/
def decimal? : Json → Option Binary64
  | .integer value => some (.ofInt value)
  | .decimal value => some value
  | _ => none

/-- A number of JSON text must be finite. -/
def ofBinary64? (value : Binary64) : Option Json :=
  if value.isFinite then some (.decimal value) else none

/-! Compact texts. -/

def hexDigit (value : Nat) : Char :=
  if value < 10 then Char.ofNat (48 + value) else Char.ofNat (87 + value)

/-- Quotes, backslashes and control characters are escaped; all other characters stand for themselves. -/
def escape (c : Char) : List Char :=
  if c = '"' then ['\\', '"']
  else if c = '\\' then ['\\', '\\']
  else if c = '\x08' then ['\\', 'b']
  else if c = '\t' then ['\\', 't']
  else if c = '\n' then ['\\', 'n']
  else if c = '\x0c' then ['\\', 'f']
  else if c = '\r' then ['\\', 'r']
  else if c.toNat < 32 then
    ['\\', 'u', '0', '0', hexDigit (c.toNat / 16), hexDigit (c.toNat % 16)]
  else [c]

def quote (text : String) : String :=
  "\"" ++ String.ofList (text.toList.flatMap escape) ++ "\""

mutual

/-- The text of a value, without blanks. -/
def render : Json → String
  | .null => "null"
  | .bool value => if value then "true" else "false"
  | .integer value => toString value
  | .decimal value => value.jsonText
  | .string text => quote text
  | .array items => "[" ++ renderItems items ++ "]"
  | .object members => "\x7b" ++ renderMembers members ++ "\x7d"

def renderItems : List Json → String
  | [] => ""
  | [item] => render item
  | item :: rest => render item ++ "," ++ renderItems rest

def renderMembers : List (String × Json) → String
  | [] => ""
  | [(key, value)] => quote key ++ ":" ++ render value
  | (key, value) :: rest => quote key ++ ":" ++ render value ++ "," ++ renderMembers rest

end

end Json

end ResourceServer
