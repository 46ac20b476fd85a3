import ResourceServer.Calendar.Reading
import ResourceServer.Json.Basic
import ResourceServer.Value
/-! The types of fields, and how their values are read from text and from JSON and written to JSON. -/

namespace ResourceServer

open ResourceServer.Number ResourceServer.Calendar

inductive FieldType
  | string
  | integer
  | decimal
  | bool
  | date
  | timestamp
  | time
  | duration
  | labels (allowed : List String)
  deriving DecidableEq

namespace FieldType

/-- The name of a type in messages. -/
def name : FieldType → String
  | .string => "string"
  | .integer => "int"
  | .decimal => "float"
  | .bool => "bool"
  | .date => "date"
  | .timestamp => "datetime"
  | .time => "time"
  | .duration => "duration"
  | .labels _ => "enum"

def isTemporal : FieldType → Bool
  | .date | .timestamp | .time => true
  | _ => false

/-- The value of a type that a text spells. -/
def read? (type : FieldType) (text : String) : Option Value :=
  match type with
  | .string => some (.string text)
  | .integer => (readInteger? text).map .integer
  | .decimal => (readDecimal? text).map .decimal
  | .bool =>
    if text = "true" then some (.bool true)
    else if text = "false" then some (.bool false)
    else none
  | .date => (readDate? text.toList).map .date
  | .timestamp => (readTimestamp? text.toList).map .timestamp
  | .time => (readTime? text.toList).map .time
  | .duration => ((readDecimal? text).bind Duration.ofSeconds?).map .duration
  | .labels allowed => if allowed.contains text then some (.label text) else none

/-- The value of a type that a JSON value stands for; null stands for null in every type. -/
def ofJson? (type : FieldType) (json : Json) : Option Value :=
  match type, json with
  | _, .null => some .null
  | .string, .string text => some (.string text)
  | .bool, .bool value => some (.bool value)
  | .integer, json => json.integer?.map .integer
  | .decimal, json => json.decimal?.map .decimal
  | .duration, json => (json.decimal?.bind Duration.ofSeconds?).map .duration
  | .date, .string text => FieldType.date.read? text
  | .timestamp, .string text => FieldType.timestamp.read? text
  | .time, .string text => FieldType.time.read? text
  | .labels allowed, .string text => (FieldType.labels allowed).read? text
  | _, _ => none

end FieldType

/-- The JSON form of a value; an infinite or undefined number has none. -/
def Value.toJson? : Value → Option Json
  | .null => some .null
  | .bool value => some (.bool value)
  | .integer value => some (.integer value)
  | .decimal value => Json.ofBinary64? value
  | .duration value => Json.ofBinary64? value.seconds
  | value => some (.string value.text)

end ResourceServer
