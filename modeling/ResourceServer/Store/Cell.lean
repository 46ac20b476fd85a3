import ResourceServer.Calendar.Duration
import ResourceServer.Calendar.Time
/-! The values that tables hold, and the types of columns. -/

namespace ResourceServer.Store

open ResourceServer.Number ResourceServer.Calendar

inductive ColumnType
  | bool
  | integer
  | decimal
  | text
  | date
  | timestamp
  | time
  | interval
  | serial
  deriving DecidableEq

namespace ColumnType

def name : ColumnType → String
  | .bool => "bool"
  | .integer => "int8"
  | .decimal => "float8"
  | .text => "text"
  | .date => "date"
  | .timestamp => "timestamp"
  | .time => "time"
  | .interval => "interval"
  | .serial => "serial"

end ColumnType

inductive Cell
  | null
  | bool (value : Bool)
  | integer (value : Int)
  | decimal (value : Binary64)
  | text (value : String)
  | date (value : Date)
  | timestamp (value : Timestamp)
  | time (value : Time)
  | interval (value : Duration)
  deriving DecidableEq

namespace Cell

def isNull : Cell → Bool
  | .null => true
  | _ => false

/-- The type of a value other than null. -/
def type? : Cell → Option ColumnType
  | .null => none
  | .bool _ => some .bool
  | .integer _ => some .integer
  | .decimal _ => some .decimal
  | .text _ => some .text
  | .date _ => some .date
  | .timestamp _ => some .timestamp
  | .time _ => some .time
  | .interval _ => some .interval

/-- A value as statements write it. -/
def literal : Cell → String
  | .null => "NULL"
  | .bool value => if value then "true" else "false"
  | .integer value => toString value
  | .decimal value => value.text
  | .text value => "'" ++ value ++ "'"
  | .date value => "'" ++ value.text ++ "'"
  | .timestamp value => "'" ++ value.text " " ++ "'"
  | .time value => "'" ++ value.text ++ "'"
  | .interval value => "'" ++ value.text ++ "'"

/-- Values compare within one type, numbers also across their two types; null compares with nothing. -/
def compare? : Cell → Cell → Option Ordering
  | .bool l, .bool r => some (Ord.compare l r)
  | .integer l, .integer r => some (Ord.compare l r)
  | .decimal l, .decimal r => l.compare? r
  | .integer l, .decimal r => (Binary64.ofInt l).compare? r
  | .decimal l, .integer r => l.compare? (Binary64.ofInt r)
  | .text l, .text r => some (Ord.compare l r)
  | .date l, .date r => some (l.compare r)
  | .timestamp l, .timestamp r => some (l.compare r)
  | .time l, .time r => some (l.compare r)
  | .interval l, .interval r => some (l.compare r)
  | _, _ => none

end Cell

abbrev Row := List Cell

end ResourceServer.Store
