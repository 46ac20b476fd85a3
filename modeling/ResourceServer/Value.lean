import ResourceServer.Calendar.Duration
import ResourceServer.Calendar.Time
/-! The values that fields hold. -/

namespace ResourceServer

open ResourceServer.Number ResourceServer.Calendar

inductive Value
  | null
  | bool (value : Bool)
  | integer (value : Int)
  | decimal (value : Binary64)
  | string (text : String)
  | label (text : String)
  | date (value : Date)
  | timestamp (value : Timestamp)
  | time (value : Time)
  | duration (value : Duration)
  deriving DecidableEq

namespace Value

def isNull : Value → Bool
  | .null => true
  | _ => false

def text : Value → String
  | .null => "null"
  | .bool value => if value then "true" else "false"
  | .integer value => toString value
  | .decimal value => value.text
  | .string text => text
  | .label text => text
  | .date value => value.text
  | .timestamp value => value.text "T"
  | .time value => value.text
  | .duration value => value.seconds.text

/-- Values compare within one type, numbers also across their two types; null compares with nothing. -/
def compare? : Value → Value → Option Ordering
  | .bool l, .bool r => some (Ord.compare l r)
  | .integer l, .integer r => some (Ord.compare l r)
  | .decimal l, .decimal r => l.compare? r
  | .integer l, .decimal r => (Binary64.ofInt l).compare? r
  | .decimal l, .integer r => l.compare? (Binary64.ofInt r)
  | .string l, .string r => some (Ord.compare l r)
  | .label l, .label r => some (Ord.compare l r)
  | .date l, .date r => some (l.compare r)
  | .timestamp l, .timestamp r => some (l.compare r)
  | .time l, .time r => some (l.compare r)
  | .duration l, .duration r => some (l.compare r)
  | _, _ => none

end Value

end ResourceServer
