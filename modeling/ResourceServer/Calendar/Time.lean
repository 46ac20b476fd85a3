import ResourceServer.Calendar.Date
/-! Times of day and timestamps, to the nanosecond and with leap seconds. -/

namespace ResourceServer.Calendar

/-- The times of a day. Any minute may have a second numbered 60. -/
def IsTime (hour minute second nanosecond : Nat) : Prop :=
  hour < 24 ∧ minute < 60 ∧ second ≤ 60 ∧ nanosecond < 1000000000

instance (hour minute second nanosecond : Nat) :
    Decidable (IsTime hour minute second nanosecond) := by
  unfold IsTime; infer_instance

structure Time where
  hour : Nat
  minute : Nat
  second : Nat
  nanosecond : Nat
  valid : IsTime hour minute second nanosecond
  deriving DecidableEq

namespace Time

def ofParts? (hour minute second nanosecond : Nat) : Option Time :=
  if valid : IsTime hour minute second nanosecond then
    some ⟨hour, minute, second, nanosecond, valid⟩
  else none

def midnight : Time := ⟨0, 0, 0, 0, by decide⟩

def compare (left right : Time) : Ordering :=
  (Ord.compare left.hour right.hour).then
    ((Ord.compare left.minute right.minute).then
      ((Ord.compare left.second right.second).then
        (Ord.compare left.nanosecond right.nanosecond)))

/-- A fraction of a second is written in 3, 6 or 9 digits, the fewest that suffice, or not at all. -/
def fractionText (nanosecond : Nat) : String :=
  if nanosecond = 0 then ""
  else if nanosecond % 1000000 = 0 then "." ++ padded 3 (nanosecond / 1000000)
  else if nanosecond % 1000 = 0 then "." ++ padded 6 (nanosecond / 1000)
  else "." ++ padded 9 nanosecond

def text (time : Time) : String :=
  padded 2 time.hour ++ ":" ++ padded 2 time.minute ++ ":" ++ padded 2 time.second ++
    fractionText time.nanosecond

end Time

structure Timestamp where
  date : Date
  time : Time
  deriving DecidableEq

namespace Timestamp

def compare (left right : Timestamp) : Ordering :=
  (left.date.compare right.date).then (left.time.compare right.time)

/-- The date and the time with a separator between them. -/
def text (separator : String) (timestamp : Timestamp) : String :=
  timestamp.date.text ++ separator ++ timestamp.time.text

/-- The same moment read in universal time by a clock that is `offset` minutes ahead of it. -/
def toUniversal? (timestamp : Timestamp) (offset : Int) : Option Timestamp := do
  let minutes : Int := timestamp.time.hour * 60 + timestamp.time.minute - offset
  let date ←
    if minutes < 0 then timestamp.date.previous?
    else if 1440 ≤ minutes then timestamp.date.next?
    else some timestamp.date
  let minutes := (minutes % 1440).toNat
  let time ← Time.ofParts? (minutes / 60) (minutes % 60) timestamp.time.second
    timestamp.time.nanosecond
  some ⟨date, time⟩

end Timestamp

end ResourceServer.Calendar
