import ResourceServer.Calendar.Date
import ResourceServer.Number.Reading
/-! Spans of time in whole microseconds. -/

namespace ResourceServer.Calendar

open ResourceServer.Number

structure Duration where
  microseconds : Int
  deriving DecidableEq, Repr

namespace Duration

def compare (left right : Duration) : Ordering :=
  Ord.compare left.microseconds right.microseconds

def microsecondsPerSecond : Binary64 := .powerOfTen 6

/-- The span in seconds. -/
def seconds (duration : Duration) : Binary64 :=
  (Binary64.ofInt duration.microseconds).div microsecondsPerSecond

/-- A number of seconds rounded to microseconds, if it is finite and its microseconds fit in 64 bits. -/
def ofSeconds? (seconds : Binary64) : Option Duration := do
  let rounded ← (seconds.mul microsecondsPerSecond).round?
  if minInteger ≤ rounded ∧ rounded ≤ maxInteger + 1 then some ⟨min maxInteger rounded⟩ else none

/-- A fraction of a second without its trailing zeros. -/
def stripZeros (fraction : List Char) : List Char :=
  (fraction.reverse.dropWhile (· = '0')).reverse

/-- The span in the style `PT1.5S`, the sign in front. -/
def text (duration : Duration) : String :=
  let sign := if duration.microseconds < 0 then "-" else ""
  let size := duration.microseconds.natAbs
  if size = 0 then "P0D"
  else
    let fraction := stripZeros (padded 6 (size % 1000000)).toList
    let places := if fraction.isEmpty then "" else "." ++ String.ofList fraction
    sign ++ "PT" ++ digitText (size / 1000000) ++ places ++ "S"

end Duration

end ResourceServer.Calendar
