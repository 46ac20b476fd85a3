import ResourceServer.Number.Shortest
/-! Calendar dates of the proleptic Gregorian calendar. -/

namespace ResourceServer.Calendar

/-- A number in at least `width` digits. -/
def padded (width value : Nat) : String :=
  let digits := Number.digitText value
  Number.zeros (width - digits.length) ++ digits

def isLeapYear (year : Int) : Bool :=
  year % 4 = 0 && (year % 100 ≠ 0 || year % 400 = 0)

def daysInMonth (year : Int) (month : Nat) : Nat :=
  if month = 2 then (if isLeapYear year then 29 else 28)
  else if month = 4 ∨ month = 6 ∨ month = 9 ∨ month = 11 then 30
  else 31

def minYear : Int := -262143
def maxYear : Int := 262142

/-- The days that exist. -/
def IsDate (year : Int) (month day : Nat) : Prop :=
  minYear ≤ year ∧ year ≤ maxYear ∧ 1 ≤ month ∧ month ≤ 12 ∧ 1 ≤ day ∧ day ≤ daysInMonth year month

instance (year : Int) (month day : Nat) : Decidable (IsDate year month day) := by
  unfold IsDate; infer_instance

structure Date where
  year : Int
  month : Nat
  day : Nat
  valid : IsDate year month day
  deriving DecidableEq

namespace Date

def ofParts? (year : Int) (month day : Nat) : Option Date :=
  if valid : IsDate year month day then some ⟨year, month, day, valid⟩ else none

def compare (left right : Date) : Ordering :=
  (Ord.compare left.year right.year).then
    ((Ord.compare left.month right.month).then (Ord.compare left.day right.day))

/-- Years of more than four digits and years before zero carry a sign. -/
def yearText (year : Int) : String :=
  if 0 ≤ year ∧ year ≤ 9999 then padded 4 year.toNat
  else (if year < 0 then "-" else "+") ++ padded 4 year.natAbs

def text (date : Date) : String :=
  yearText date.year ++ "-" ++ padded 2 date.month ++ "-" ++ padded 2 date.day

/-- The day before, unless the calendar starts here. -/
def previous? (date : Date) : Option Date :=
  if 1 < date.day then ofParts? date.year date.month (date.day - 1)
  else if 1 < date.month then
    ofParts? date.year (date.month - 1) (daysInMonth date.year (date.month - 1))
  else ofParts? (date.year - 1) 12 31

/-- The day after, unless the calendar ends here. -/
def next? (date : Date) : Option Date :=
  if date.day < daysInMonth date.year date.month then ofParts? date.year date.month (date.day + 1)
  else if date.month < 12 then ofParts? date.year (date.month + 1) 1
  else ofParts? (date.year + 1) 1 1

end Date

end ResourceServer.Calendar
