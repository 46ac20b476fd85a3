import ResourceServer.Calendar.Time
import ResourceServer.Number.Reading
import ResourceServer.Text.Split
/-! Reading dates, times and timestamps. -/

namespace ResourceServer.Calendar

open ResourceServer.Number

/-- A number of at least one and at most `width` digits. -/
def readDigits? (width : Nat) (text : List Char) : Option (Nat × List Char) :=
  let digits := (text.take width).takeWhile Char.isDigit
  if digits.isEmpty then none else some (numeral 0 digits, text.drop digits.length)

/-- A number of exactly `width` digits. -/
def readWidth? (width : Nat) (text : List Char) : Option (Nat × List Char) :=
  let digits := (text.take width).takeWhile Char.isDigit
  if digits.length = width then some (numeral 0 digits, text.drop width) else none

def skipBlanks (text : List Char) : List Char :=
  text.dropWhile Text.isBlank

/-- A number of at most two digits, blanks allowed before it. -/
def readPart? (text : List Char) : Option (Nat × List Char) :=
  readDigits? 2 (skipBlanks text)

/-- A year is a sign and digits, or at most four digits; blanks are allowed before it. -/
def readYear? (text : List Char) : Option (Int × List Char) :=
  match skipBlanks text with
  | '-' :: rest => (readDigits? rest.length rest).map fun (value, rest) => (-(value : Int), rest)
  | '+' :: rest => (readDigits? rest.length rest).map fun (value, rest) => ((value : Int), rest)
  | rest => (readDigits? 4 rest).map fun (value, rest) => ((value : Int), rest)

def readMark? (mark : Char) : List Char → Option (List Char)
  | c :: rest => if c = mark then some rest else none
  | [] => none

/-- A point and a fraction of a second, or nothing. Digits after the ninth are ignored. -/
def readFraction? (text : List Char) : Option (Nat × List Char) :=
  match text with
  | '.' :: rest =>
    let (digits, rest) := spanDigits rest
    if digits.isEmpty then none
    else
      let kept := digits.take 9
      some (numeral 0 kept * Nat.pow 10 (9 - kept.length), rest)
  | rest => some (0, rest)

/-- Year, month and day, joined by hyphens. -/
def spanDate? (text : List Char) : Option (Date × List Char) := do
  let (year, rest) ← readYear? text
  let rest ← readMark? '-' rest
  let (month, rest) ← readPart? rest
  let rest ← readMark? '-' rest
  let (day, rest) ← readPart? rest
  let date ← Date.ofParts? year month day
  some (date, rest)

/-- Hour and minute, joined by a colon. -/
def spanMinute? (text : List Char) : Option ((Nat × Nat) × List Char) := do
  let (hour, rest) ← readPart? text
  let rest ← readMark? ':' rest
  let (minute, rest) ← readPart? rest
  some ((hour, minute), rest)

/-- Hour, minute and second, joined by colons, and an optional fraction. -/
def spanTime? (text : List Char) : Option (Time × List Char) := do
  let ((hour, minute), rest) ← spanMinute? text
  let rest ← readMark? ':' rest
  let (second, rest) ← readPart? rest
  let (nanosecond, rest) ← readFraction? rest
  let time ← Time.ofParts? hour minute second nanosecond
  some (time, rest)

/-- A time without seconds. -/
def spanShortTime? (text : List Char) : Option (Time × List Char) := do
  let ((hour, minute), rest) ← spanMinute? text
  let time ← Time.ofParts? hour minute 0 0
  some (time, rest)

/-- A reading that uses up the text. -/
def whole? {α : Type} (reading : Option (α × List Char)) : Option α :=
  match reading with
  | some (value, []) => some value
  | _ => none

/-- A date, a separator and a time. -/
def spanTimestamp? (separator : List Char → Option (List Char)) (time : List Char → Option (Time × List Char))
    (text : List Char) : Option (Timestamp × List Char) := do
  let (date, rest) ← spanDate? text
  let rest ← separator rest
  let (time, rest) ← time rest
  some (⟨date, time⟩, rest)

/-- The minutes by which a zone is ahead of universal time: `Z`, or a sign, two digits of hours below 24, a
colon and two digits of minutes. -/
def spanOffset? (text : List Char) : Option (Int × List Char) :=
  match text with
  | [] => none
  | c :: rest =>
    if c = 'Z' ∨ c = 'z' then some (0, rest)
    else if c = '+' ∨ c = '-' ∨ c = '−' then do
      let (hours, rest) ← readWidth? 2 rest
      let rest ← readMark? ':' rest
      let (minutes, rest) ← readWidth? 2 rest
      if minutes < 60 ∧ hours < 24 then
        let offset : Int := hours * 60 + minutes
        some (if c = '+' then offset else -offset, rest)
      else none
    else none

/-- A timestamp with a zone, all numbers in full width, as universal time. -/
def spanZoned? (text : List Char) : Option (Timestamp × List Char) := do
  let (year, rest) ← readWidth? 4 text
  let rest ← readMark? '-' rest
  let (month, rest) ← readWidth? 2 rest
  let rest ← readMark? '-' rest
  let (day, rest) ← readWidth? 2 rest
  let rest ←
    match rest with
    | c :: rest => if c = 'T' ∨ c = 't' ∨ c = ' ' then some rest else none
    | [] => none
  let (hour, rest) ← readWidth? 2 rest
  let rest ← readMark? ':' rest
  let (minute, rest) ← readWidth? 2 rest
  let rest ← readMark? ':' rest
  let (second, rest) ← readWidth? 2 rest
  let (nanosecond, rest) ← readFraction? rest
  let (offset, rest) ← spanOffset? rest
  let date ← Date.ofParts? year month day
  let time ← Time.ofParts? hour minute second nanosecond
  let timestamp ← (Timestamp.mk date time).toUniversal? offset
  some (timestamp, rest)

/-- A timestamp joined by `T` or by blanks, one without seconds, one with a zone, or a date at midnight. -/
def readTimestamp? (text : List Char) : Option Timestamp :=
  whole? (spanTimestamp? (readMark? 'T') spanTime? text)
  <|> whole? (spanTimestamp? (fun rest => some (skipBlanks rest)) spanTime? text)
  <|> whole? (spanTimestamp? (readMark? 'T') spanShortTime? text)
  <|> whole? (spanZoned? text)
  <|> (whole? (spanDate? text)).map fun date => ⟨date, Time.midnight⟩

/-- A date, or the date of a timestamp. -/
def readDate? (text : List Char) : Option Date :=
  whole? (spanDate? text) <|> (readTimestamp? text).map (·.date)

/-- A time with or without seconds. -/
def readTime? (text : List Char) : Option Time :=
  whole? (spanTime? text) <|> whole? (spanShortTime? text)

end ResourceServer.Calendar
