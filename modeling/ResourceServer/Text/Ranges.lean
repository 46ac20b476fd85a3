/-! Sets of characters as lists of code point ranges, and tables of code points written as text. -/

namespace ResourceServer.Text

/-- Whether a character lies in one of the ranges, ends included. -/
def inRanges (ranges : List (Nat × Nat)) (c : Char) : Bool :=
  ranges.any fun (first, last) => first ≤ c.toNat && c.toNat ≤ last

/-- Whether a character lies in one of the ranges, ends included, at a multiple of the step from its first. -/
def inStretches (stretches : List (Nat × Nat × Nat)) (c : Char) : Bool :=
  stretches.any fun (first, last, step) =>
    first ≤ c.toNat && c.toNat ≤ last && (c.toNat - first) % step == 0

/-! Tables written as text: numbers to base sixteen, a semicolon after each row. -/

/-- The digit that a character stands for to base sixteen. -/
def sixteenth? (c : Char) : Option Nat :=
  if '0' ≤ c ∧ c ≤ '9' then some (c.toNat - 48)
  else if 'a' ≤ c ∧ c ≤ 'f' then some (c.toNat - 87)
  else none

/-- A table that is being read: the rows before, the row and the number that are not finished, last first. -/
structure TableReading where
  rows : List (List Nat) := []
  row : List Nat := []
  number : Option Nat := none

namespace TableReading

/-- Reads one character: a digit, or the end of a number and perhaps of a row. -/
def step (reading : TableReading) (c : Char) : TableReading :=
  match sixteenth? c with
  | some digit => { reading with number := some (16 * reading.number.getD 0 + digit) }
  | none =>
    let row := reading.number.toList ++ reading.row
    if c = ';' then ⟨row.reverse :: reading.rows, [], none⟩ else ⟨reading.rows, row, none⟩

end TableReading

def readRows (text : String) : List (List Nat) :=
  (text.toList.foldl TableReading.step {}).rows.reverse

/-- Rows of one or two numbers as ranges, ends included. -/
def readRanges (text : String) : List (Nat × Nat) :=
  (readRows text).filterMap fun row =>
    match row with
    | [code] => some (code, code)
    | [first, last] => some (first, last)
    | _ => none

end ResourceServer.Text
