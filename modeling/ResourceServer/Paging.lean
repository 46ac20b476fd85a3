/-! Pages of collections. -/

namespace ResourceServer.Paging

inductive PageError
  | negativeSize
  | sizeTooLarge (maximum : Nat)
  | negativeNumber
  | zeroNumber
  | numberWithoutSize
  | notAnInteger (parameter value : String)
  deriving DecidableEq

namespace PageError

def message : PageError → String
  | .negativeSize => "Page size can not be negative"
  | .sizeTooLarge maximum => s!"Page size must not exceed the server's maximum: {maximum}"
  | .negativeNumber => "Page number can not be negative"
  | .zeroNumber => "Page number must be a positive integer"
  | .numberWithoutSize => "Page number can not be used with page size 0"
  | .notAnInteger parameter value => s!"{parameter} must be an integer, got {value}"

end PageError

/-- The largest count of rows; products beyond it stay at it. -/
def maxCount : Nat := 18446744073709551615

/-- The rows from an offset on, at most a limit. -/
structure Window where
  offset : Nat
  limit : Nat
  deriving DecidableEq

/-- A page of a given size, where size zero stands for the whole collection. -/
structure PageRequest where
  size : Nat
  number : Nat
  deriving DecidableEq

namespace PageRequest

/-- Checks a size and a number in that order. -/
def make (size number : Int) (maximum : Nat) : Except PageError PageRequest :=
  if size < 0 then .error .negativeSize
  else if maximum < size then .error (.sizeTooLarge maximum)
  else if number < 0 then .error .negativeNumber
  else if size = 0 ∧ 1 < number then .error .numberWithoutSize
  else if 0 < size ∧ number = 0 then .error .zeroNumber
  else .ok ⟨size.toNat, max number.toNat 1⟩

def isPaginated (request : PageRequest) : Bool :=
  0 < request.size

/-- The number of rows before the page. -/
def offset (request : PageRequest) : Nat :=
  min ((request.number - 1) * request.size) maxCount

def window? (request : PageRequest) : Option Window :=
  if request.isPaginated then some ⟨request.offset, request.size⟩ else none

end PageRequest

/-- A page of a collection of known size, with the numbers of the pages around it. -/
structure Page where
  number : Nat
  size : Nat
  total : Nat
  first : Option Nat
  last : Option Nat
  previous : Option Nat
  next : Option Nat
  deriving DecidableEq

/-- The number of pages, at least one. -/
def pageCount (total size : Nat) : Nat :=
  if total = 0 then 1 else (total + size - 1) / size

def paginate (total : Nat) (request : PageRequest) : Page :=
  if request.isPaginated then
    let last := pageCount total request.size
    { number := request.number
      size := request.size
      total := total
      first := some 1
      last := some last
      previous := if 1 < request.number then some (request.number - 1) else none
      next := if request.number < last then some (request.number + 1) else none }
  else ⟨1, 0, total, none, none, none, none⟩

namespace Page

/-- The positions of the page's rows in the collection: from the first up to below the second. -/
def range (page : Page) : Nat × Nat :=
  if page.size = 0 then (0, page.total)
  else
    let start := min (min ((page.number - 1) * page.size) maxCount) page.total
    (start, min (min (start + page.size) maxCount) page.total)

/-- The pages around this one, by the names of their links. -/
def neighbours (page : Page) : List (String × Option Nat) :=
  [("first", page.first), ("last", page.last), ("prev", page.previous), ("next", page.next)]

end Page

end ResourceServer.Paging
