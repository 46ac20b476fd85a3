import ResourceServer.Json.Reader
import ResourceServer.RequestError
import ResourceServer.Url.Percent
/-! The parameters of a query string. -/

namespace ResourceServer

open ResourceServer.Filter ResourceServer.Paging ResourceServer.Sorting

/-- The members of each type that a document is to be restricted to. -/
abbrev Fieldsets := Keyed (List String)

structure Parameters where
  filters : List Node := []
  sort : SortRequest := .byPrimaryKey
  pageSize : Option Int := none
  pageNumber : Option Int := none
  include? : Option (List String) := none
  fields : Fieldsets := []

namespace Parameters

def undecodableFilters : RequestError :=
  .badRequest "Unable to decode filter objects as JSON list"

/-- Filters are written as a JSON list of filter objects. -/
def readFilters (text : String) : Except RequestError (List Node) :=
  match Json.parse? text with
  | some (.array items) => (Node.parseAll items).mapError .filter
  | _ => .error undecodableFilters

def readNumber (parameter text : String) : Except RequestError Int :=
  match Number.readInteger? (Text.trim text) with
  | some value => .ok value
  | none => .error (.page (.notAnInteger parameter text))

/-- The items of a comma-separated list, blanks around them and empty ones left out. -/
def readList (text : String) : List String :=
  ((Text.split ',' text).map Text.trim).filter (· ≠ "")

/-- The type that a parameter `fields[type]` names. -/
def fieldsetType? (key : String) : Option String := do
  let rest ← Text.dropStart? "fields[".toList key.toList
  let name ← Text.dropEnd? [']'] rest
  some (String.ofList name)

/-- Takes one parameter into account. A repeated parameter replaces the one before, and unknown ones do not
count. -/
def add (parameters : Parameters) (key value : String) : Except RequestError Parameters :=
  if key = "filter[objects]" then
    (readFilters value).map fun filters => { parameters with filters := filters }
  else if key = "sort" then
    ((Sorting.read value).mapError .sort).map fun sort => { parameters with sort := sort }
  else if key = "page[size]" then
    (readNumber key value).map fun size => { parameters with pageSize := some size }
  else if key = "page[number]" then
    (readNumber key value).map fun number => { parameters with pageNumber := some number }
  else if key = "include" then .ok { parameters with include? := some (readList value) }
  else
    match fieldsetType? key with
    | some type => .ok { parameters with fields := parameters.fields.put type (readList value) }
    | none => .ok parameters

def read (query : String) : Except RequestError Parameters :=
  (Url.decodeForm query).foldlM (fun parameters pair => add parameters pair.1 pair.2)
    ({} : Parameters)

/-- The page asked for; a default size beyond 64 bits counts as the largest stored integer. -/
def page (parameters : Parameters) (defaultSize maximum : Nat) :
    Except PageError PageRequest :=
  let size := parameters.pageSize.getD (min (defaultSize : Int) Number.maxInteger)
  PageRequest.make size (parameters.pageNumber.getD 1) maximum

end Parameters

end ResourceServer
