/-! Lists of named things in the order of their names. -/

namespace ResourceServer

abbrev Keyed (α : Type) := List (String × α)

namespace Keyed

variable {α : Type}

/-- Inserts in the order of the names; an entry of the same name is replaced. -/
def put (name : String) (value : α) : Keyed α → Keyed α
  | [] => [(name, value)]
  | (other, old) :: rest =>
    if name < other then (name, value) :: (other, old) :: rest
    else if name = other then (name, value) :: rest
    else (other, old) :: put name value rest

/-- The entries in order; of two with one name the later counts. -/
def ofList (entries : List (String × α)) : Keyed α :=
  entries.foldl (fun keyed entry => put entry.1 entry.2 keyed) []

def get? (keyed : Keyed α) (name : String) : Option α :=
  keyed.lookup name

def contains (keyed : Keyed α) (name : String) : Bool :=
  (keyed.lookup name).isSome

end Keyed

end ResourceServer
