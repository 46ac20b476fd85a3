import ResourceServer.Mapping.Link
import ResourceServer.RequestError
/-! The stored resources as requests use them: failures are told apart by reading and writing. -/

namespace ResourceServer

open ResourceServer.Mapping

/-- A step of a request on the stored resources. -/
abbrev SourceAction := Store.Action RequestError

namespace SourceAction

variable {α : Type}

def reading (action : MappingAction α) : SourceAction α :=
  action.mapError fun error => .backend error.message false

def writing (action : MappingAction α) : SourceAction α :=
  action.mapError fun error => .backend error.message true

end SourceAction

end ResourceServer
