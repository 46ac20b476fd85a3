import ResourceServer.Schema.Basic
/-! Resources: their identifiers and their field values. -/

namespace ResourceServer

structure Identifier where
  type : String
  id : String
  deriving DecidableEq

namespace Identifier

def text (identifier : Identifier) : String :=
  identifier.type ++ "/" ++ identifier.id

end Identifier

/-- A resource with the values of its fields. -/
structure Instance where
  identifier : Identifier
  values : Keyed Value
  deriving DecidableEq

namespace Instance

/-- A resource is identified by the text of its identity value, or by the empty text without one. -/
def ofValues (type : EntityType) (values : Keyed Value) : Instance :=
  let id := ((values.get? type.identity.name).map Value.text).getD ""
  ⟨⟨type.name, id⟩, values⟩

def type (resource : Instance) : String := resource.identifier.type
def id (resource : Instance) : String := resource.identifier.id

def get? (resource : Instance) (field : String) : Option Value :=
  resource.values.get? field

end Instance

end ResourceServer
