import ResourceServer.Json.Basic
import ResourceServer.RequestError
import ResourceServer.Resource
/-! Resource linkage: the identifiers that a relationship of a resource holds. -/

namespace ResourceServer

inductive Linkage
  | toOne (target : Option Identifier)
  | toMany (targets : List Identifier)
  deriving DecidableEq

namespace Identifier

def toJson (identifier : Identifier) : Json :=
  .object [("id", .string identifier.id), ("type", .string identifier.type)]

/-- The text of an identity in JSON, where it may be a string or a number. -/
def idText? : Json → Option String
  | .string text => some text
  | .integer value => some (toString value)
  | .decimal value => some value.jsonText
  | _ => none

/-- An identifier of the type that a relationship leads to. -/
def ofJson (relationship : Relationship) (json : Json) : Except RequestError Identifier :=
  match (json.get? "type").bind Json.string?, (json.get? "id").bind idText? with
  | some type, some id =>
    if type ≠ relationship.target then
      .error (.conflict s!"Type must be {relationship.target}, not {type}")
    else .ok ⟨type, id⟩
  | _, _ =>
    .error (.badRequest
      "Resource identifier objects must have \"type\" and \"id\" members")

end Identifier

namespace Linkage

def ofJson (relationship : Relationship) (json : Json) : Except RequestError Linkage :=
  match relationship.isToMany, json with
  | false, .null => .ok (.toOne none)
  | false, .object members =>
    (Identifier.ofJson relationship (.object members)).map fun target => .toOne (some target)
  | true, .array items => (items.mapM (Identifier.ofJson relationship)).map .toMany
  | true, _ =>
    .error (.badRequest
      s!"Relationship {relationship.name} is to-many; its linkage must be a list of resource identifiers")
  | false, _ =>
    .error (.badRequest
      s!"Relationship {relationship.name} is to-one; its linkage must be a resource identifier or null")

/-- The linkage that leads to some resources; a to-one relationship shows the first of them. -/
def ofTargets (relationship : Relationship) (targets : List Instance) : Linkage :=
  if relationship.isToMany then .toMany (targets.map (·.identifier))
  else .toOne (targets.head?.map (·.identifier))

def identifiers : Linkage → List Identifier
  | .toOne target => target.toList
  | .toMany targets => targets

def toJson : Linkage → Json
  | .toOne none => .null
  | .toOne (some target) => target.toJson
  | .toMany targets => .array (targets.map Identifier.toJson)

end Linkage

end ResourceServer
