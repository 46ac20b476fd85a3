import ResourceServer.Linkage
import ResourceServer.Source
/-! Changing the links of a resource as a request asks for it. -/

namespace ResourceServer.Relinking

open ResourceServer.Store (Action)

/-- Texts without those that came before. -/
def distinctIds (seen : List String) : List String → List String
  | [] => []
  | id :: rest =>
    if seen.contains id then distinctIds seen rest else id :: distinctIds (id :: seen) rest

/-- The identities of some targets, each once, if all are of the right type and exist. -/
def requireTargets (schema : Schema) (relationship : Relationship) (targets : List Identifier) :
    SourceAction (List String) := do
  match schema.type? relationship.target with
  | none => throw (.notFound s!"No such type {relationship.target}")
  | some type =>
    match targets.find? fun target => target.type ≠ relationship.target with
    | some target =>
      throw (.conflict s!"Type must be {relationship.target}, not {target.type}")
    | none =>
      let ids := distinctIds [] (targets.map (·.id))
      if ids.isEmpty then return []
      let found := (← SourceAction.reading (Mapping.get type ids)).map Instance.id
      let missing := ids.filter fun id => !found.contains id
      if !missing.isEmpty then
        let list := ", ".intercalate missing
        throw (.notFound s!"No resources of type {relationship.target} with IDs {list}")
      return ids

def requireToMany (relationship : Relationship) (operation : String) :
    Except RequestError Unit :=
  if relationship.isToMany then .ok ()
  else .error (.forbidden s!"Can not {operation} the to-one relationship {relationship.name}")

/-- The identities of the targets that an owner is linked to. -/
def currentTargets (schema : Schema) (type : EntityType) (relationship : Relationship)
    (owner : String) : SourceAction (List String) := do
  let links ← SourceAction.reading (Mapping.loadRelation schema type relationship [owner])
  return (links.of owner).map Instance.id

/-- Links an owner to one target or to none. -/
def replaceToOne (schema : Schema) (type : EntityType) (relationship : Relationship)
    (owner : String) (target : Option Identifier) : SourceAction Unit := do
  if relationship.isToMany then
    throw (.badRequest
      s!"Relationship {relationship.name} is to-many; its linkage must be a list of resource identifiers")
  let ids ← match target with
    | some target => requireTargets schema relationship [target]
    | none => pure []
  SourceAction.writing (Mapping.setToOne schema type relationship owner ids.getLast?)

/-- Links an owner to exactly some targets. -/
def replaceToMany (schema : Schema) (type : EntityType) (relationship : Relationship)
    (owner : String) (targets : List Identifier) (allowed : Bool) : SourceAction Unit := do
  if !allowed then
    throw (.forbidden s!"Not allowed to replace the to-many relationship {relationship.name}")
  Action.ofExcept (requireToMany relationship "replace")
  let wanted ← requireTargets schema relationship targets
  let current ← currentTargets schema type relationship owner
  let stale := current.filter fun id => !wanted.contains id
  let fresh := wanted.filter fun id => !current.contains id
  SourceAction.writing (Mapping.removeFromMany schema type relationship owner stale)
  SourceAction.writing (Mapping.addToMany schema type relationship owner fresh)

/-- Links an owner to more targets. -/
def appendToMany (schema : Schema) (type : EntityType) (relationship : Relationship)
    (owner : String) (targets : List Identifier) : SourceAction Unit := do
  Action.ofExcept (requireToMany relationship "add to")
  let wanted ← requireTargets schema relationship targets
  SourceAction.writing (Mapping.addToMany schema type relationship owner wanted)

/-- Unlinks targets from an owner, and tells whether any was linked. -/
def removeFromMany (schema : Schema) (type : EntityType) (relationship : Relationship)
    (owner : String) (targets : List Identifier) (allowed : Bool) : SourceAction Bool := do
  if !allowed then
    throw (.forbidden s!"Not allowed to remove from the to-many relationship {relationship.name}")
  Action.ofExcept (requireToMany relationship "remove from")
  let wanted ← requireTargets schema relationship targets
  let current ← currentTargets schema type relationship owner
  let present := wanted.filter current.contains
  if present.isEmpty then return false
  SourceAction.writing (Mapping.removeFromMany schema type relationship owner present)
  return true

end ResourceServer.Relinking
