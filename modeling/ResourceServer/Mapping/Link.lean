import ResourceServer.Mapping.Write
/-! Changing the links of a resource. -/

namespace ResourceServer.Mapping

open ResourceServer.Store

/-- Sets a column of the rows that meet a clause. -/
def setColumn (table column : String) (cell : Cell) (filter : Clause) : MappingAction Unit := do
  let _ ← statement (Action.update
    { table := table, assignments := [(column, cell)], filters := [filter] })

def insertPairs (table ownerColumn targetColumn : String) (pairs : List (Cell × Cell)) :
    MappingAction Unit := do
  let _ ← statement (Action.insert
    { table := table
      columns := [ownerColumn, targetColumn]
      rows := pairs.map fun pair => [pair.1, pair.2] })

/-- Makes a target, or nothing, the only one linked to an owner. -/
def setToOne (schema : Schema) (type : EntityType) (relationship : Relationship) (owner : String)
    (target : Option String) : MappingAction Unit := do
  if relationship.isToMany then
    throw (.unsupported type.name relationship.name "to-one replacement")
  let (_, targetType) ← Action.ofExcept (findRelationship schema type relationship.name)
  let owner ← Action.ofExcept (idCell type owner)
  let target ← Action.ofExcept (target.mapM (idCell targetType))
  match relationship.storage with
  | .ownerKey column =>
    let table := tableName type
    setColumn table column (target.getD .null) (hasValue (idColumn type table) owner)
  | .targetKey column =>
    let table := tableName targetType
    clearKey table column owner
    match target with
    | some target => setColumn table column owner (hasValue (idColumn targetType table) target)
    | none => return ()
  | .joinTable table ownerColumn targetColumn =>
    deletePairs table ownerColumn owner
    match target with
    | some target => insertPairs table ownerColumn targetColumn [(owner, target)]
    | none => return ()

/-- The cells whose texts are not among those given, each text once. -/
def freshCells (linked : List String) : List Cell → List Cell
  | [] => []
  | cell :: rest =>
    if linked.contains cell.literal then freshCells linked rest
    else cell :: freshCells (cell.literal :: linked) rest

/-- Links more targets to an owner. -/
def addToMany (schema : Schema) (type : EntityType) (relationship : Relationship) (owner : String)
    (targets : List String) : MappingAction Unit := do
  let (_, targetType) ← Action.ofExcept (findRelationship schema type relationship.name)
  let owner ← Action.ofExcept (idCell type owner)
  let cells := idCells targetType targets
  if cells.isEmpty then return ()
  match relationship.storage with
  | .targetKey column =>
    let table := tableName targetType
    setColumn table column owner (.condition (.oneOf (idColumn targetType table) cells))
  | .joinTable table ownerColumn targetColumn =>
    let rows ← selectAll
      { columns := [.column (.ofTable table targetColumn)]
        table := table
        filters := [hasValue (.ofTable table ownerColumn) owner] }
    let linked := rows.flatten.map Cell.literal
    let fresh := freshCells linked cells
    if fresh.isEmpty then return ()
    insertPairs table ownerColumn targetColumn (fresh.map fun cell => (owner, cell))
  | .ownerKey _ => throw (.unsupported type.name relationship.name "to-many updates")

/-- Unlinks targets from an owner. -/
def removeFromMany (schema : Schema) (type : EntityType) (relationship : Relationship)
    (owner : String) (targets : List String) : MappingAction Unit := do
  let (_, targetType) ← Action.ofExcept (findRelationship schema type relationship.name)
  let owner ← Action.ofExcept (idCell type owner)
  let cells := idCells targetType targets
  if cells.isEmpty then return ()
  match relationship.storage with
  | .targetKey column =>
    let table := tableName targetType
    setColumn table column .null
      (.allOf [.condition (.oneOf (idColumn targetType table) cells),
        hasValue (.ofTable table column) owner])
  | .joinTable table ownerColumn targetColumn =>
    let _ ← statement (Action.delete
      { table := table
        filters := [.allOf [hasValue (.ofTable table ownerColumn) owner,
          .condition (.oneOf (.ofTable table targetColumn) cells)]] })
  | .ownerKey _ => throw (.unsupported type.name relationship.name "to-many updates")

end ResourceServer.Mapping
