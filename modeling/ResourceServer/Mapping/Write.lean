import ResourceServer.Mapping.Query
/-! Creating, changing and deleting resources. -/

namespace ResourceServer.Mapping

open ResourceServer.Store

def checkFields (type : EntityType) (values : Keyed Value) : Except MappingError Unit :=
  match values.find? fun entry => (type.field? entry.1).isNone with
  | some (field, _) => .error (.unknownField type.name field)
  | none => .ok ()

/-- The clause that a row of a table has a value in one of its columns. -/
def hasValue (column : Column) (cell : Cell) : Clause :=
  .condition (.compare column "=" (.cell cell))

/-- Creates a resource and reads it back. An integer identity may be left to the database. -/
def insert (type : EntityType) (values : Keyed Value) : MappingAction Instance := do
  Action.ofExcept (checkFields type values)
  let identity := type.identity
  let given := (values.get? identity.name).filter fun id => !id.isNull
  if given.isNone ∧ identity.type ≠ .integer then throw (.missingId type.name)
  let written := values.filter fun entry => entry.1 ≠ identity.name || !entry.2.isNull
  let returned ← statement (Action.insert
    { table := tableName type
      columns := written.map fun entry => columnName entry.1
      rows := [written.map fun entry => cellOf entry.2]
      returning := if given.isNone then some (columnName identity.name) else none })
  let id ← match given, returned with
    | some id, _ => pure id.text
    | none, cell :: _ => Value.text <$> Action.ofExcept (valueOf identity.type cell)
    | none, [] => throw .noReturnedId
  match ← get type [id] with
  | resource :: _ => return resource
  | [] => throw (.vanished type.name id)

/-- Changes fields of a resource, and tells whether it exists. -/
def update (type : EntityType) (id : String) (values : Keyed Value) : MappingAction Bool := do
  Action.ofExcept (checkFields type values)
  if values.isEmpty then return !(← get type [id]).isEmpty
  match idCell? type id with
  | none => return false
  | some cell =>
    let table := tableName type
    let count ← statement (Action.update
      { table := table
        assignments := values.map fun entry => (columnName entry.1, cellOf entry.2)
        filters := [hasValue (idColumn type table) cell] })
    return 0 < count

/-- Empties a key column where it holds a value. -/
def clearKey (table column : String) (cell : Cell) : MappingAction Unit := do
  let _ ← statement (Action.update
    { table := table
      assignments := [(column, .null)]
      filters := [hasValue (.ofTable table column) cell] })

/-- Deletes the pairs that hold a value in one column. -/
def deletePairs (table column : String) (cell : Cell) : MappingAction Unit := do
  let _ ← statement (Action.delete
    { table := table, filters := [hasValue (.ofTable table column) cell] })

/-- Removes the links of a type's own relationship from one owner. -/
def unlinkOwner (schema : Schema) (relationship : Relationship) (cell : Cell) :
    MappingAction Unit :=
  match relationship.storage with
  | .ownerKey _ => return ()
  | .targetKey column => do
    let target ← Action.ofExcept (findType schema relationship.target)
    clearKey (tableName target) column cell
  | .joinTable table ownerColumn _ => deletePairs table ownerColumn cell

/-- Removes the links of a relationship to one target. -/
def unlinkTarget (owner : EntityType) (relationship : Relationship) (cell : Cell) :
    MappingAction Unit :=
  match relationship.storage with
  | .ownerKey column => clearKey (tableName owner) column cell
  | .targetKey _ => return ()
  | .joinTable table _ targetColumn => deletePairs table targetColumn cell

/-- Deletes a resource after the links from it and to it, and tells whether it existed. -/
def delete (schema : Schema) (type : EntityType) (id : String) : MappingAction Bool := do
  match idCell? type id with
  | none => return false
  | some cell =>
    type.relationships.forM fun relationship => unlinkOwner schema relationship cell
    schema.types.forM fun owner =>
      (owner.relationships.filter fun relationship => relationship.target = type.name).forM
        fun relationship => unlinkTarget owner relationship cell
    let table := tableName type
    let count ← statement (Action.delete
      { table := table, filters := [hasValue (idColumn type table) cell] })
    return 0 < count

end ResourceServer.Mapping
