import ResourceServer.Mapping.Layout
/-! Creating the tables of a schema. -/

namespace ResourceServer.Mapping

open ResourceServer.Store

/-- The table of a type, with its primary key and its unique fields. -/
def entityTable (schema : Schema) (type : EntityType) : Except MappingError CreateTable := do
  let columns ← tableColumns schema type
  let unique := (type.fields.filter (·.unique)).map fun field =>
    (⟨.unique, [columnName field.name]⟩ : Constraint)
  .ok ⟨tableName type, columns, ⟨.primaryKey, type.primaryKey.map columnName⟩ :: unique⟩

/-- The tables of pairs that a type's relationships use. -/
def joinTables (schema : Schema) (type : EntityType) : Except MappingError (List CreateTable) :=
  type.relationships.filterMapM fun relationship =>
    match relationship.storage with
    | .joinTable table ownerColumn targetColumn => do
      let target ← findType schema relationship.target
      return some ⟨table, [⟨ownerColumn, keyType type⟩, ⟨targetColumn, keyType target⟩],
        [⟨.primaryKey, [ownerColumn, targetColumn]⟩,
          ⟨.foreignKey (tableName type), [ownerColumn]⟩,
          ⟨.foreignKey (tableName target), [targetColumn]⟩]⟩
    | _ => return none

/-- Creates the tables of all types, then the tables of pairs. Of tables with one name the first stays. -/
def register (schema : Schema) : MappingAction Unit := do
  let entities ← Action.ofExcept (schema.types.mapM (entityTable schema))
  let pairs ← Action.ofExcept (schema.types.mapM (joinTables schema))
  (entities ++ pairs.flatten).forM fun table => statement (Action.createTable table)

end ResourceServer.Mapping
