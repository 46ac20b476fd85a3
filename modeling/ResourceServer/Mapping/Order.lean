import ResourceServer.Mapping.Layout
import ResourceServer.Sorting
/-! Orders of resources as joins and sort columns. -/

namespace ResourceServer.Mapping

open ResourceServer.Sorting (OrderKey)
open ResourceServer.Store

/-- A path of relationships that has been joined, with the name of its table and the type it leads to. -/
structure JoinedPath where
  path : List String
  table : String
  type : EntityType

/-- The joins so far and the paths they reach. -/
structure OrderJoins where
  joins : List Join
  paths : List JoinedPath

def OrderJoins.find? (joined : OrderJoins) (path : List String) : Option JoinedPath :=
  joined.paths.find? fun entry => entry.path = path

/-- The left joins from a row of a type to its target under a new name. -/
def stepJoins (type target : EntityType) (storage : Storage) (table next : String) : List Join :=
  match storage with
  | .ownerKey column =>
    [⟨.left, tableName target, next, idColumn target next, "=", .ofTable table column⟩]
  | .targetKey column =>
    [⟨.left, tableName target, next, .ofTable next column, "=", idColumn type table⟩]
  | .joinTable pairs ownerColumn targetColumn =>
    let link := next ++ "_link"
    [⟨.left, pairs, link, .ofTable link ownerColumn, "=", idColumn type table⟩,
      ⟨.left, tableName target, next, idColumn target next, "=", .ofTable link targetColumn⟩]

/-- Follows a path, joining what is not joined yet, and answers with its type and the name of its table. The
segments already followed are `followed`. -/
def followPath (schema : Schema) (joined : OrderJoins) (type : EntityType) (table : String)
    (followed : List String) : List String → Except MappingError (OrderJoins × EntityType × String)
  | [] => .ok (joined, type, table)
  | name :: rest =>
    let path := followed ++ [name]
    match joined.find? path with
    | some entry => followPath schema joined entry.type entry.table path rest
    | none => do
      let (relationship, target) ← findRelationship schema type name
      if relationship.isToMany then .error (.unsupported type.name name "sorting")
      let next := s!"sort_{joined.paths.length + 1}"
      let joined : OrderJoins :=
        ⟨joined.joins ++ stepJoins type target relationship.storage table next,
          joined.paths ++ [⟨path, next, target⟩]⟩
      followPath schema joined target next path rest

/-- The joins and sort columns for some order keys, after those that are there already. -/
def sortColumns (schema : Schema) (type : EntityType) (joined : OrderJoins) :
    List OrderKey → Except MappingError (OrderJoins × List SortColumn)
  | [] => .ok (joined, [])
  | key :: keys => do
    let (joined, last, table) ← followPath schema joined type (tableName type) [] key.path
    if (last.field? key.field).isNone then .error (.unknownField last.name key.field)
    let (joined, order) ← sortColumns schema type joined keys
    .ok (joined, ⟨fieldColumn table key.field, key.descending⟩ :: order)

/-- The joins and sort columns for an order of a type's resources. -/
def orderClauses (schema : Schema) (type : EntityType) (ordering : List OrderKey) :
    Except MappingError (List Join × List SortColumn) := do
  let (joined, order) ← sortColumns schema type ⟨[], []⟩ ordering
  .ok (joined.joins, order)

end ResourceServer.Mapping
