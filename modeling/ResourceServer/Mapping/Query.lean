import ResourceServer.Mapping.Condition
import ResourceServer.Mapping.Order
import ResourceServer.Paging
/-! Reading resources and their links. -/

namespace ResourceServer.Mapping

open ResourceServer.Filter (Predicate)
open ResourceServer.Paging (Window)
open ResourceServer.Sorting (OrderKey)
open ResourceServer.Store

/-- Which resources of a type are wanted, in which order, and which stretch of them. -/
structure Query where
  predicate : Predicate
  ordering : List OrderKey := []
  window : Option Window := none

/-- All resources of a type in the order of storage. -/
def Query.everything : Query := { predicate := .always }

def selectAll (select : Select) : MappingAction (List Row) := do
  let rows ← statement (Action.select select)
  Action.ofExcept ((Select.allRows rows).mapError .store)

/-- The statement for a query. -/
def selectOf (schema : Schema) (type : EntityType) (query : Query) : Except MappingError Select := do
  let filter ← filterClause schema type query.predicate
  let (joins, order) ← orderClauses schema type query.ordering
  .ok {
    columns := fieldColumns type (tableName type)
    table := tableName type
    joins := joins
    filters := [filter]
    order := order
    offset := (query.window.map (·.offset)).getD 0
    limit := query.window.map (·.limit) }

def query (schema : Schema) (type : EntityType) (query : Query) : MappingAction (List Instance) := do
  let rows ← selectAll (← Action.ofExcept (selectOf schema type query))
  Action.ofExcept (rows.mapM (readRow type))

/-- The number of resources of a type that meet a predicate. -/
def count (schema : Schema) (type : EntityType) (predicate : Predicate) : MappingAction Nat := do
  let filter ← Action.ofExcept (filterClause schema type predicate)
  let rows ← statement (Action.select
    { columns := [.count], table := tableName type, filters := [filter] })
  match ← Action.ofExcept ((Select.onlyRow rows).mapError .store) with
  | .integer total :: _ => return total.toNat
  | cell :: _ => throw (.notACount cell)
  | [] => throw (.store (.outOfRange 0))

/-- The resources of some identities in the order of their identities; texts that spell none are passed
over. -/
def get (type : EntityType) (ids : List String) : MappingAction (List Instance) := do
  let cells := idCells type ids
  if cells.isEmpty then return []
  let table := tableName type
  let rows ← selectAll
    { columns := fieldColumns type table
      table := table
      filters := [.condition (.oneOf (idColumn type table) cells)]
      order := [⟨idColumn type table, false⟩] }
  Action.ofExcept (rows.mapM (readRow type))

/-- Linked resources, each with the identity of the owner it is linked to. -/
abbrev Links := List (String × Instance)

/-- The resources linked to one owner. -/
def Links.of (links : Links) (owner : String) : List Instance :=
  links.filterMap fun link => if link.1 = owner then some link.2 else none

/-- The column that holds the owner of each target's row, and the joins that bring it in. -/
def ownerColumn (type target : EntityType) (storage : Storage) : Column × List Join :=
  let table := tableName target
  match storage with
  | .ownerKey column =>
    (idColumn type "rel_owner",
      [⟨.inner, tableName type, "rel_owner", .ofTable "rel_owner" column, "=", idColumn target table⟩])
  | .targetKey column => (.ofTable table column, [])
  | .joinTable pairs ownerColumn targetColumn =>
    (.ofTable "rel_link" ownerColumn,
      [⟨.inner, pairs, "rel_link", .ofTable "rel_link" targetColumn, "=", idColumn target table⟩])

/-- A row of an owner's identity followed by a target's fields. -/
def readLink (type target : EntityType) : Row → Except MappingError (String × Instance)
  | [] => .error (.store (.outOfRange 0))
  | owner :: row => do
    let owner ← valueOf type.identity.type owner
    let resource ← readRow target row
    .ok (owner.text, resource)

/-- The resources that a relationship links to some owners, in the order of their identities. -/
def loadRelation (schema : Schema) (type : EntityType) (relationship : Relationship)
    (owners : List String) : MappingAction Links := do
  let (_, target) ← Action.ofExcept (findRelationship schema type relationship.name)
  let cells := idCells type owners
  if cells.isEmpty then return []
  let table := tableName target
  let (owner, joins) := ownerColumn type target relationship.storage
  let rows ← selectAll
    { columns := .column owner :: fieldColumns target table
      table := table
      joins := joins
      filters := [.condition (.oneOf owner cells)]
      order := [⟨idColumn target table, false⟩] }
  Action.ofExcept (rows.mapM (readLink type target))

end ResourceServer.Mapping
