import ResourceServer.Filter.Predicate
import ResourceServer.Mapping.Layout
/-! Predicates on resources as clauses on the rows of their table. -/

namespace ResourceServer.Mapping

open ResourceServer.Filter (Predicate)
open ResourceServer.Store

def memberColumn (type : EntityType) (table field : String) : Except MappingError Column :=
  if (type.field? field).isNone then .error (.unknownField type.name field)
  else .ok (fieldColumn table field)

/-- The column and the value of a clause that compares them for equality. -/
def equality? : Clause → Option (Column × Cell)
  | .condition (.compare column operator (.cell value)) =>
    if operator = "=" then some (column, value) else none
  | _ => none

/-- Inserts a column in order, once. -/
def insertColumn (column : Column) : List Column → List Column
  | [] => [column]
  | other :: rest =>
    if column = other then other :: rest
    else if column.before other then column :: other :: rest
    else other :: insertColumn column rest

/-- Equalities on one column become one membership test; the tests follow the other clauses in the order of
their columns. -/
def mergeEqualities (clauses : List Clause) : List Clause :=
  let equalities := clauses.filterMap equality?
  let columns := (equalities.map (·.1)).foldr insertColumn []
  let tests := columns.map fun column =>
    let values := equalities.filterMap fun entry => if entry.1 = column then some entry.2 else none
    Clause.condition (.oneOf column values)
  clauses.filter (fun clause => (equality? clause).isNone) ++ tests

/-- The clause that one of some clauses holds. -/
def anyClause (clauses : List Clause) : Clause :=
  .anyOf (mergeEqualities clauses)

/-- How the rows of a relationship's target, in a subquery under one name, are tied to a row of the owner's
table, and the number of the next generated name. -/
structure Tie where
  joins : List Join
  condition : Condition
  next : Nat

def tie (type target : EntityType) (storage : Storage) (table sub : String) (next : Nat) : Tie :=
  match storage with
  | .ownerKey column =>
    ⟨[], .compare (idColumn target sub) "=" (.column (.ofTable table column)), next⟩
  | .targetKey column =>
    ⟨[], .compare (.ofTable sub column) "=" (.column (idColumn type table)), next⟩
  | .joinTable pairs ownerColumn targetColumn =>
    let link := s!"link_{next}"
    ⟨[⟨.inner, pairs, link, .ofTable link targetColumn, "=", idColumn target sub⟩],
      .compare (.ofTable link ownerColumn) "=" (.column (idColumn type table)), next + 1⟩

mutual

/-- The clause for a predicate on rows of a table under a given name. Names of subqueries are numbered from
`next` on; the first number not used comes back. -/
def clauseOf (schema : Schema) (type : EntityType) (table : String) (next : Nat) :
    Predicate → Except MappingError (Clause × Nat)
  | .all predicates =>
    (clausesOf schema type table next predicates).map fun (clauses, next) => (.all clauses, next)
  | .any predicates =>
    (clausesOf schema type table next predicates).map fun (clauses, next) =>
      (anyClause clauses, next)
  | .not predicate =>
    (clauseOf schema type table next predicate).map fun (clause, next) => (.not clause, next)
  | .compare field comparison right => do
    let column ← memberColumn type table field
    let operand ← match right with
      | .value value => .ok (Operand.cell (cellOf value))
      | .field other => (memberColumn type table other).map Operand.column
    .ok (.condition (.compare column comparison.symbol operand), next)
  | .oneOf field values => do
    let column ← memberColumn type table field
    .ok (.condition (.oneOf column (values.map cellOf)), next)
  | .like field pattern ignoreCase => do
    let column ← memberColumn type table field
    .ok (.condition (.like column pattern ignoreCase), next)
  | .isNull field => do
    let column ← memberColumn type table field
    .ok (.condition (.isNull column), next)
  | .search field query plain => do
    let column ← memberColumn type table field
    .ok (.condition (.search column query plain), next)
  | .related name predicate => do
    let (relationship, target) ← findRelationship schema type name
    let sub := s!"sub_{next}"
    let tied := tie type target relationship.storage table sub (next + 1)
    let (filter, next) ← clauseOf schema target sub tied.next predicate
    .ok (.existing (tableName target) sub tied.joins
      (.allOf [.condition tied.condition, filter]), next)

def clausesOf (schema : Schema) (type : EntityType) (table : String) (next : Nat) :
    List Predicate → Except MappingError (List Clause × Nat)
  | [] => .ok ([], next)
  | predicate :: rest => do
    let (clause, next) ← clauseOf schema type table next predicate
    let (clauses, next) ← clausesOf schema type table next rest
    .ok (clause :: clauses, next)

end

/-- The clause for a predicate on the rows of a type's own table. -/
def filterClause (schema : Schema) (type : EntityType) (predicate : Predicate) :
    Except MappingError Clause :=
  (clauseOf schema type (tableName type) 1 predicate).map (·.1)

end ResourceServer.Mapping
