import ResourceServer.Store.Pattern
import ResourceServer.Store.Table
/-! The meaning of clauses on rows, in three truth values, and the joined rows of tables. -/

namespace ResourceServer.Store

inductive Truth
  | no
  | unknown
  | yes
  deriving DecidableEq

namespace Truth

def ofBool (value : Bool) : Truth :=
  if value then yes else no

def and : Truth → Truth → Truth
  | no, _ => no
  | _, no => no
  | yes, yes => yes
  | _, _ => unknown

def or : Truth → Truth → Truth
  | yes, _ => yes
  | _, yes => yes
  | no, no => no
  | _, _ => unknown

def not : Truth → Truth
  | no => yes
  | unknown => unknown
  | yes => no

end Truth

/-- The columns in scope with their values on one row. -/
abbrev Scope := List (Column × Cell)

/-- Whether a column in scope is meant by a reference; one without a table goes by the name alone. -/
def isMeant (reference column : Column) : Bool :=
  match reference.table with
  | some _ => column = reference
  | none => column.name = reference.name

namespace Scope

/-- The value of the first column that a reference may mean. -/
def get (scope : Scope) (reference : Column) : Except StoreError Cell :=
  match scope.find? fun entry => isMeant reference entry.1 with
  | some entry => .ok entry.2
  | none => .error (.noSuchColumn reference)

end Scope

/-- A row of a table under a given name of the table. -/
def Table.scope (table : Table) (rename : String) (row : Row) : Scope :=
  (table.columns.map fun definition => Column.ofTable rename definition.name).zip row

/-- Whether an ordering is one of those that an operator accepts. -/
def accepts? (operator : String) (ordering : Ordering) : Option Bool :=
  if operator = "=" then some (ordering = .eq)
  else if operator = "!=" ∨ operator = "<>" then some (ordering ≠ .eq)
  else if operator = "<" then some (ordering = .lt)
  else if operator = "<=" then some (ordering ≠ .gt)
  else if operator = ">" then some (ordering = .gt)
  else if operator = ">=" then some (ordering ≠ .lt)
  else none

/-- A comparison of values that do not compare is unknown, whatever the operator. -/
def compareCells (left : Cell) (operator : String) (right : Cell) : Except StoreError Truth :=
  match left.compare? right with
  | none => .ok .unknown
  | some ordering =>
    match accepts? operator ordering with
    | some result => .ok (.ofBool result)
    | none => .error (.unsupportedComparison operator)

namespace Condition

/-- The truth of a condition on a row. -/
def eval (condition : Condition) (scope : Scope) : Except StoreError Truth :=
  match condition with
  | .compare left operator right => do
    let left ← scope.get left
    let right ← match right with
      | .cell value => Except.ok value
      | .column column => scope.get column
    compareCells left operator right
  | .oneOf column values => do
    let value ← scope.get column
    if values.isEmpty then return .no
    if value.isNull then return .unknown
    return .ofBool (values.any fun other => value.compare? other = some .eq)
  | .isNull column => return .ofBool (← scope.get column).isNull
  | .like column pattern ignoreCase => do
    match ← scope.get column with
    | .null => return .unknown
    | .text value => return .ofBool (isLike ignoreCase pattern value)
    | value => throw (.notMatchable value)
  | .search column query plain => do
    match ← scope.get column with
    | .null => return .unknown
    | .text value => return .ofBool (matchesQuery plain query value)
    | value => throw (.notSearchable value)

end Condition

namespace Join

/-- The rows of the joined table that go with a row. -/
def matching (join : Join) (table : Table) (scope : Scope) :
    List Row → Except StoreError (List Scope)
  | [] => .ok []
  | row :: rest => do
    let joined := scope ++ table.scope join.rename row
    let left ← Scope.get joined join.left
    let right ← Scope.get joined join.right
    let truth ← compareCells left join.operator right
    let others ← matching join table scope rest
    .ok (if truth = .yes then joined :: others else others)

/-- The rows that go with a row; with none, a left join adds a row of nulls. -/
def extend (join : Join) (table : Table) (scope : Scope) : Except StoreError (List Scope) := do
  let joined ← join.matching table scope table.rows
  if joined.isEmpty ∧ join.kind = .left then
    .ok [scope ++ table.scope join.rename (List.replicate table.columns.length .null)]
  else .ok joined

/-- Joins one more table to some rows. -/
def apply (join : Join) (database : Database) (scopes : List Scope) :
    Except StoreError (List Scope) := do
  let table ← database.table join.table
  let extended ← scopes.mapM (join.extend table)
  .ok extended.flatten

end Join

namespace Database

/-- The rows of a table under a given name, joined with other tables. -/
def scan (database : Database) (table rename : String) (joins : List Join) :
    Except StoreError (List Scope) := do
  let table ← database.table table
  joins.foldlM (fun scopes join => join.apply database scopes) (table.rows.map (table.scope rename))

end Database

namespace Clause

mutual

/-- The truth of a clause on a row. What a conjunction or disjunction needs no more is not evaluated. -/
def eval (database : Database) : Clause → Scope → Except StoreError Truth
  | .all clauses, scope => evalAll database clauses scope
  | .any clauses, scope => evalAny database clauses scope
  | .not clause, scope => return (← eval database clause scope).not
  | .condition leaf, scope => leaf.eval scope
  | .existing table rename joins filter, scope => do
    let inner ← database.scan table rename joins
    let found ← inner.anyM fun row => return (← eval database filter (row ++ scope)) = .yes
    return .ofBool found

def evalAll (database : Database) : List Clause → Scope → Except StoreError Truth
  | [], _ => return .yes
  | clause :: rest, scope => do
    match ← eval database clause scope with
    | .no => return .no
    | truth => return truth.and (← evalAll database rest scope)

def evalAny (database : Database) : List Clause → Scope → Except StoreError Truth
  | [], _ => return .no
  | clause :: rest, scope => do
    match ← eval database clause scope with
    | .yes => return .yes
    | truth => return truth.or (← evalAny database rest scope)

end

/-- Whether a row meets all of some filters. -/
def meetsAll (database : Database) : List Clause → Scope → Except StoreError Bool
  | [], _ => return true
  | filter :: rest, scope => do
    if (← eval database filter scope) = .yes then meetsAll database rest scope else return false

end Clause

end ResourceServer.Store
