import ResourceServer.StableSort
import ResourceServer.Store.Trace
/-! Queries: selection, order and window of joined rows. -/

namespace ResourceServer.Store

structure Select where
  columns : List Selected
  table : String
  joins : List Join := []
  filters : List Clause := []
  order : List SortColumn := []
  offset : Nat := 0
  limit : Option Nat := none

namespace Select

def text (select : Select) : String :=
  let columns := ", ".intercalate (select.columns.map Selected.text)
  s!"SELECT {columns} FROM {select.table}"

/-- The joined rows that meet all filters. -/
def matching (database : Database) (select : Select) : Except StoreError (List Scope) := do
  let scopes ← database.scan select.table select.table select.joins
  scopes.filterM (Clause.meetsAll database select.filters)

/-- Null comes before everything in both directions; values that do not compare count as equal. -/
def compareKey (descending : Bool) (left right : Cell) : Ordering :=
  match left.isNull, right.isNull with
  | true, true => .eq
  | true, false => .lt
  | false, true => .gt
  | false, false =>
    let ordering := (left.compare? right).getD .eq
    if descending then ordering.swap else ordering

/-- Compares the values of the sort columns one after another. -/
def compareKeys : List SortColumn → List Cell → List Cell → Ordering
  | sort :: order, left :: lefts, right :: rights =>
    (compareKey sort.descending left right).then (compareKeys order lefts rights)
  | _, _, _ => .eq

def sortKey (order : List SortColumn) (scope : Scope) : Except StoreError (List Cell) :=
  order.mapM fun sort => scope.get sort.column

/-- Rows in the order of the sort columns. -/
def sorted (order : List SortColumn) (scopes : List Scope) : Except StoreError (List Scope) :=
  if order.isEmpty then .ok scopes
  else do
    let keyed ← scopes.mapM fun scope => return (← sortKey order scope, scope)
    .ok ((stableSort (fun left right => compareKeys order left.1 right.1) keyed).map (·.2))

/-- The selected columns of a row after the values `before`, last first; a star takes the whole row in place
of what was selected before it. -/
def project (scope : Scope) (before : Row) : List Selected → Except StoreError Row
  | [] => .ok before.reverse
  | .everything :: _ => .ok (scope.map (·.2))
  | .count :: _ => .error .countAmongOthers
  | .column name :: rest => do project scope ((← scope.get name) :: before) rest

/-- The rows of a query. A row that can not be projected fails by itself. -/
def run (database : Database) (select : Select) :
    Except StoreError (List (Except StoreError Row)) := do
  let scopes ← select.matching database
  if select.columns = [.count] then .ok [.ok [.integer scopes.length]]
  else
    let scopes ← sorted select.order scopes
    let scopes := scopes.drop select.offset
    let scopes := match select.limit with
      | some limit => scopes.take limit
      | none => scopes
    .ok (scopes.map fun scope => project scope [] select.columns)

/-- The lines that a query adds to the statement log. -/
def trace (database : Database) (select : Select) : List String :=
  let scanned := database.scanTrace select.table select.table select.joins
  let tested := match database.scan select.table select.table select.joins with
    | .ok scopes => Clause.rowsTrace database select.filters scopes
    | .error _ => []
  let ended := match select.matching database with
    | .ok _ =>
      select.filters.map (fun filter => "WHERE " ++ filter.text) ++
        if select.columns = [.count] then [] else select.order.map SortColumn.text
    | .error _ => []
  select.text :: scanned ++ tested ++ ended

/-- All rows of a query, unless one of them failed. -/
def allRows (rows : List (Except StoreError Row)) : Except StoreError (List Row) :=
  rows.mapM id

/-- The only row of a query, if there is one. -/
def onlyRow? : List (Except StoreError Row) → Except StoreError (Option Row)
  | [] => .ok none
  | [row] => row.map some
  | _ => .error (.tooManyRows 1)

/-- The only row of a query. -/
def onlyRow (rows : List (Except StoreError Row)) : Except StoreError Row := do
  match ← onlyRow? rows with
  | some row => .ok row
  | none => .error .noRows

end Select

end ResourceServer.Store
