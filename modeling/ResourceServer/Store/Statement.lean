import ResourceServer.Store.Query
/-! Statements that change tables. -/

namespace ResourceServer.Store

structure CreateTable where
  table : String
  columns : List ColumnDefinition
  constraints : List Constraint := []

structure Insert where
  table : String
  columns : List String
  rows : List (List Cell)
  returning : Option String := none

structure Update where
  table : String
  assignments : List (String × Cell)
  filters : List Clause := []

structure Delete where
  table : String
  filters : List Clause := []

namespace Database

/-- A row of the named table under the table's own name. -/
def meets (database : Database) (filters : List Clause) (table : Table) (row : Row) :
    Except StoreError Bool :=
  Clause.meetsAll database filters (table.scope table.name row)

/-- The lines of testing the rows of a table against some filters. -/
def filterTrace (database : Database) (name : String) (filters : List Clause) : List String :=
  match database.table? name with
  | some table => Clause.rowsTrace database filters (table.rows.map (table.scope table.name))
  | none => []

end Database

namespace CreateTable

def text (statement : CreateTable) : String :=
  let columns := ", ".intercalate (statement.columns.map ColumnDefinition.text)
  s!"CREATE TABLE IF NOT EXISTS {statement.table} ({columns})"

def run (database : Database) (statement : CreateTable) : Except StoreError Database :=
  database.createTable statement.table statement.columns statement.constraints

end CreateTable

namespace Insert

def text (statement : Insert) : String :=
  let columns := ", ".intercalate statement.columns
  let rows := ", ".intercalate (statement.rows.map fun row =>
    "(" ++ ", ".intercalate (row.map Cell.literal) ++ ")")
  s!"INSERT INTO {statement.table} ({columns}) VALUES {rows}"

def run (database : Database) (statement : Insert) :
    Except StoreError (List Cell × Database) := do
  let table ← database.table statement.table
  let (returned, table) ← table.insert statement.columns statement.rows statement.returning
  .ok (returned, database.replace table)

end Insert

namespace Update

def text (statement : Update) : String :=
  let assignments := ", ".intercalate (statement.assignments.map fun (column, value) =>
    column ++ " = " ++ value.literal)
  s!"UPDATE {statement.table} SET {assignments} WHERE {(Clause.all statement.filters).text}"

/-- A row with some values replaced. -/
def assign (assignments : List (Nat × Cell)) (row : Row) : Row :=
  assignments.foldl (fun row assignment => row.set assignment.1 assignment.2) row

/-- Replaces values in all rows that meet the filters, or in none if a constraint would fail, and counts the
rows. -/
def run (database : Database) (statement : Update) : Except StoreError (Nat × Database) := do
  let table ← database.table statement.table
  let marks ← table.rows.mapM (database.meets statement.filters table)
  let assignments ← statement.assignments.mapM fun (column, value) =>
    return (← table.position column, value)
  let rows := (marks.zip table.rows).map fun (mark, row) =>
    if mark then assign assignments row else row
  table.checkUnique rows
  .ok (marks.count true, database.replace { table with rows := rows })

end Update

namespace Delete

def text (statement : Delete) : String :=
  s!"DELETE FROM {statement.table} WHERE {(Clause.all statement.filters).text}"

/-- Removes all rows that meet the filters, and counts them. -/
def run (database : Database) (statement : Delete) : Except StoreError (Nat × Database) := do
  let table ← database.table statement.table
  let marks ← table.rows.mapM (database.meets statement.filters table)
  let rows := ((marks.zip table.rows).filter fun entry => !entry.1).map (·.2)
  .ok (marks.count true, database.replace { table with rows := rows })

end Delete

end ResourceServer.Store
