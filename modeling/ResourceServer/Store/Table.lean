import ResourceServer.Number.Reading
import ResourceServer.Store.StoreError
/-! Tables with their constraints, the insertion of rows, and databases of tables. -/

namespace ResourceServer.Store

inductive ConstraintKind
  | primaryKey
  | unique
  | foreignKey (table : String)
  deriving DecidableEq

structure Constraint where
  kind : ConstraintKind
  columns : List String
  deriving DecidableEq

/-- A table: its columns, the positions that each uniqueness constraint names, its rows in the order of
insertion, and the next number for serial columns. -/
structure Table where
  name : String
  columns : List ColumnDefinition
  uniqueKeys : List (List Nat)
  rows : List Row
  nextSerial : Int
  deriving DecidableEq

namespace Table

def empty (name : String) (columns : List ColumnDefinition) : Table :=
  ⟨name, columns, [], [], 1⟩

/-- Whether the next serial number can be stored. -/
def isCounted (table : Table) : Bool :=
  Number.isStorable table.nextSerial

/-- The position of the first column of a name. -/
def position (table : Table) (column : String) : Except StoreError Nat :=
  match table.columns.findIdx? fun definition => definition.name = column with
  | some position => .ok position
  | none => .error (.notInTable table.name column)

/-- Adds a constraint. Foreign keys are not checked. -/
def addConstraint (table : Table) (constraint : Constraint) : Except StoreError Table :=
  match constraint.kind with
  | .foreignKey _ => .ok table
  | _ =>
    (constraint.columns.mapM table.position).map fun positions =>
      { table with uniqueKeys := table.uniqueKeys ++ [positions] }

/-- The values of a row at some positions, unless one of them is null. -/
def keyOf? (positions : List Nat) (row : Row) : Option (List Cell) :=
  let values := positions.map fun position => row.getD position .null
  if values.any Cell.isNull then none else some values

def hasRepeats : List (List Cell) → Bool
  | [] => false
  | key :: rest => rest.contains key || hasRepeats rest

/-- Rows may not agree in all columns of a uniqueness constraint, null agreeing with nothing. -/
def checkUnique (table : Table) (rows : List Row) : Except StoreError Unit :=
  match table.uniqueKeys.find? fun key => hasRepeats (rows.filterMap (keyOf? key)) with
  | none => .ok ()
  | some key =>
    .error (.notUnique table.name (key.filterMap fun position =>
      (table.columns[position]?).map ColumnDefinition.name))

/-- A row of nulls with some values put in place. -/
def placeValues (width : Nat) (positions : List Nat) (values : List Cell) : Row :=
  (positions.zip values).foldl (fun row entry => row.set entry.1 entry.2)
    (List.replicate width .null)

/-- Numbers the serial columns that were left out, and moves the next number past those given. -/
def fillSerials : List ColumnDefinition → Row → Int → Row × Int
  | definition :: definitions, value :: row, next =>
    let (value, next) :=
      if definition.type = .serial then
        match value with
        | .null => (Cell.integer next, next + 1)
        | .integer given => (Cell.integer given, max next (given + 1))
        | value => (value, next)
      else (value, next)
    let (row, next) := fillSerials definitions row next
    (value :: row, next)
  | _, row, next => (row, next)

/-- The complete rows for some lists of values, and the next serial number after them. -/
def completeRows (table : Table) (positions : List Nat) :
    List (List Cell) → Int → Except StoreError (List Row × Int)
  | [], next => .ok ([], next)
  | values :: rest, next =>
    if values.length ≠ positions.length then
      .error (.wrongWidth table.name values.length positions.length)
    else do
      let row := placeValues table.columns.length positions values
      let (row, next) := fillSerials table.columns row next
      let (rows, next) ← completeRows table positions rest next
      .ok (row :: rows, next)

/-- Inserts rows given by their values in some columns, all or none of them, and returns their values in one
column if asked. -/
def insert (table : Table) (columns : List String) (rows : List (List Cell))
    (returning : Option String) : Except StoreError (List Cell × Table) := do
  let positions ← columns.mapM table.position
  let returned ← returning.mapM table.position
  let (added, next) ← table.completeRows positions rows table.nextSerial
  let all := table.rows ++ added
  table.checkUnique all
  let values := match returned with
    | some position => added.map fun row => row.getD position .null
    | none => []
  .ok (values, { table with rows := all, nextSerial := next })

end Table

/-! Tables by name. -/

structure Database where
  tables : List Table
  deriving DecidableEq

namespace Database

def empty : Database := ⟨[]⟩

def table? (database : Database) (name : String) : Option Table :=
  database.tables.find? fun table => table.name = name

def table (database : Database) (name : String) : Except StoreError Table :=
  match database.table? name with
  | some table => .ok table
  | none => .error (.noSuchTable name)

def isCounted (database : Database) : Bool :=
  database.tables.all Table.isCounted

/-- Replaces the table of the same name. -/
def replace (database : Database) (table : Table) : Database :=
  ⟨database.tables.map fun other => if other.name = table.name then table else other⟩

/-- Creates a table unless one of that name is there. -/
def createTable (database : Database) (name : String) (columns : List ColumnDefinition)
    (constraints : List Constraint) : Except StoreError Database :=
  match database.table? name with
  | some _ => .ok database
  | none => do
    let table ← constraints.foldlM Table.addConstraint (Table.empty name columns)
    .ok ⟨database.tables ++ [table]⟩

end Database

end ResourceServer.Store
