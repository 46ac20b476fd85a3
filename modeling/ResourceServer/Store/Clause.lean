import ResourceServer.Store.Cell
/-! The parts of statements: columns, conditions, joins and orders, with their texts. -/

namespace ResourceServer.Store

/-- A name as statements quote it, each quotation mark in it written twice. -/
def quoteName (name : String) : String :=
  "\"" ++ String.ofList (name.toList.flatMap fun c => if c = '"' then ['"', '"'] else [c]) ++ "\""

/-- A column, by its name alone or together with the name of its table. -/
structure Column where
  table : Option String
  name : String
  deriving DecidableEq

namespace Column

def ofName (name : String) : Column := ⟨none, name⟩
def ofTable (table name : String) : Column := ⟨some table, name⟩

def text (column : Column) : String :=
  match column.table with
  | some table => table ++ "." ++ column.name
  | none => column.name

def quoted (column : Column) : String :=
  match column.table with
  | some table => quoteName table ++ "." ++ quoteName column.name
  | none => quoteName column.name

/-- Columns without a table come first, then tables and names in order. -/
def before (left right : Column) : Bool :=
  match left.table, right.table with
  | none, some _ => true
  | some _, none => false
  | none, none => left.name < right.name
  | some l, some r => l < r || (l = r && left.name < right.name)

end Column

/-- A column as it is declared. -/
structure ColumnDefinition where
  name : String
  type : ColumnType
  deriving DecidableEq

namespace ColumnDefinition

def text (definition : ColumnDefinition) : String :=
  definition.name ++ " " ++ definition.type.name

end ColumnDefinition

inductive Operand
  | cell (value : Cell)
  | column (column : Column)
  deriving DecidableEq

namespace Operand

def text : Operand → String
  | .cell value => value.literal
  | .column name => name.text

end Operand

/-- A condition on one row. -/
inductive Condition
  | compare (left : Column) (operator : String) (right : Operand)
  | oneOf (column : Column) (values : List Cell)
  | isNull (column : Column)
  | like (column : Column) (pattern : String) (ignoreCase : Bool)
  | search (column : Column) (query : String) (plain : Bool)
  deriving DecidableEq

namespace Condition

def text : Condition → String
  | .compare left operator right => s!"{left.text} {operator} {right.text}"
  | .oneOf column values =>
    column.text ++ " IN (" ++ ", ".intercalate (values.map Cell.literal) ++ ")"
  | .isNull column => column.text ++ " IS NULL"
  | .like column pattern ignoreCase =>
    let operator := if ignoreCase then "ILIKE" else "LIKE"
    s!"{column.text} {operator} '{pattern}'"
  | .search column query plain =>
    let function := if plain then "plainto_tsquery" else "to_tsquery"
    s!"{column.text} @@ {function}('{query}')"

end Condition

inductive JoinKind
  | inner
  | left
  deriving DecidableEq

/-- A table joined under another name, on the comparison of two columns. -/
structure Join where
  kind : JoinKind
  table : String
  rename : String
  left : Column
  operator : String
  right : Column
  deriving DecidableEq

namespace Join

def text (join : Join) : String :=
  let kind := match join.kind with
    | .inner => "JOIN"
    | .left => "LEFT JOIN"
  s!"{kind} {join.table} AS {join.rename} ON {join.left.text} {join.operator} {join.right.text}"

end Join

/-- What the rows of a statement must meet. The last form asks for a row of another table, joined and
filtered, whose columns hide those around it. -/
inductive Clause
  | all (clauses : List Clause)
  | any (clauses : List Clause)
  | not (clause : Clause)
  | condition (condition : Condition)
  | existing (table rename : String) (joins : List Join) (filter : Clause)

namespace Clause

/-- All of some clauses; a single one stands for itself. -/
def allOf : List Clause → Clause
  | [clause] => clause
  | clauses => .all clauses

/-- Any of some clauses; a single one stands for itself. -/
def anyOf : List Clause → Clause
  | [clause] => clause
  | clauses => .any clauses

mutual

def text : Clause → String
  | .all [] => "TRUE"
  | .any [] => "FALSE"
  | .all clauses => "(" ++ " AND ".intercalate (texts clauses) ++ ")"
  | .any clauses => "(" ++ " OR ".intercalate (texts clauses) ++ ")"
  | .not clause => "NOT " ++ text clause
  | .condition leaf => leaf.text
  | .existing table rename joins filter =>
    "EXISTS (SELECT * FROM " ++ table ++ " AS " ++ rename
      ++ String.join (joins.map fun join => " " ++ join.text)
      ++ " WHERE " ++ text filter ++ ")"

def texts : List Clause → List String
  | [] => []
  | clause :: rest => text clause :: texts rest

end

end Clause

structure SortColumn where
  column : Column
  descending : Bool
  deriving DecidableEq

namespace SortColumn

def text (sort : SortColumn) : String :=
  let direction := if sort.descending then "DESC" else "ASC"
  s!"ORDER BY {sort.column.text} {direction}"

end SortColumn

/-- What a query returns of a row. -/
inductive Selected
  | column (column : Column)
  | everything
  | count
  deriving DecidableEq

namespace Selected

def text : Selected → String
  | .column name => name.text
  | .everything => "*"
  | .count => "COUNT(*)"

end Selected

end ResourceServer.Store
