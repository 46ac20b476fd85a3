import ResourceServer.Store.Clause
/-! Why a statement fails. -/

namespace ResourceServer.Store

inductive StoreError
  | noSuchTable (table : String)
  | noSuchColumn (column : Column)
  | notInTable (table column : String)
  | wrongWidth (table : String) (found expected : Nat)
  | notUnique (table : String) (columns : List String)
  | unsupportedComparison (operator : String)
  | notMatchable (value : Cell)
  | notSearchable (value : Cell)
  | countAmongOthers
  | outOfRange (position : Nat)
  | alreadyOpen
  | notOpen
  | tooManyRows (expected : Nat)
  | noRows
  deriving DecidableEq

namespace StoreError

def detail : StoreError → String
  | .noSuchTable table => s!"no such table {table}"
  | .noSuchColumn column => s!"no such column {column.text}"
  | .notInTable table column => s!"table {table} has no column {column}"
  | .wrongWidth table found expected =>
    s!"incorrect width for table {table} (found {found}, expected {expected})"
  | .notUnique table columns =>
    "UNIQUE constraint failed: " ++ ", ".intercalate (columns.map fun column => table ++ "." ++ column)
  | .unsupportedComparison operator => s!"unsupported comparison {operator}"
  | .notMatchable value => s!"cannot match pattern against {value.literal}"
  | .notSearchable value => s!"cannot search text in {value.literal}"
  | .countAmongOthers => "COUNT(*) must be selected alone"
  | .outOfRange position => s!"column index {position} out of range"
  | .alreadyOpen => "transaction already in progress"
  | .notOpen => "no transaction in progress"
  | .tooManyRows expected => s!"query result has more rows than the expected {expected}"
  | .noRows => "query result is empty"

def message (error : StoreError) : String :=
  "mock DB error: " ++ error.detail

end StoreError

end ResourceServer.Store
