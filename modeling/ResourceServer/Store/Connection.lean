import ResourceServer.Store.Statement
/-! Connections: statements on a shared database, transactions, and the statement log. -/

namespace ResourceServer.Store

/-- What a connection sees: the database, the state to which an open transaction may go back, and the
statements so far. -/
structure Connection where
  database : Database
  savepoint : Option Database := none
  log : List String := []

/-- An action on a connection. A failure keeps the changes made before it. -/
abbrev Action (ε : Type) := ExceptT ε (StateM Connection)

namespace Action

variable {ε δ α : Type}

def note (lines : List String) : Action ε Unit :=
  modify fun connection => { connection with log := connection.log ++ lines }

/-- Maps the errors of an action. -/
def mapError (convert : ε → δ) (action : Action ε α) : Action δ α := do
  match ← (action.run : StateM Connection (Except ε α)) with
  | .ok value => return value
  | .error error => throw (convert error)

def ofExcept (result : Except ε α) : Action ε α :=
  match result with
  | .ok value => return value
  | .error error => throw error

/-- Performs a statement that answers and changes the database, if it succeeds. -/
def perform (statement : Database → Except ε (α × Database)) : Action ε α := do
  let connection ← get
  match statement connection.database with
  | .ok (value, database) =>
    set { connection with database := database }
    return value
  | .error error => throw error

def createTable (statement : CreateTable) : Action StoreError Unit := do
  note [statement.text]
  perform fun database => (statement.run database).map fun database => ((), database)

def select (statement : Select) : Action StoreError (List (Except StoreError Row)) := do
  let connection ← get
  note (statement.trace connection.database)
  ofExcept (statement.run connection.database)

def insert (statement : Insert) : Action StoreError (List Cell) := do
  note [statement.text]
  perform statement.run

def update (statement : Update) : Action StoreError Nat := do
  let connection ← get
  note (statement.text :: connection.database.filterTrace statement.table statement.filters)
  perform statement.run

def delete (statement : Delete) : Action StoreError Nat := do
  let connection ← get
  note (statement.text :: connection.database.filterTrace statement.table statement.filters)
  perform statement.run

/-- Opens a transaction. -/
def begin : Action StoreError Unit := do
  let connection ← get
  if connection.savepoint.isSome then throw .alreadyOpen
  note ["BEGIN"]
  modify fun connection => { connection with savepoint := some connection.database }

/-- Closes a transaction and keeps its changes. -/
def commit : Action StoreError Unit := do
  note ["COMMIT"]
  let connection ← get
  if connection.savepoint.isNone then throw .notOpen
  set { connection with savepoint := none }

/-- Closes a transaction and goes back to the state before it. -/
def rollback : Action StoreError Unit := do
  note ["ROLLBACK"]
  let connection ← get
  match connection.savepoint with
  | some database => set { connection with database := database, savepoint := none }
  | none => throw .notOpen

/-- Creates a table and fills its columns other than serial ones, without a line in the log. The table stays
even if the rows do not fit. -/
def createTableWithRows (table : String) (columns : List ColumnDefinition)
    (rows : List (List Cell)) : Action StoreError Unit := do
  perform fun database =>
    (database.createTable table columns []).map fun database => ((), database)
  let given := (columns.filter fun column => column.type ≠ .serial).map ColumnDefinition.name
  perform fun database => do
    let (_, database) ← Insert.run database ⟨table, given, rows, none⟩
    .ok ((), database)

/-- The rows of a table in the order of storage. -/
def rows (table : String) : Action StoreError (List Row) := do
  let connection ← get
  let table ← ofExcept (connection.database.table table)
  return table.rows

end Action

/-- Several connections to one database, each with its own transaction. -/
structure Sessions where
  database : Database
  savepoints : List (Nat × Database) := []

namespace Sessions

variable {ε α : Type}

def connection (sessions : Sessions) (number : Nat) : Connection :=
  ⟨sessions.database, sessions.savepoints.lookup number, []⟩

/-- Runs an action on one connection, and answers also with the log of its statements. -/
def run (sessions : Sessions) (number : Nat) (action : Action ε α) :
    (Except ε α × List String) × Sessions :=
  let (result, connection) := (ExceptT.run action).run (sessions.connection number)
  let others := sessions.savepoints.filter fun entry => entry.1 ≠ number
  let own := match connection.savepoint with
    | some database => [(number, database)]
    | none => []
  ((result, connection.log), ⟨connection.database, own ++ others⟩)

/-- Runs an action, unless it leaves a table whose next serial number cannot be stored. There the program ends: there
is neither an answer nor a state to go on from. -/
def run? (sessions : Sessions) (number : Nat) (action : Action ε α) :
    Option ((Except ε α × List String) × Sessions) :=
  let outcome := sessions.run number action
  if outcome.2.database.isCounted then some outcome else none

end Sessions

end ResourceServer.Store
