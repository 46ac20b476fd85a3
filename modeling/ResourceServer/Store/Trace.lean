import ResourceServer.Store.Evaluation
/-! The lines that a statement log gains while rows are joined and clauses evaluated: one for every join that
is begun. -/

namespace ResourceServer.Store

namespace Database

/-- The joins begun on some rows; a join that fails is the last. -/
def joinTrace (database : Database) : List Join → List Scope → List String
  | [], _ => []
  | join :: rest, scopes =>
    join.text ::
      match join.apply database scopes with
      | .ok scopes => joinTrace database rest scopes
      | .error _ => []

def scanTrace (database : Database) (table rename : String) (joins : List Join) : List String :=
  match database.table? table with
  | some table => joinTrace database joins (table.rows.map (table.scope rename))
  | none => []

end Database

namespace Clause

/-- The lines of evaluating a clause on one row after another, up to the first that meets it. -/
def traceUntil (truth : Scope → Except StoreError Truth) (lines : Scope → List String) :
    List Scope → List String
  | [] => []
  | row :: rest =>
    lines row ++
      match truth row with
      | .ok .yes | .error _ => []
      | .ok _ => traceUntil truth lines rest

mutual

/-- The lines of evaluating a clause on a row. -/
def trace (database : Database) : Clause → Scope → List String
  | .all clauses, scope => traceAll database clauses scope
  | .any clauses, scope => traceAny database clauses scope
  | .not clause, scope => trace database clause scope
  | .condition _, _ => []
  | .existing table rename joins filter, scope =>
    database.scanTrace table rename joins ++
      match database.scan table rename joins with
      | .ok inner =>
        traceUntil (fun row => eval database filter (row ++ scope))
          (fun row => trace database filter (row ++ scope)) inner
      | .error _ => []

def traceAll (database : Database) : List Clause → Scope → List String
  | [], _ => []
  | clause :: rest, scope =>
    trace database clause scope ++
      match eval database clause scope with
      | .ok .no | .error _ => []
      | .ok _ => traceAll database rest scope

def traceAny (database : Database) : List Clause → Scope → List String
  | [], _ => []
  | clause :: rest, scope =>
    trace database clause scope ++
      match eval database clause scope with
      | .ok .yes | .error _ => []
      | .ok _ => traceAny database rest scope

end

/-- The lines of testing one row against some filters. -/
def filterTrace (database : Database) : List Clause → Scope → List String
  | [], _ => []
  | filter :: rest, scope =>
    trace database filter scope ++
      match eval database filter scope with
      | .ok .yes => filterTrace database rest scope
      | _ => []

/-- The lines of testing one row after another; a test that fails is the last. -/
def rowsTrace (database : Database) (filters : List Clause) : List Scope → List String
  | [] => []
  | scope :: rest =>
    filterTrace database filters scope ++
      match meetsAll database filters scope with
      | .ok _ => rowsTrace database filters rest
      | .error _ => []

end Clause

end ResourceServer.Store
