import ResourceServer.Proofs.Guarding
import ResourceServer.Proofs.Selection

/-! When a query or a count with an accepted filter fails. -/

namespace ResourceServer

open ResourceServer.Store ResourceServer.Mapping
open ResourceServer.Filter (Predicate)

theorem matching_fails {database : Database} {table : Table} {filter : Clause} (select : Select)
    (found : database.table? select.table = some table) (alone : select.joins = [])
    (single : select.filters = [filter]) {row : Row} (member : row ∈ table.rows) {error : StoreError}
    (failed : filter.eval database (table.scope select.table row) = .error error) :
    ∃ error, select.run database = .error error := by
  have stops : Clause.meetsAll database [filter] (table.scope select.table row) = .error error := by
    unfold Clause.meetsAll
    rw [failed]
    rfl
  obtain ⟨error, stopped⟩ :=
    filterM_error (List.mem_map_of_mem (f := table.scope select.table) member) stops
  refine ⟨error, ?_⟩
  have unmatched : select.matching database = .error error := by
    unfold Select.matching
    rw [alone, scan_alone select.table found, single]
    exact stopped
  unfold Select.run
  rw [unmatched]
  rfl

section

variable {schema : Schema} {type : EntityType} {predicate : Predicate} {clause : Clause}
  {connection : Connection} {table : Table} {row : Row} {error : StoreError}

theorem query_fails (compiled : filterClause schema type predicate = .ok clause)
    (found : connection.database.table? (tableName type) = some table) (member : row ∈ table.rows)
    (failed : clause.eval connection.database (table.scope (tableName type) row) = .error error) :
    ∃ error, (execute (Mapping.query schema type { predicate }) connection).1 = .error error := by
  obtain ⟨error, run⟩ := matching_fails (plainSelect type clause) found rfl rfl member failed
  refine ⟨.store error, ?_⟩
  have rows : (execute (selectAll (plainSelect type clause)) connection).1 =
      .error (.store error) := by
    unfold selectAll statement
    rw [execute_bind, execute_mapError, execute_select, run]
    rfl
  unfold Mapping.query
  rw [execute_bind, execute_ofExcept, selectOf_plain compiled]
  dsimp only
  rw [execute_bind]
  rcases outcome : execute (selectAll (plainSelect type clause)) connection with ⟨result, after⟩
  rw [outcome] at rows
  cases rows
  rfl

theorem count_fails (compiled : filterClause schema type predicate = .ok clause)
    (found : connection.database.table? (tableName type) = some table) (member : row ∈ table.rows)
    (failed : clause.eval connection.database (table.scope (tableName type) row) = .error error) :
    ∃ error, (execute (Mapping.count schema type predicate) connection).1 = .error error := by
  obtain ⟨error, run⟩ := matching_fails (countSelect type clause) found rfl rfl member failed
  refine ⟨.store error, ?_⟩
  unfold Mapping.count statement
  rw [execute_bind, execute_ofExcept, compiled]
  dsimp only
  rw [execute_bind, execute_mapError]
  unfold countSelect at run
  rw [execute_select, run]
  rfl

end

section

variable {schema : Schema} {type : EntityType} {predicate : Predicate} {connection : Connection}

def MisappliedAmong (database : Database) (type : EntityType) (clause : Clause) : Prop :=
  ∃ table, database.table? (tableName type) = some table ∧ ∃ row ∈ table.rows,
    Misapplied database clause (table.scope (tableName type) row)

/-- A row that a clause selects holds values that are none of the types of their fields. -/
def UnreadableAmong (database : Database) (type : EntityType) (clause : Clause) : Prop :=
  ∃ table, database.table? (tableName type) = some table ∧ ∃ row ∈ table.rows,
    clause.eval database (table.scope (tableName type) row) = .ok .yes ∧
      ∃ error, readRecord type (table.record row) = .error error

theorem readable_of_typed (known : type ∈ schema.types)
    (typed : FieldsTyped schema connection.database) (clause : Clause) :
    ¬UnreadableAmong connection.database type clause := by
  rintro ⟨table, found, row, member, _, error, failed⟩
  have inside : table.record row ∈ connection.database.records (tableName type) := by
    rw [records_of_table found]
    exact List.mem_map_of_mem member
  obtain ⟨resource, read⟩ := readRecord_ok (typed type known _ inside)
  rw [failed] at read
  cases read

/-- A count with an accepted filter fails only where a pattern or a search is misapplied on a row, and a query
besides that only where a row that it selects can not be read. -/
theorem accepted_execution (shaped : Shaped schema connection.database)
    (distinct : schema.ColumnsDistinct) (known : type ∈ schema.types)
    (accepted : predicate.Accepted schema type) :
    ∃ clause, filterClause schema type predicate = .ok clause ∧
      ((∃ error, (execute (Mapping.count schema type predicate) connection).1 = .error error) ↔
        MisappliedAmong connection.database type clause) ∧
      ((∃ error, (execute (Mapping.query schema type { predicate }) connection).1 = .error error) ↔
        MisappliedAmong connection.database type clause ∨
          UnreadableAmong connection.database type clause) ∧
      (FieldsTyped schema connection.database → MisappliedAmong connection.database type clause →
        predicate.Strained schema type) := by
  obtain ⟨clause, after, compiles, _, guarded⟩ :=
    accepted_compiles shaped distinct accepted known (tableName type) 1
  have compiled : filterClause schema type predicate = .ok clause := by
    unfold filterClause
    rw [compiles]
    rfl
  obtain ⟨table, found, laid, wide⟩ := shaped.entities type known
  have present : ∀ field ∈ type.fields, table.Has (columnName field.name) := fun field member =>
    ⟨_, field_column laid (distinct type known) member, rfl⟩
  have guards : ∀ row ∈ table.rows, Guarded connection.database (table.scope (tableName type) row)
      (FieldsTyped schema connection.database → predicate.Strained schema type) clause := by
    intro row member
    have bound := scope_binds table (tableName type) row [] (wide row member)
    rw [List.append_nil] at bound
    exact guarded table found row member _ bound
  have strained : FieldsTyped schema connection.database →
      MisappliedAmong connection.database type clause → predicate.Strained schema type := by
    rintro typed ⟨table', found', row, member, misapplied⟩
    cases found.symm.trans found'
    obtain ⟨error, failed⟩ := misapplied_fails misapplied
    exact ((guards row member).failing error failed).2 typed
  refine ⟨clause, compiled, ?_⟩
  by_cases misapplied : MisappliedAmong connection.database type clause
  · have ⟨table', found', row, member, here⟩ := misapplied
    obtain ⟨error, failed⟩ := misapplied_fails here
    exact ⟨iff_of_true (count_fails compiled found' member failed) misapplied,
      iff_of_true (query_fails compiled found' member failed) (.inl misapplied), strained⟩
  · have evaluated : ∀ row ∈ table.rows,
        clause.eval connection.database (table.scope (tableName type) row) =
          .ok (truthOn connection.database (table.scope (tableName type) row) clause) := by
      intro row member
      cases outcome : clause.eval connection.database (table.scope (tableName type) row) with
      | ok truth => rw [truthOn_eq outcome]
      | error error =>
          have here := ((guards row member).failing error outcome).1
          exact absurd ⟨table, found, row, member, here⟩ misapplied
    have counted := count_kept compiled found evaluated
    have queried := query_kept present wide compiled found evaluated
    refine ⟨iff_of_false ?_ misapplied, ?_, strained⟩
    · rintro ⟨error, failed⟩
      rw [counted] at failed
      cases failed
    · rw [queried, mapM_error_iff, or_iff_right misapplied]
      constructor
      · rintro ⟨record, member, failed⟩
        obtain ⟨row, kept, rfl⟩ := List.mem_map.mp member
        obtain ⟨inside, met⟩ := List.mem_filter.mp kept
        refine ⟨table, found, row, inside, ?_, failed⟩
        rw [evaluated row inside, of_decide_eq_true met]
      · rintro ⟨table', found', row, inside, met, failed⟩
        cases found.symm.trans found'
        refine ⟨table.record row, List.mem_map_of_mem (List.mem_filter.mpr ⟨inside, ?_⟩), failed⟩
        rw [truthOn_eq met]
        rfl

end

end ResourceServer
