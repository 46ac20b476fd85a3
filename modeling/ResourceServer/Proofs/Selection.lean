import ResourceServer.Proofs.Compilation
import ResourceServer.Proofs.Steps

/-! Queries return the resources that their predicates hold of. -/

namespace ResourceServer

open ResourceServer.Store ResourceServer.Mapping
open ResourceServer.Filter (Predicate)

theorem execute_selectAll {select : Select} {connection : Connection} {rows : List Row}
    (run : select.run connection.database = .ok (rows.map .ok)) :
    (execute (selectAll select) connection).1 = .ok rows := by
  have all : Select.allRows (rows.map .ok) = .ok rows := by
    unfold Select.allRows
    rw [List.mapM_map]
    exact (mapM_ok id fun row _ => rfl).trans (by rw [List.map_id])
  unfold selectAll statement
  rw [execute_bind, execute_mapError, execute_select, run]
  dsimp only [Except.mapError]
  rw [execute_ofExcept, all]

theorem matching_alone {database : Database} {name : String} {table : Table} {filter : Clause}
    (select : Select) (found : database.table? name = some table) (named : select.table = name)
    (alone : select.joins = []) (single : select.filters = [filter]) (meets : Row → Truth)
    (evaluated : ∀ row ∈ table.rows,
      filter.eval database (table.scope name row) = .ok (meets row)) :
    select.matching database =
      .ok ((table.rows.filter fun row => meets row = .yes).map (table.scope name)) := by
  have tested : (table.rows.map (table.scope name)).filterM (Clause.meetsAll database [filter]) =
      .ok ((table.rows.filter fun row => meets row = .yes).map (table.scope name)) := by
    refine filterM_map_ok (fun row => decide (meets row = .yes)) fun row member => ?_
    unfold Clause.meetsAll
    rw [evaluated row member]
    cases meets row <;> rfl
  unfold Select.matching
  rw [named, alone, scan_alone name found, single]
  exact tested

theorem project_fields {scope : Scope} {name : String} {table : Table} {record : Record}
    (bound : scope.Binds name table record) {fields : List Field}
    (present : ∀ field ∈ fields, table.Has (columnName field.name)) (before : Row) :
    Select.project scope before (fields.map fun field => .column (fieldColumn name field.name)) =
      .ok (before.reverse ++ fields.map fun field => record (columnName field.name)) := by
  induction fields generalizing before with
  | nil => simp [Select.project]
  | cons field rest ih =>
      have read := bound _ (present field List.mem_cons_self)
      have later := ih (fun other member => present other (List.mem_cons_of_mem _ member))
        (record (columnName field.name) :: before)
      simp only [List.map_cons, Select.project, fieldColumn, read, bind, Except.bind] at later ⊢
      rw [later]
      simp

theorem valueOf_ok {type : FieldType} {cell : Cell} (typed : (columnType type).takes cell) :
    ∃ value, valueOf type cell = .ok value := by
  rcases typed with rfl | kind
  · cases type <;> exact ⟨_, rfl⟩
  · cases cell <;> cases type <;> first | exact ⟨_, rfl⟩ | cases kind

theorem readFields_ok {fields : List Field} {record : Record}
    (typed : ∀ field ∈ fields, (columnType field.type).takes (record (columnName field.name))) :
    ∃ values, readFields fields (fields.map fun field => record (columnName field.name)) =
      .ok values := by
  induction fields with
  | nil => exact ⟨[], rfl⟩
  | cons field rest ih =>
      obtain ⟨value, first⟩ := valueOf_ok (typed field List.mem_cons_self)
      obtain ⟨values, others⟩ := ih fun other member => typed other (List.mem_cons_of_mem _ member)
      refine ⟨(field.name, value) :: values, ?_⟩
      simp only [List.map_cons, readFields, first, others, bind, Except.bind]

def readRecord (type : EntityType) (record : Record) : Except MappingError Instance :=
  readRow type (type.fields.map fun field => record (columnName field.name))

theorem readRecord_ok {type : EntityType} {record : Record}
    (typed : ∀ field ∈ type.fields,
      (columnType field.type).takes (record (columnName field.name))) :
    ∃ resource, readRecord type record = .ok resource := by
  obtain ⟨values, read⟩ := readFields_ok typed
  unfold readRecord readRow
  rw [read]
  exact ⟨_, rfl⟩

section

variable {schema : Schema} {database : Database} {type : EntityType} {predicate : Predicate}
  {clause : Clause} {table : Table}

/-- The records of a type that a predicate holds of, in the order of storage. -/
def selected (schema : Schema) (database : Database) (type : EntityType) (predicate : Predicate) :
    List Record :=
  (database.records (tableName type)).filter fun record =>
    truth schema database type record predicate = .yes

theorem selected_eq (found : database.table? (tableName type) = some table) :
    selected schema database type predicate =
      (table.rows.filter fun row =>
        truth schema database type (table.record row) predicate = .yes).map table.record := by
  unfold selected
  rw [records_of_table found, Table.records, List.filter_map]
  rfl

theorem Stores.readable (stores : Stores schema database) (distinct : schema.ColumnsDistinct)
    (known : type ∈ schema.types) (found : database.table? (tableName type) = some table) {row : Row}
    (member : row ∈ table.rows) : ∃ resource, readRecord type (table.record row) = .ok resource := by
  obtain ⟨table', found', laid, typed⟩ := stores.entities type known
  cases found.symm.trans found'
  refine readRecord_ok fun field inside => ?_
  have admitted := recordOf_admits (columns_distinct laid) (typed row member)
    (field_column laid (distinct type known) inside)
  rw [storedType_stored type field] at admitted
  exact takes_of_admits admitted (by cases field.type <;> rfl)

def plainSelect (type : EntityType) (clause : Clause) : Select :=
  { columns := fieldColumns type (tableName type), table := tableName type, filters := [clause] }

theorem selectOf_plain (compiled : filterClause schema type predicate = .ok clause) :
    selectOf schema type { predicate } = .ok (plainSelect type clause) := by
  unfold selectOf
  simp only [compiled, bind, Except.bind]
  rfl

theorem run_plain {items : List Row} {place : Row → Scope} (values : Row → Row)
    (kept : (plainSelect type clause).matching database = .ok (items.map place))
    (projected : ∀ item ∈ items,
      Select.project (place item) [] (fieldColumns type (tableName type)) = .ok (values item)) :
    (plainSelect type clause).run database = .ok ((items.map values).map .ok) := by
  have several : (plainSelect type clause).columns ≠ [.count] := by
    intro same
    cases same
  unfold Select.run
  rw [kept]
  simp only [bind, Except.bind, if_neg several]
  rw [List.map_map]
  refine congrArg Except.ok ?_
  refine (List.map_map ..).trans (List.map_congr_left projected)

theorem run_count {scopes : List Scope} {select : Select} (counting : select.columns = [.count])
    (kept : select.matching database = .ok scopes) :
    select.run database = .ok [.ok [.integer scopes.length]] := by
  unfold Select.run
  rw [kept, counting]
  rfl

theorem query_kept (present : ∀ field ∈ type.fields, table.Has (columnName field.name))
    (wide : table.Wide) (compiled : filterClause schema type predicate = .ok clause)
    {connection : Connection} (found : connection.database.table? (tableName type) = some table)
    {meets : Row → Truth} (evaluated : ∀ row ∈ table.rows,
      clause.eval connection.database (table.scope (tableName type) row) = .ok (meets row)) :
    (execute (Mapping.query schema type { predicate }) connection).1 =
      ((table.rows.filter fun row => meets row = .yes).map table.record).mapM (readRecord type) := by
  have kept := matching_alone (plainSelect type clause) found rfl rfl rfl _ evaluated
  have run : (plainSelect type clause).run connection.database =
      .ok ((((table.rows.filter fun row => meets row = .yes).map table.record).map fun record =>
        type.fields.map fun field => record (columnName field.name)).map .ok) := by
    have projected := run_plain
      (fun row => type.fields.map fun field => table.record row (columnName field.name))
      kept fun row inside => by
        have member := (List.mem_filter.mp inside).1
        have bound := scope_binds table (tableName type) row [] (wide row member)
        rw [List.append_nil] at bound
        exact project_fields bound present []
    rw [projected]
    simp only [List.map_map, Function.comp_def]
  unfold Mapping.query
  rw [execute_bind, execute_ofExcept, selectOf_plain compiled]
  dsimp only
  have rows := execute_selectAll run
  rw [execute_bind]
  rcases outcome : execute (selectAll (plainSelect type clause)) connection with ⟨result, after⟩
  rw [outcome] at rows
  cases rows
  dsimp only
  rw [execute_ofExcept, List.mapM_map]
  rfl

def countSelect (type : EntityType) (clause : Clause) : Select :=
  { columns := [.count], table := tableName type, filters := [clause] }

theorem count_kept (compiled : filterClause schema type predicate = .ok clause)
    {connection : Connection} (found : connection.database.table? (tableName type) = some table)
    {meets : Row → Truth} (evaluated : ∀ row ∈ table.rows,
      clause.eval connection.database (table.scope (tableName type) row) = .ok (meets row)) :
    (execute (Mapping.count schema type predicate) connection).1 =
      .ok (table.rows.filter fun row => meets row = .yes).length := by
  have run := run_count rfl (matching_alone (countSelect type clause) found rfl rfl rfl _ evaluated)
  rw [List.length_map] at run
  unfold Mapping.count statement
  rw [execute_bind, execute_ofExcept, compiled]
  dsimp only
  rw [execute_bind, execute_mapError]
  unfold countSelect at run
  rw [execute_select, run]
  rfl

/-- Compiling a predicate keeps its meaning: on every row of its type's table the clause is as true as the
predicate, whatever is joined to the row, and queries and counts select exactly the rows that the predicate
holds of. -/
theorem compiled_predicate_keeps_meaning (stores : Stores schema database)
    (distinct : schema.ColumnsDistinct) (known : type ∈ schema.types)
    (named : ∀ number : Nat,
      tableName type ≠ s!"sub_{number}" ∧ tableName type ≠ s!"link_{number}")
    (resolved : predicate.Resolved schema type) :
    ∃ clause, filterClause schema type predicate = .ok clause ∧
      (∀ table, database.table? (tableName type) = some table → ∀ row ∈ table.rows,
        ∀ joined : Scope, clause.eval database (table.scope (tableName type) row ++ joined) =
          .ok (truth schema database type (table.record row) predicate)) ∧
      ∀ connection : Connection, connection.database = database →
        (∃ resources,
          (selected schema database type predicate).mapM (readRecord type) = .ok resources ∧
          (execute (Mapping.query schema type { predicate }) connection).1 = .ok resources) ∧
        (execute (Mapping.count schema type predicate) connection).1 =
          .ok (selected schema database type predicate).length := by
  obtain ⟨table, found, laid, typed⟩ := stores.entities type known
  have present : ∀ field ∈ type.fields, table.Has (columnName field.name) := fun field member =>
    ⟨_, field_column laid (distinct type known) member, rfl⟩
  obtain ⟨clause, after, compiled, _, settled⟩ :=
    compiles stores distinct resolved known fun number (_ : 1 ≤ number) => named number
  have filter : filterClause schema type predicate = .ok clause := by
    unfold filterClause
    rw [compiled]
    rfl
  have evaluated : ∀ table, database.table? (tableName type) = some table → ∀ row ∈ table.rows,
      ∀ joined : Scope, clause.eval database (table.scope (tableName type) row ++ joined) =
        .ok (truth schema database type (table.record row) predicate) := by
    intro table' found' row member joined
    cases found.symm.trans found'
    exact (settled table found row member _
      (scope_binds table _ row joined (Row.fits_length (typed row member)))).eval
  have alone : ∀ row ∈ table.rows, clause.eval database (table.scope (tableName type) row) =
      .ok (truth schema database type (table.record row) predicate) := by
    intro row member
    have plain := evaluated table found row member []
    rwa [List.append_nil] at plain
  refine ⟨clause, filter, evaluated, fun connection same => ?_⟩
  subst same
  have kept : selected schema connection.database type predicate = _ := selected_eq found
  have readable : ∀ record ∈ selected schema connection.database type predicate,
      ∃ resource, readRecord type record = .ok resource := by
    intro record member
    rw [selected_eq found] at member
    obtain ⟨row, kept, rfl⟩ := List.mem_map.mp member
    exact stores.readable distinct known found (List.mem_filter.mp kept).1
  obtain ⟨resources, read⟩ := mapM_succeeds readable
  have queried := query_kept present (wide_of_typed typed) filter found alone
  have counted := count_kept filter found alone
  rw [← kept] at queried
  refine ⟨⟨resources, read, queried.trans read⟩, counted.trans ?_⟩
  rw [kept, List.length_map]

end

/-! Books with their authors and sequels. -/

namespace Shelf

def author : EntityType :=
  ⟨"author", some "author", ⟨"id", .integer, false⟩, [⟨"name", .string, false⟩],
    [⟨"books", .toMany, "book", true, .targetKey "author_id"⟩], []⟩

def book : EntityType :=
  ⟨"book", some "book", ⟨"id", .integer, false⟩, [⟨"title", .string, false⟩],
    [⟨"author", .toOne, "author", true, .ownerKey "author_id"⟩,
      ⟨"sequels", .toMany, "book", true, .joinTable "sequel" "book_id" "sequel_id"⟩], []⟩

def schema : Schema := ⟨[author, book]⟩

def tables : Database :=
  ⟨[⟨"author", [⟨"id", .serial⟩, ⟨"name", .text⟩], [[0]], [[.integer 1, .text "Ann"]], 2⟩,
    ⟨"book", [⟨"id", .serial⟩, ⟨"title", .text⟩, ⟨"author_id", .integer⟩], [[0]],
      [[.integer 1, .text "Dawn", .integer 1], [.integer 2, .text "Dusk", .null],
        [.integer 3, .null, .integer 1]], 4⟩,
    ⟨"sequel", [⟨"book_id", .integer⟩, ⟨"sequel_id", .integer⟩], [[0, 1]],
      [[.integer 2, .integer 1]], 1⟩]⟩

def wanted : Predicate :=
  .any [.not (.any [.compare "title" .eq (.value (.string "Dawn")),
      .compare "title" .eq (.value (.string "Dusk"))]),
    .related "sequels" (.related "author" (.like "name" "A%" false))]

theorem stored : Stores schema tables := by
  constructor
  · intro type known
    simp only [schema, List.mem_cons, List.not_mem_nil, or_false] at known
    rcases known with rfl | rfl
    · exact ⟨_, rfl, by decide +kernel, by decide⟩
    · exact ⟨_, rfl, by decide +kernel, by decide⟩
  · intro type known relationship own pairs ownerColumn targetColumn storage
    have all : ∀ type ∈ schema.types, ∀ relationship ∈ type.relationships,
        relationship.storage = .ownerKey "author_id" ∨ relationship.storage = .targetKey "author_id" ∨
          relationship.storage = .joinTable "sequel" "book_id" "sequel_id" := by decide
    rcases all type known relationship own with other | other | other
    · cases storage.symm.trans other
    · cases storage.symm.trans other
    · cases storage.symm.trans other
      exact ⟨_, rfl, ⟨_, List.mem_cons_self, rfl⟩,
        ⟨_, List.mem_cons_of_mem _ List.mem_cons_self, rfl⟩, by decide⟩

theorem resolved : wanted.Resolved schema book := by
  refine .any fun predicate member => ?_
  simp only [List.mem_cons, List.not_mem_nil, or_false] at member
  rcases member with rfl | rfl
  · refine .not (.any fun predicate member => ?_)
    simp only [List.mem_cons, List.not_mem_nil, or_false] at member
    rcases member with rfl | rfl
    · exact .compareValue .eq rfl ⟨rfl, nofun⟩
    · exact .compareValue .eq rfl ⟨rfl, nofun⟩
  · exact .related rfl (.related rfl (.like _ _ rfl rfl))

end Shelf

theorem sequel_selected :
    Stores Shelf.schema Shelf.tables ∧ Shelf.schema.ColumnsDistinct ∧
      Shelf.wanted.Resolved Shelf.schema Shelf.book ∧
      (execute (Mapping.count Shelf.schema Shelf.book Shelf.wanted) ⟨Shelf.tables, none, []⟩).1 =
        .ok 1 := by
  have distinct : Shelf.schema.ColumnsDistinct := by
    intro type known
    simp only [Shelf.schema, List.mem_cons, List.not_mem_nil, or_false] at known
    rcases known with rfl | rfl <;> decide +kernel
  have named (number : Nat) : tableName Shelf.book ≠ s!"sub_{number}" ∧
      tableName Shelf.book ≠ s!"link_{number}" := by
    constructor
    · intro same
      have first : "book".toList.head? = ("sub_" ++ toString number).toList.head? :=
        congrArg (fun text => text.toList.head?) same
      simp at first
    · intro same
      have first : "book".toList.head? = ("link_" ++ toString number).toList.head? :=
        congrArg (fun text => text.toList.head?) same
      simp at first
  obtain ⟨_, _, _, answers⟩ := compiled_predicate_keeps_meaning Shelf.stored distinct
    (List.mem_cons_of_mem _ List.mem_cons_self) named Shelf.resolved
  have one : (selected Shelf.schema Shelf.tables Shelf.book Shelf.wanted).length = 1 := by
    decide +kernel
  refine ⟨Shelf.stored, distinct, Shelf.resolved, ?_⟩
  rw [(answers ⟨Shelf.tables, none, []⟩ rfl).2, one]

end ResourceServer
