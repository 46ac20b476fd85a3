import Mathlib.Logic.Function.Basic
import ResourceServer.Proofs.Joins
import ResourceServer.Store.Connection

/-! What statements do to the records of tables. -/

namespace ResourceServer.Store

def Record.set (record : Record) (column : String) (cell : Cell) : Record :=
  fun other => if other = column then cell else record other

def Record.assign (record : Record) (assignments : List (String × Cell)) : Record :=
  assignments.foldl (fun record assignment => record.set assignment.1 assignment.2) record

@[simp]
theorem Record.set_same (record : Record) (column : String) (cell : Cell) :
    record.set column cell column = cell :=
  if_pos rfl

theorem Record.set_other {record : Record} {column other : String} (cell : Cell)
    (apart : other ≠ column) : record.set column cell other = record other :=
  if_neg apart

/-- What holds of the value before and of all values assigned to a column holds of the value after. -/
theorem Record.assign_cases {assignments : List (String × Cell)} {column : String} {record : Record}
    (holds : Cell → Prop) (start : holds (record column))
    (each : ∀ assignment ∈ assignments, assignment.1 = column → holds assignment.2) :
    holds (record.assign assignments column) := by
  unfold Record.assign
  induction assignments generalizing record with
  | nil => exact start
  | cons assignment rest ih =>
      refine ih ?_ fun other member => each other (List.mem_cons_of_mem _ member)
      dsimp only
      by_cases same : assignment.1 = column
      · rw [← same, set_same]
        exact each assignment List.mem_cons_self same
      · rw [set_other _ (Ne.symm same)]
        exact start

theorem Record.assign_other {assignments : List (String × Cell)} {column : String} (record : Record)
    (apart : ∀ assignment ∈ assignments, assignment.1 ≠ column) :
    record.assign assignments column = record column :=
  assign_cases (· = record column) rfl fun assignment member same =>
    absurd same (apart assignment member)

def Database.Wide (database : Database) : Prop :=
  ∀ name table, database.table? name = some table → table.Wide

def Database.columns? (database : Database) (name : String) : Option (List ColumnDefinition) :=
  (database.table? name).map Table.columns

theorem table_found {database : Database} {name : String} {table : Table}
    (found : database.table name = .ok table) : database.table? name = some table := by
  unfold Database.table at found
  split at found
  · rename_i other here
    cases found
    exact here
  · cases found

theorem table?_replace {database : Database} {name : String} (table : Table) {other : Table}
    (found : database.table? name = some other) (named : table.name = name) (wanted : String) :
    (database.replace table).table? wanted =
      if wanted = name then some table else database.table? wanted := by
  have search : ∀ tables : List Table,
      (tables.map fun other => if other.name = table.name then table else other).find?
          (fun entry => entry.name = wanted) =
        if wanted = name then (tables.find? fun entry => entry.name = name).map fun _ => table
        else tables.find? fun entry => entry.name = wanted := by
    intro tables
    subst named
    induction tables with
    | nil => by_cases same : wanted = table.name <;> simp [same]
    | cons first rest ih =>
        by_cases same : wanted = table.name
        · subst same
          by_cases here : first.name = table.name
          · simp [here]
          · simp only [List.map_cons, if_neg here, if_true] at ih ⊢
            rw [List.find?_cons_of_neg (by simpa using here), List.find?_cons_of_neg (by simpa using here)]
            exact ih
        · simp only [if_neg same] at ih ⊢
          by_cases here : first.name = table.name
          · have apart : table.name ≠ wanted := Ne.symm same
            rw [List.map_cons, if_pos here, List.find?_cons_of_neg (by simpa using apart),
              List.find?_cons_of_neg (by simpa [here] using apart)]
            exact ih
          · rw [List.map_cons, if_neg here, List.find?_cons, List.find?_cons, ih]
  have all := search database.tables
  unfold Database.table? at found ⊢
  unfold Database.replace
  rw [all, found]
  rfl

/-- One database is another with other records in one table. -/
structure Rewrites (before after : Database) (name : String) (records : List Record) : Prop where
  wide : before.Wide → after.Wide
  columns : after.columns? = before.columns?
  records : after.records = Function.update before.records name records

theorem rewrites_replace {database : Database} {name : String} {table : Table} (rows : List Row)
    (next : Int) (found : database.table? name = some table)
    (wide : table.Wide → ∀ row ∈ rows, row.length = table.columns.length) :
    Rewrites database (database.replace { table with rows := rows, nextSerial := next }) name
      (rows.map table.record) := by
  have named := Database.table?_name found
  have lookup := table?_replace { table with rows := rows, nextSerial := next } found named
  constructor
  · intro all wanted other here
    rw [lookup] at here
    split at here
    · cases here
      exact wide (all name table found)
    · exact all wanted other here
  · funext wanted
    unfold Database.columns?
    rw [lookup]
    split
    · rename_i same
      rw [same, found]
      rfl
    · rfl
  · funext wanted
    unfold Database.records Function.update
    rw [lookup]
    by_cases same : wanted = name
    · subst same
      rw [if_pos rfl, dif_pos rfl]
      rfl
    · rw [if_neg same, dif_neg same]

theorem recordOf_set {columns : List ColumnDefinition} {row : Row} {column : String} {position : Nat}
    (cell : Cell)
    (found : (columns.findIdx? fun definition => definition.name = column) = some position)
    (wide : row.length = columns.length) :
    recordOf columns (row.set position cell) = (recordOf columns row).set column cell := by
  induction columns generalizing row position with
  | nil => cases found
  | cons first others ih =>
      cases row with
      | nil => cases wide
      | cons old cells =>
          funext wanted
          rw [List.findIdx?_cons] at found
          by_cases named : first.name = column
          · simp only [named, decide_true, if_true, Option.some.injEq] at found
            subst found
            by_cases same : wanted = column
            · subst same
              rw [List.set_cons_zero, recordOf_first named, Record.set, if_pos rfl]
            · have apart : first.name ≠ wanted := named ▸ Ne.symm same
              rw [List.set_cons_zero, recordOf_rest apart, Record.set, if_neg same,
                recordOf_rest apart]
          · simp only [named, decide_false, Bool.false_eq_true, if_false, Option.map_eq_some_iff]
              at found
            obtain ⟨place, later, rfl⟩ := found
            have rest := congrFun (ih later (by simpa using wide)) wanted
            by_cases same : first.name = wanted
            · have apart : wanted ≠ column := same ▸ named
              rw [List.set_cons_succ, recordOf_first same, Record.set, if_neg apart,
                recordOf_first same]
            · rw [List.set_cons_succ, recordOf_rest same, rest, Record.set, Record.set,
                recordOf_rest same]

theorem record_set {table : Table} {row : Row} {column : String} {position : Nat} (cell : Cell)
    (found : table.position column = .ok position) (wide : row.length = table.columns.length) :
    table.record (row.set position cell) = (table.record row).set column cell := by
  unfold Table.position at found
  split at found
  · rename_i place here
    cases found
    exact recordOf_set cell here wide
  · cases found

theorem record_assign {table : Table} {assignments : List (String × Cell)}
    {positions : List (Nat × Cell)}
    (found : (assignments.mapM fun entry => do
      return (← table.position entry.1, entry.2) : Except StoreError _) = .ok positions)
    {row : Row} (wide : row.length = table.columns.length) :
    table.record (Update.assign positions row) = (table.record row).assign assignments ∧
      (Update.assign positions row).length = table.columns.length := by
  induction assignments generalizing positions row with
  | nil =>
      cases found
      exact ⟨rfl, wide⟩
  | cons assignment rest ih =>
      obtain ⟨entry, others, one, later, rfl⟩ := mapM_cons_ok found
      obtain ⟨position, placed, same⟩ := bind_ok one
      cases same
      have width : (row.set position assignment.2).length = table.columns.length :=
        List.length_set.trans wide
      have step := ih later width
      rw [record_set assignment.2 placed wide] at step
      exact step

theorem meets_single {database : Database} {table : Table} {row : Row} {filter : Clause}
    {truth : Truth} (evaluated : filter.eval database (table.scope table.name row) = .ok truth) :
    database.meets [filter] table row = .ok (truth = .yes) := by
  unfold Database.meets Clause.meetsAll
  rw [evaluated]
  cases truth <;> rfl

theorem row_binds {table : Table} {row : Row} (wide : row.length = table.columns.length) :
    Scope.Binds (table.scope table.name row) table.name table (table.record row) := by
  have bound := scope_binds table table.name row [] wide
  rwa [List.append_nil] at bound

section

variable {database after : Database}

def Tests (database : Database) (filters : List Clause) (name : String) (meets : Record → Bool) :
    Prop :=
  ∀ table, database.table? name = some table → ∀ row ∈ table.rows, ∀ mark,
    database.meets filters table row = .ok mark → mark = meets (table.record row)

theorem marks_eq {table : Table} {filters : List Clause} {meets : Record → Bool} {rows : List Row}
    {marks : List Bool}
    (tested : ∀ row ∈ rows, ∀ mark, database.meets filters table row = .ok mark →
      mark = meets (table.record row))
    (run : rows.mapM (database.meets filters table) = .ok marks) :
    marks = rows.map fun row => meets (table.record row) := by
  induction rows generalizing marks with
  | nil =>
      cases run
      rfl
  | cons row rest ih =>
      obtain ⟨mark, others, one, later, rfl⟩ := mapM_cons_ok run
      rw [List.map_cons, ← tested row List.mem_cons_self mark one,
        ih (fun other member => tested other (List.mem_cons_of_mem _ member)) later]

theorem marks_count (table : Table) (meets : Record → Bool) :
    (table.rows.map fun row => meets (table.record row)).count true =
      table.records.countP meets := by
  rw [Table.records, List.countP_map, List.count, List.countP_map]
  refine List.countP_congr fun row _ => ?_
  simp

theorem marked_rows (rows : List Row) (test : Row → Bool) :
    (rows.map test).zip rows = rows.map fun row => (test row, row) := by
  induction rows with
  | nil => rfl
  | cons row rest ih => rw [List.map_cons, List.zip_cons_cons, ih, List.map_cons]

theorem kept_rows (table : Table) (meets : Record → Bool) :
    (((table.rows.map fun row => meets (table.record row)).zip table.rows).filter
        fun entry => !entry.1).map (·.2) =
      table.rows.filter fun row => !meets (table.record row) := by
  rw [marked_rows, List.filter_map, List.map_map]
  exact (List.map_congr_left fun _ _ => rfl).trans (List.map_id _)

theorem assigned_rows (table : Table) (meets : Record → Bool) (positions : List (Nat × Cell)) :
    ((table.rows.map fun row => meets (table.record row)).zip table.rows).map
        (fun (mark, row) => if mark then Update.assign positions row else row) =
      table.rows.map fun row =>
        if meets (table.record row) then Update.assign positions row else row := by
  rw [marked_rows, List.map_map]
  rfl

theorem assigned_records {table : Table} {assignments : List (String × Cell)}
    {positions : List (Nat × Cell)}
    (placed : (assignments.mapM fun entry => do
      return (← table.position entry.1, entry.2) : Except StoreError _) = .ok positions)
    (wide : ∀ row ∈ table.rows, row.length = table.columns.length) (meets : Record → Bool) :
    (table.rows.map fun row =>
        if meets (table.record row) then Update.assign positions row else row).map table.record =
      table.records.map fun record =>
        if meets record then record.assign assignments else record := by
  rw [Table.records, List.map_map, List.map_map]
  refine List.map_congr_left fun row member => ?_
  rw [Function.comp_apply, Function.comp_apply]
  split
  · exact (record_assign placed (wide row member)).1
  · rfl

/-- An update changes the records that meet its filters. -/
theorem update_run {statement : Update} {count : Nat} {meets : Record → Bool} (wide : database.Wide)
    (tested : Tests database statement.filters statement.table meets)
    (run : statement.run database = .ok (count, after)) :
    Rewrites database after statement.table
        ((database.records statement.table).map fun record =>
          if meets record then record.assign statement.assignments else record) ∧
      count = (database.records statement.table).countP meets := by
  obtain ⟨table, here, run⟩ := bind_ok run
  obtain ⟨marks, marked, run⟩ := bind_ok run
  obtain ⟨positions, placed, run⟩ := bind_ok run
  obtain ⟨_, _, run⟩ := bind_ok run
  have found := table_found here
  have width := wide _ table found
  have marks_are := marks_eq (tested table found) marked
  have kept : ∀ row ∈ table.rows.map fun row =>
      if meets (table.record row) then Update.assign positions row else row,
      row.length = table.columns.length := by
    intro row member
    obtain ⟨old, inside, rfl⟩ := List.mem_map.mp member
    split
    · exact (record_assign placed (width old inside)).2
    · exact width old inside
  rw [marks_are, assigned_rows] at run
  cases run
  rw [records_of_table found]
  refine ⟨?_, marks_are ▸ marks_count table meets⟩
  have changed := rewrites_replace _ table.nextSerial found fun _ => kept
  rw [assigned_records placed width] at changed
  exact changed

theorem delete_run {statement : Delete} {count : Nat} {meets : Record → Bool} (wide : database.Wide)
    (tested : Tests database statement.filters statement.table meets)
    (run : statement.run database = .ok (count, after)) :
    Rewrites database after statement.table
        ((database.records statement.table).filter fun record => !meets record) ∧
      count = (database.records statement.table).countP meets := by
  obtain ⟨table, here, run⟩ := bind_ok run
  obtain ⟨marks, marked, run⟩ := bind_ok run
  have found := table_found here
  have width := wide _ table found
  have marks_are := marks_eq (tested table found) marked
  rw [marks_are, kept_rows] at run
  cases run
  rw [records_of_table found]
  refine ⟨?_, marks_are ▸ marks_count table meets⟩
  have changed := rewrites_replace (table.rows.filter fun row => !meets (table.record row))
    table.nextSerial found fun _ row member => width row (List.mem_filter.mp member).1
  have records : (table.rows.filter fun row => !meets (table.record row)).map table.record =
      table.records.filter fun record => !meets record := by
    rw [Table.records, List.filter_map]
    rfl
  rw [records] at changed
  exact changed

theorem table?_refilled {name : String} {table : Table} (found : database.table? name = some table) :
    (database.replace table).table? = database.table? := by
  funext wanted
  rw [table?_replace table found (Database.table?_name found)]
  split
  · rename_i same
    rw [same, found]
  · rfl

theorem update_idle {statement : Update} {count : Nat} {meets : Record → Bool}
    (tested : Tests database statement.filters statement.table meets)
    (none : ∀ record ∈ database.records statement.table, meets record = false)
    (run : statement.run database = .ok (count, after)) : after.table? = database.table? := by
  obtain ⟨table, here, run⟩ := bind_ok run
  obtain ⟨marks, marked, run⟩ := bind_ok run
  obtain ⟨positions, _, run⟩ := bind_ok run
  obtain ⟨_, _, run⟩ := bind_ok run
  have found := table_found here
  rw [records_of_table found] at none
  have rows : (table.rows.map fun row =>
      if meets (table.record row) then Update.assign positions row else row) = table.rows := by
    refine (List.map_congr_left fun row member => ?_).trans (List.map_id _)
    rw [none _ (List.mem_map_of_mem member)]
    rfl
  rw [marks_eq (tested table found) marked, assigned_rows, rows] at run
  cases run
  exact table?_refilled found

theorem delete_idle {statement : Delete} {count : Nat} {meets : Record → Bool}
    (tested : Tests database statement.filters statement.table meets)
    (none : ∀ record ∈ database.records statement.table, meets record = false)
    (run : statement.run database = .ok (count, after)) : after.table? = database.table? := by
  obtain ⟨table, here, run⟩ := bind_ok run
  obtain ⟨marks, marked, run⟩ := bind_ok run
  have found := table_found here
  rw [records_of_table found] at none
  have rows : (table.rows.filter fun row => !meets (table.record row)) = table.rows := by
    refine List.filter_eq_self.mpr fun row member => ?_
    rw [none _ (List.mem_map_of_mem member)]
    rfl
  rw [marks_eq (tested table found) marked, kept_rows, rows] at run
  cases run
  exact table?_refilled found

def Record.blank : Record :=
  fun _ => .null

theorem recordOf_nulls (columns : List ColumnDefinition) :
    recordOf columns (List.replicate columns.length .null) = Record.blank := by
  induction columns with
  | nil => rfl
  | cons definition rest ih =>
      funext column
      rw [List.length_cons, List.replicate_succ]
      by_cases named : definition.name = column
      · rw [recordOf_first named]
        rfl
      · rw [recordOf_rest named, ih]

theorem zip_positions {table : Table} {columns : List String} {positions : List Nat}
    (values : List Cell) (found : columns.mapM table.position = .ok positions) :
    ((columns.zip values).mapM fun entry => do
      return (← table.position entry.1, entry.2) : Except StoreError _) =
        .ok (positions.zip values) := by
  induction columns generalizing positions values with
  | nil =>
      cases found
      rfl
  | cons column rest ih =>
      obtain ⟨position, others, one, later, rfl⟩ := mapM_cons_ok found
      cases values with
      | nil => rfl
      | cons value values =>
          rw [List.zip_cons_cons, List.mapM_cons, one, ih _ later]
          rfl

def Numbered (columns : List ColumnDefinition) (given filled : Record) : Prop :=
  ∀ column, filled column = given column ∨
    given column = .null ∧ (∃ number, filled column = .integer number) ∧
      ∃ definition ∈ columns, definition.name = column ∧ definition.type = .serial

def numberCell (definition : ColumnDefinition) (value : Cell) (next : Int) : Cell × Int :=
  if definition.type = .serial then
    match value with
    | .null => (.integer next, next + 1)
    | .integer given => (.integer given, max next (given + 1))
    | value => (value, next)
  else (value, next)

theorem fillSerials_cons (definition : ColumnDefinition) (definitions : List ColumnDefinition)
    (value : Cell) (row : Row) (next : Int) :
    (Table.fillSerials (definition :: definitions) (value :: row) next).1 =
      (numberCell definition value next).1 ::
        (Table.fillSerials definitions row (numberCell definition value next).2).1 := by
  rfl

theorem numberCell_cases (definition : ColumnDefinition) (value : Cell) (next : Int) :
    (numberCell definition value next).1 = value ∨
      value = .null ∧ (∃ number, (numberCell definition value next).1 = .integer number) ∧
        definition.type = .serial := by
  unfold numberCell
  split
  · rename_i serial
    cases value with
    | null => exact .inr ⟨rfl, ⟨next, rfl⟩, serial⟩
    | _ => exact .inl rfl
  · exact .inl rfl

theorem fillSerials_numbered (columns : List ColumnDefinition) {row : Row} (next : Int)
    (wide : row.length = columns.length) :
    (Table.fillSerials columns row next).1.length = columns.length ∧
      Numbered columns (recordOf columns row)
        (recordOf columns (Table.fillSerials columns row next).1) := by
  induction columns generalizing row next with
  | nil =>
      cases row with
      | nil => exact ⟨rfl, fun _ => .inl rfl⟩
      | cons cell cells => cases wide
  | cons definition rest ih =>
      cases row with
      | nil => cases wide
      | cons value values =>
          obtain ⟨length, numbered⟩ := ih (numberCell definition value next).2 (by simpa using wide)
          rw [fillSerials_cons]
          refine ⟨by simp [length], fun column => ?_⟩
          by_cases named : definition.name = column
          · rw [recordOf_first named, recordOf_first named]
            rcases numberCell_cases definition value next with same | ⟨empty, number, serial⟩
            · exact .inl same
            · exact .inr ⟨empty, number, definition, List.mem_cons_self, named, serial⟩
          · rw [recordOf_rest named, recordOf_rest named]
            rcases numbered column with same | ⟨empty, number, other, member, facts⟩
            · exact .inl same
            · exact .inr ⟨empty, number, other, List.mem_cons_of_mem _ member, facts⟩

theorem completeRows_records {table : Table} {columns : List String} {positions : List Nat}
    (found : columns.mapM table.position = .ok positions) {rows : List (List Cell)} {added : List Row}
    {next last : Int} (run : table.completeRows positions rows next = .ok (added, last)) :
    (∀ row ∈ added, row.length = table.columns.length) ∧
      List.Forall₂ (fun values record =>
        Numbered table.columns (Record.blank.assign (columns.zip values)) record)
        rows (added.map table.record) := by
  induction rows generalizing added next with
  | nil =>
      cases run
      exact ⟨nofun, .nil⟩
  | cons values rest ih =>
      unfold Table.completeRows at run
      split at run
      · cases run
      · obtain ⟨⟨others, last'⟩, later, run⟩ := bind_ok run
        cases run
        obtain ⟨wide, records⟩ := ih later
        have placed := record_assign (zip_positions values found)
          (List.length_replicate (n := table.columns.length) (a := Cell.null))
        obtain ⟨length, numbered⟩ := fillSerials_numbered table.columns next placed.2
        refine ⟨fun row member => ?_, .cons ?_ records⟩
        · rcases List.mem_cons.mp member with rfl | inside
          · exact length
          · exact wide row inside
        · have blank : table.record (List.replicate table.columns.length .null) = Record.blank :=
            recordOf_nulls table.columns
          rw [blank] at placed
          have given := placed.1
          unfold Table.record at given
          rw [given] at numbered
          exact numbered

theorem record_position {table : Table} {column : String} {position : Nat}
    (found : table.position column = .ok position) (row : Row) :
    row.getD position .null = table.record row column := by
  have search : ∀ (columns : List ColumnDefinition) (row : Row) (position : Nat),
      (columns.findIdx? fun definition => definition.name = column) = some position →
        row.getD position .null = recordOf columns row column := by
    intro columns
    induction columns with
    | nil => nofun
    | cons first rest ih =>
        intro row position here
        rw [List.findIdx?_cons] at here
        cases row with
        | nil => rfl
        | cons cell cells =>
            by_cases named : first.name = column
            · simp only [named, decide_true, if_true, Option.some.injEq] at here
              subst here
              rw [recordOf_first named]
              rfl
            · simp only [named, decide_false, Bool.false_eq_true, if_false,
                Option.map_eq_some_iff] at here
              obtain ⟨place, later, rfl⟩ := here
              rw [recordOf_rest named, ← ih cells place later]
              rfl
  unfold Table.position at found
  split at found
  · rename_i place here
    cases found
    exact search table.columns row _ here
  · cases found

/-- An insertion adds a record for each list of values, with serial columns numbered. -/
theorem insert_run {statement : Insert} {returned : List Cell}
    (run : statement.run database = .ok (returned, after)) :
    ∃ columns added, database.columns? statement.table = some columns ∧
      Rewrites database after statement.table (database.records statement.table ++ added) ∧
      List.Forall₂ (fun values record =>
        Numbered columns (Record.blank.assign (statement.columns.zip values)) record)
        statement.rows added ∧
      ∀ column, statement.returning = some column → returned = added.map fun record => record column := by
  obtain ⟨table, here, run⟩ := bind_ok run
  obtain ⟨⟨values, changed⟩, inserted, run⟩ := bind_ok run
  cases run
  have found := table_found here
  obtain ⟨positions, placed, inserted⟩ := bind_ok inserted
  obtain ⟨position, returning, inserted⟩ := bind_ok inserted
  obtain ⟨⟨added, next⟩, completed, inserted⟩ := bind_ok inserted
  obtain ⟨_, _, inserted⟩ := bind_ok inserted
  cases inserted
  obtain ⟨wide, records⟩ := completeRows_records placed completed
  refine ⟨table.columns, added.map table.record, ?_, ?_, records, ?_⟩
  · unfold Database.columns?
    rw [found]
    rfl
  · have changed := rewrites_replace (table.rows ++ added) next found
      fun width row member => (List.mem_append.mp member).elim (width row) (wide row)
    rw [List.map_append] at changed
    rw [records_of_table found]
    exact changed
  · intro column wanted
    rw [wanted] at returning
    have mapped : (table.position column).map some = .ok position := returning
    obtain ⟨place, located, rfl⟩ := map_ok mapped
    rw [List.map_map]
    exact List.map_congr_left fun row _ => record_position located row

end

end ResourceServer.Store
