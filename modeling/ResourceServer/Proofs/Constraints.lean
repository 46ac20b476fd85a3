import ResourceServer.Proofs.Layout

/-! The uniqueness constraints of tables as conditions on their records, and statements that succeed because
they keep to them. -/

namespace ResourceServer

open ResourceServer.Store ResourceServer.Mapping

namespace Store

def Record.key? (columns : List String) (record : Record) : Option (List Cell) :=
  let values := columns.map record
  if values.any Cell.isNull then none else some values

def KeyUnique (columns : List String) (records : List Record) : Prop :=
  (records.filterMap (Record.key? columns)).Nodup

def Table.Unique (table : Table) (keys : List (List String)) : Prop :=
  List.Forall₂ (fun columns positions => columns.mapM table.position = .ok positions) keys
    table.uniqueKeys

def Table.form (table : Table) : List ColumnDefinition × List (List Nat) :=
  (table.columns, table.uniqueKeys)

def Database.form? (database : Database) (name : String) :
    Option (List ColumnDefinition × List (List Nat)) :=
  (database.table? name).map Table.form

theorem Database.columns?_eq (database : Database) (name : String) :
    database.columns? name = (database.form? name).map Prod.fst := by
  unfold Database.columns? Database.form?
  rw [Option.map_map]
  rfl

theorem form?_same {before after : Database}
    (same : before.tables.map (fun table => (table.name, table.form)) =
      after.tables.map fun table => (table.name, table.form)) : before.form? = after.form? := by
  have read (database : Database) (name : String) : database.form? name =
      ((database.tables.map fun table => (table.name, table.form)).find? fun entry =>
        entry.1 = name).map Prod.snd := by
    rw [List.find?_map, Option.map_map]
    rfl
  funext name
  rw [read, read, same]

def Database.Obeyed (database : Database) : Prop :=
  ∀ name table, database.table? name = some table → table.checkUnique table.rows = .ok ()

theorem Record.key?_set {columns : List String} {column : String} (record : Record) (cell : Cell)
    (apart : column ∉ columns) : (record.set column cell).key? columns = record.key? columns := by
  have same : columns.map (record.set column cell) = columns.map record := by
    refine List.map_congr_left fun other member => Record.set_other cell ?_
    rintro rfl
    exact apart member
  unfold Record.key?
  rw [same]

theorem hasRepeats_iff {keys : List (List Cell)} : Table.hasRepeats keys = false ↔ keys.Nodup := by
  induction keys with
  | nil => simp [Table.hasRepeats]
  | cons key rest ih => simp [Table.hasRepeats, ih]

theorem checkUnique_iff {table : Table} {rows : List Row} :
    table.checkUnique rows = .ok () ↔
      ∀ key ∈ table.uniqueKeys, (rows.filterMap (Table.keyOf? key)).Nodup := by
  unfold Table.checkUnique
  split
  · rename_i absent
    refine iff_of_true rfl fun key member => ?_
    have fine := List.find?_eq_none.mp absent key member
    exact hasRepeats_iff.mp (by simpa using fine)
  · rename_i key found
    refine iff_of_false nofun fun unique => ?_
    have repeats : Table.hasRepeats (rows.filterMap (Table.keyOf? key)) = true := by
      simpa using List.find?_some found
    rw [hasRepeats_iff.mpr (unique key (List.mem_of_find?_eq_some found))] at repeats
    cases repeats

theorem keyOf_record {table : Table} {columns : List String} {positions : List Nat}
    (placed : columns.mapM table.position = .ok positions) (row : Row) :
    Table.keyOf? positions row = (table.record row).key? columns := by
  have values : positions.map (fun position => row.getD position .null) =
      columns.map (table.record row) := by
    have each := mapM_forall₂ placed
    clear placed
    induction each with
    | nil => rfl
    | cons one _ ih => rw [List.map_cons, List.map_cons, ih, record_position one row]
  unfold Table.keyOf? Record.key?
  rw [values]

/-- The constraints hold of some rows if they hold of their records. -/
theorem checkUnique_records {table : Table} {keys : List (List String)} (unique : table.Unique keys)
    {rows : List Row} :
    table.checkUnique rows = .ok () ↔ ∀ columns ∈ keys, KeyUnique columns (rows.map table.record) := by
  have same {columns : List String} {positions : List Nat}
      (placed : columns.mapM table.position = .ok positions) :
      (rows.map table.record).filterMap (Record.key? columns) =
        rows.filterMap (Table.keyOf? positions) := by
    rw [List.filterMap_map]
    exact List.filterMap_congr fun row _ => (keyOf_record placed row).symm
  rw [checkUnique_iff]
  constructor
  · intro holds columns member
    obtain ⟨positions, inside, placed⟩ := mem_of_forall₂ unique member
    unfold KeyUnique
    rw [same placed]
    exact holds positions inside
  · intro holds positions member
    obtain ⟨columns, inside, placed⟩ := mem_of_forall₂ unique.flip member
    rw [← same placed]
    exact holds columns inside

theorem position_of_has {table : Table} {column : String} (has : table.Has column) :
    ∃ position, table.position column = .ok position := by
  obtain ⟨definition, member, named⟩ := has
  have found : (table.columns.findIdx? fun definition => definition.name = column).isSome := by
    rw [List.findIdx?_isSome, List.any_eq_true]
    exact ⟨definition, member, by simpa using named⟩
  obtain ⟨position, found⟩ := Option.isSome_iff_exists.mp found
  refine ⟨position, ?_⟩
  unfold Table.position
  rw [found]

section

variable {database after : Database} {name : String} {table : Table}

theorem form?_replace (found : database.table? name = some table) (rows : List Row) (next : Int) :
    (database.replace { table with rows := rows, nextSerial := next }).form? = database.form? := by
  have named := Database.table?_name found
  have lookup := table?_replace { table with rows := rows, nextSerial := next } found named
  funext wanted
  unfold Database.form?
  rw [lookup]
  split
  · rename_i same
    rw [same, found]
    rfl
  · rfl

theorem obeyed_replace (obeyed : database.Obeyed) (found : database.table? name = some table)
    {rows : List Row} (next : Int) (unique : table.checkUnique rows = .ok ()) :
    (database.replace { table with rows := rows, nextSerial := next }).Obeyed := by
  have named := Database.table?_name found
  have lookup := table?_replace { table with rows := rows, nextSerial := next } found named
  intro wanted other here
  rw [lookup] at here
  split at here
  · cases here
    exact unique
  · exact obeyed wanted other here

/-- A change of the rows of tables that keeps to their constraints. -/
structure Refills (before after : Database) : Prop where
  form? : after.form? = before.form?
  obeyed : before.Obeyed → after.Obeyed

theorem Refills.refl (database : Database) : Refills database database :=
  ⟨rfl, id⟩

theorem refills_replace (found : database.table? name = some table) {rows : List Row} (next : Int)
    (unique : database.Obeyed → table.checkUnique rows = .ok ()) :
    Refills database (database.replace { table with rows := rows, nextSerial := next }) :=
  ⟨form?_replace found rows next, fun obeyed => obeyed_replace obeyed found next (unique obeyed)⟩

theorem update_refills {statement : Update} {count : Nat}
    (run : statement.run database = .ok (count, after)) : Refills database after := by
  obtain ⟨table, here, run⟩ := bind_ok run
  obtain ⟨marks, _, run⟩ := bind_ok run
  obtain ⟨positions, _, run⟩ := bind_ok run
  obtain ⟨⟨⟩, unique, run⟩ := bind_ok run
  cases run
  exact refills_replace (table_found here) table.nextSerial fun _ => unique

theorem zip_sublist {α β : Type} (marks : List α) (items : List β) :
    ((marks.zip items).map (·.2)).Sublist items := by
  induction marks generalizing items with
  | nil => exact List.nil_sublist items
  | cons mark rest ih =>
      cases items with
      | nil => exact .slnil
      | cons item others => exact (ih others).cons_cons item

theorem delete_refills {statement : Delete} {count : Nat}
    (run : statement.run database = .ok (count, after)) : Refills database after := by
  obtain ⟨table, here, run⟩ := bind_ok run
  obtain ⟨marks, _, run⟩ := bind_ok run
  cases run
  have found := table_found here
  refine refills_replace found table.nextSerial fun obeyed => checkUnique_iff.mpr fun key member => ?_
  have before := checkUnique_iff.mp (obeyed _ table found) key member
  have fewer : (((marks.zip table.rows).filter fun entry => !entry.1).map (·.2)).Sublist table.rows :=
    (List.filter_sublist.map _).trans (zip_sublist marks table.rows)
  exact before.sublist (fewer.filterMap _)

theorem insert_refills {statement : Insert} {returned : List Cell}
    (run : statement.run database = .ok (returned, after)) : Refills database after := by
  obtain ⟨table, here, run⟩ := bind_ok run
  obtain ⟨⟨values, changed⟩, inserted, run⟩ := bind_ok run
  cases run
  obtain ⟨positions, _, inserted⟩ := bind_ok inserted
  obtain ⟨position, _, inserted⟩ := bind_ok inserted
  obtain ⟨⟨added, next⟩, _, inserted⟩ := bind_ok inserted
  obtain ⟨⟨⟩, unique, inserted⟩ := bind_ok inserted
  cases inserted
  exact refills_replace (table_found here) next fun _ => unique

def Decides (database : Database) (filters : List Clause) (name : String) (meets : Record → Bool) :
    Prop :=
  ∀ table, database.table? name = some table → ∀ row ∈ table.rows,
    database.meets filters table row = .ok (meets (table.record row))

theorem Decides.tests {filters : List Clause} {meets : Record → Bool}
    (decides : Decides database filters name meets) : Tests database filters name meets := by
  intro table found row member mark run
  exact Except.ok.inj (run.symm.trans (decides table found row member))

theorem decides_of_tests {filter : Clause} {meets : Record → Bool}
    (tests : Tests database [filter] name meets)
    (evaluates : ∀ table, database.table? name = some table → ∀ row ∈ table.rows,
      ∃ truth, filter.eval database (table.scope table.name row) = .ok truth) :
    Decides database [filter] name meets := by
  intro table found row member
  obtain ⟨truth, evaluated⟩ := evaluates table found row member
  have marked := meets_single evaluated
  rw [marked, tests table found row member _ marked]

theorem update_succeeds {statement : Update} {meets : Record → Bool} {keys : List (List String)}
    (wide : database.Wide) (found : database.table? statement.table = some table)
    (has : ∀ assignment ∈ statement.assignments, table.Has assignment.1)
    (decides : Decides database statement.filters statement.table meets) (unique : table.Unique keys)
    (kept : ∀ columns ∈ keys, KeyUnique columns (table.records.map fun record =>
      if meets record then record.assign statement.assignments else record)) :
    ∃ count after, statement.run database = .ok (count, after) := by
  have marks : table.rows.mapM (database.meets statement.filters table) =
      .ok (table.rows.map fun row => meets (table.record row)) :=
    mapM_ok _ fun row member => decides table found row member
  have placed : ∃ positions, (statement.assignments.mapM fun entry => do
      return (← table.position entry.1, entry.2) : Except StoreError _) = .ok positions := by
    refine mapM_succeeds fun assignment member => ?_
    obtain ⟨position, placed⟩ := position_of_has (has assignment member)
    exact ⟨_, bind_of_ok placed rfl⟩
  obtain ⟨positions, placed⟩ := placed
  have fine : table.checkUnique (table.rows.map fun row =>
      if meets (table.record row) then Update.assign positions row else row) = .ok () := by
    rw [checkUnique_records unique, assigned_records placed fun row => wide _ table found row]
    exact kept
  rw [← assigned_rows] at fine
  exact ⟨_, _, bind_of_ok (table_ok found) (bind_of_ok marks (bind_of_ok placed
    (bind_of_ok fine rfl)))⟩

theorem delete_succeeds {filters : List Clause} {meets : Record → Bool}
    (found : database.table? name = some table) (decides : Decides database filters name meets) :
    ∃ count after, Delete.run database ⟨name, filters⟩ = .ok (count, after) := by
  have marks : table.rows.mapM (database.meets filters table) =
      .ok (table.rows.map fun row => meets (table.record row)) :=
    mapM_ok _ fun row member => decides table found row member
  exact ⟨_, _, bind_of_ok (table_ok found) (bind_of_ok marks rfl)⟩

theorem completeRows_succeeds {positions : List Nat} {rows : List (List Cell)}
    (fit : ∀ values ∈ rows, values.length = positions.length) (next : Int) :
    ∃ added last, table.completeRows positions rows next = .ok (added, last) := by
  induction rows generalizing next with
  | nil => exact ⟨[], next, rfl⟩
  | cons values rest ih =>
      have others := ih fun other member => fit other (List.mem_cons_of_mem _ member)
      unfold Table.completeRows
      rw [if_neg (not_not.mpr (fit values List.mem_cons_self))]
      obtain ⟨added, last, run⟩ := others
        (Table.fillSerials table.columns (Table.placeValues table.columns.length positions values) next).2
      dsimp only
      rw [run]
      exact ⟨_, _, rfl⟩

/-- An insertion into a table without serial columns succeeds if the records keep to the constraints. -/
theorem insert_succeeds {columns : List String} {rows : List (List Cell)} {keys : List (List String)}
    (found : database.table? name = some table) (has : ∀ column ∈ columns, table.Has column)
    (fit : ∀ values ∈ rows, values.length = columns.length)
    (plain : ∀ definition ∈ table.columns, definition.type ≠ .serial) (unique : table.Unique keys)
    (kept : ∀ key ∈ keys, KeyUnique key (table.records ++ rows.map fun values =>
      Record.blank.assign (columns.zip values))) :
    ∃ returned after, Insert.run database ⟨name, columns, rows, none⟩ = .ok (returned, after) := by
  have placed : ∃ positions, columns.mapM table.position = .ok positions :=
    mapM_succeeds fun column member => position_of_has (has column member)
  obtain ⟨positions, placed⟩ := placed
  have length : positions.length = columns.length := (mapM_forall₂ placed).length_eq.symm
  have completed : ∃ added next,
      table.completeRows positions rows table.nextSerial = .ok (added, next) :=
    completeRows_succeeds (fun values member => (fit values member).trans length.symm) _
  obtain ⟨added, next, completed⟩ := completed
  have records : added.map table.record = rows.map fun values =>
      Record.blank.assign (columns.zip values) := by
    have each := (completeRows_records placed completed).2
    rw [← List.forall₂_eq_eq_eq, List.forall₂_map_right_iff]
    exact (each.imp fun _ _ numbered => numbered_plain plain numbered).flip
  have fine : table.checkUnique (table.rows ++ added) = .ok () := by
    rw [checkUnique_records unique, List.map_append, records]
    exact kept
  have inserted : table.insert columns rows none =
      .ok ([], { table with rows := table.rows ++ added, nextSerial := next }) :=
    bind_of_ok placed (bind_of_ok rfl (bind_of_ok completed (bind_of_ok fine rfl)))
  exact ⟨_, _, bind_of_ok (table_ok found) (bind_of_ok inserted rfl)⟩

end

end Store

end ResourceServer
