import ResourceServer.Proofs.Atomicity
import ResourceServer.Proofs.LinkSets

/-! The steps that changes of links are made of: they succeed, and they change nothing but the place where the
links are kept. -/

namespace ResourceServer

open ResourceServer.Store ResourceServer.Mapping

/-- Where links are kept: in one column of a table, or in a table of pairs. -/
inductive Place
  | column (table column : String)
  | pairs (table : String)
  deriving DecidableEq

def Storage.place (type target : EntityType) : Storage → Place
  | .ownerKey column => .column (tableName type) column
  | .targetKey column => .column (tableName target) column
  | .joinTable pairs _ _ => .pairs pairs

theorem pairs_place {type target : EntityType} {storage : Storage} {pairs : String}
    (place : storage.place type target = .pairs pairs) :
    ∃ ownerColumn targetColumn, storage = .joinTable pairs ownerColumn targetColumn := by
  cases storage with
  | joinTable pairs ownerColumn targetColumn =>
      cases place
      exact ⟨ownerColumn, targetColumn, rfl⟩
  | _ => cases place

def AlikeBut (place : Place) (name : String) (old new : Record) : Prop :=
  ∀ column, place ≠ .column name column → new column = old column

/-- Only the values in one place differ between two databases. -/
def Confined (place : Place) (before after : Database) : Prop :=
  ∀ name, place ≠ .pairs name →
    List.Forall₂ (AlikeBut place name) (before.records name) (after.records name)

/-- A database with the tables of a schema is refilled in one place. -/
structure Refilled (schema : Schema) (place : Place) (before after : Database) : Prop where
  housed : Housed schema after
  confined : Confined place before after

section

variable {schema : Schema} {before middle after : Database} {place : Place}

theorem forall₂_alike {name : String} {first second third : List Record}
    (one : List.Forall₂ (AlikeBut place name) first second)
    (other : List.Forall₂ (AlikeBut place name) second third) :
    List.Forall₂ (AlikeBut place name) first third :=
  forall₂_comp one other fun alike alike' column apart => (alike' column apart).trans (alike column apart)

theorem alike_refl {name : String} (records : List Record) :
    List.Forall₂ (AlikeBut place name) records records :=
  List.forall₂_same.mpr fun _ _ _ _ => rfl

theorem Refilled.refl (housed : Housed schema before) : Refilled schema place before before :=
  ⟨housed, fun _ _ => alike_refl _⟩

theorem Refilled.trans (first : Refilled schema place before middle)
    (second : Refilled schema place middle after) : Refilled schema place before after :=
  ⟨second.housed, fun name apart =>
    forall₂_alike (first.confined name apart) (second.confined name apart)⟩

theorem confined_column {table column : String} {change : Record → Record}
    (changed : Rewrites before after table ((before.records table).map change))
    (same : ∀ record other, other ≠ column → change record other = record other) :
    Confined (.column table column) before after := by
  intro name _
  by_cases here : name = table
  · subst here
    rw [records_same changed, List.forall₂_map_right_iff]
    refine List.forall₂_same.mpr fun record _ other apart => same record other ?_
    rintro rfl
    exact apart rfl
  · rw [records_other changed here]
    exact alike_refl _

theorem confined_pairs {pairs : String} {records : List Record}
    (changed : Rewrites before after pairs records) : Confined (.pairs pairs) before after := by
  intro name apart
  have other : name ≠ pairs := fun same => apart (same ▸ rfl)
  rw [records_other changed other]
  exact alike_refl _

end

/-! Tests of rows that can always be evaluated. -/

section

variable {database : Database} {name column : String}

theorem hasValue_eval {scope : Scope} {column : Column} {value : Cell}
    (found : scope.get column = .ok value) (cell : Cell) :
    (hasValue column cell).eval database scope = .ok (value.meets .eq cell) :=
  bind_of_ok found (compareCells_eq value cell .eq)

theorem hasValue_decides (wide : database.Wide)
    (has : ∀ table, database.table? name = some table → table.Has column) (cell : Cell) :
    Decides database [hasValue (.ofTable name column) cell] name
      fun record => (record column).agrees cell := by
  refine decides_of_tests (hasValue_tests wide name column cell) fun table found row member => ?_
  obtain rfl := Database.table?_name found
  have bound := row_binds (wide _ table found row member) column (has table found)
  exact ⟨_, hasValue_eval bound cell⟩

theorem oneOf_decides (wide : database.Wide)
    (has : ∀ table, database.table? name = some table → table.Has column) (cells : List Cell) :
    Decides database [.condition (.oneOf (.ofTable name column) cells)] name
      fun record => cells.any (record column).agrees := by
  intro table found row member
  obtain rfl := Database.table?_name found
  exact oneOf_meets (row_binds (wide _ table found row member) column (has table found)) cells

theorem both_decides {first second : Clause} {one other : Record → Bool}
    (decides : Decides database [first] name one) (decides' : Decides database [second] name other) :
    Decides database [.allOf [first, second]] name fun record => one record && other record := by
  refine decides_of_tests (both_tests decides.tests decides'.tests) fun table found row member => ?_
  obtain ⟨left, here, _⟩ := bind_ok (decides table found row member)
  obtain ⟨right, there, _⟩ := bind_ok (decides' table found row member)
  change ∃ truth, Clause.evalAll database [first, second] _ = .ok truth
  have last : ∃ truth, Clause.evalAll database [second] (table.scope table.name row) = .ok truth := by
    unfold Clause.evalAll
    rw [there]
    cases right <;> exact ⟨_, rfl⟩
  obtain ⟨rest, last⟩ := last
  unfold Clause.evalAll
  rw [here]
  cases left with
  | no => exact ⟨_, rfl⟩
  | _ => exact ⟨_, bind_of_ok rfl (bind_of_ok last rfl)⟩

end

/-! Statements that succeed. -/

section

variable {connection : Connection} {database : Database}

theorem execute_statement_done {α : Type} {action : Action StoreError α} {value : α}
    {after : Connection} (run : execute action connection = (.ok value, after)) :
    execute (statement action) connection = (.ok value, after) := by
  unfold statement
  rw [execute_mapError, run]
  rfl

theorem execute_writing_done {α : Type} {action : MappingAction α} {value : α} {after : Connection}
    (done : execute action connection = (.ok value, after)) :
    execute (SourceAction.writing action) connection = (.ok value, after) := by
  unfold SourceAction.writing
  rw [execute_mapError, done]
  rfl

theorem execute_update_done {update : Update} {count : Nat}
    (run : update.run connection.database = .ok (count, database)) :
    ∃ after, execute (statement (Action.update update)) connection = (.ok count, after) ∧
      after.database = database := by
  let lines := update.text :: connection.database.filterTrace update.table update.filters
  refine ⟨{ connection with log := connection.log ++ lines, database := database }, ?_, rfl⟩
  refine execute_statement_done ?_
  unfold Action.update Action.note
  rw [execute_bind, execute_get]
  dsimp only
  rw [execute_bind, execute_modify]
  dsimp only
  rw [execute_perform]
  dsimp only
  rw [run]

theorem execute_delete_done {delete : Delete} {count : Nat}
    (run : delete.run connection.database = .ok (count, database)) :
    ∃ after, execute (statement (Action.delete delete)) connection = (.ok count, after) ∧
      after.database = database := by
  let lines := delete.text :: connection.database.filterTrace delete.table delete.filters
  refine ⟨{ connection with log := connection.log ++ lines, database := database }, ?_, rfl⟩
  refine execute_statement_done ?_
  unfold Action.delete Action.note
  rw [execute_bind, execute_get]
  dsimp only
  rw [execute_bind, execute_modify]
  dsimp only
  rw [execute_perform]
  dsimp only
  rw [run]

theorem execute_insert_done {insert : Insert} {returned : List Cell}
    (run : insert.run connection.database = .ok (returned, database)) :
    ∃ after, execute (statement (Action.insert insert)) connection = (.ok returned, after) ∧
      after.database = database := by
  refine ⟨{ connection with log := connection.log ++ [insert.text], database := database }, ?_, rfl⟩
  refine execute_statement_done ?_
  unfold Action.insert Action.note
  rw [execute_bind, execute_modify]
  dsimp only
  rw [execute_perform]
  dsimp only
  rw [run]

theorem execute_insert_failed {insert : Insert} {error : StoreError}
    (run : insert.run connection.database = .error error) :
    ∃ after, execute (statement (Action.insert insert)) connection = (.error (.store error), after) := by
  refine ⟨{ connection with log := connection.log ++ [insert.text] }, ?_⟩
  unfold statement
  rw [execute_mapError]
  unfold Action.insert Action.note
  rw [execute_bind, execute_modify]
  dsimp only
  rw [execute_perform]
  dsimp only
  rw [run]
  rfl

end

section

variable {schema : Schema} {connection : Connection}

theorem setColumn_done (housed : Housed schema connection.database) (separate : schema.Separate)
    {type : EntityType} (known : type ∈ schema.types) {column : String} (cell : Cell)
    {filter : Clause} {meets : Record → Bool}
    (has : ∀ table, connection.database.table? (tableName type) = some table → table.Has column)
    (free : ∀ field ∈ type.fields, columnName field.name ≠ column)
    (decides : Decides connection.database [filter] (tableName type) meets) :
    ∃ after, execute (setColumn (tableName type) column cell filter) connection = (.ok (), after) ∧
      Rewrites connection.database after.database (tableName type)
        ((connection.database.records (tableName type)).map fun record =>
          if meets record then record.set column cell else record) ∧
      Refilled schema (.column (tableName type) column) connection.database after.database := by
  obtain ⟨table, keys, found, wide, _, unique, fields⟩ :=
    housed.entity separate.tables separate.keyed known
  have kept : ∀ columns ∈ keys, KeyUnique columns (table.records.map fun record =>
      if meets record then record.set column cell else record) := by
    intro columns member
    have before := (checkUnique_records unique).mp (housed.obeyed _ table found) columns member
    have outside : column ∉ columns := by
      intro inside
      obtain ⟨field, own, same⟩ := fields columns member column inside
      exact free field own same
    unfold KeyUnique at before ⊢
    rw [List.filterMap_map]
    refine (List.filterMap_congr fun record _ => ?_) ▸ before
    rw [Function.comp_apply]
    split
    · exact (Record.key?_set record cell outside).symm
    · rfl
  have written : ∀ assignment ∈ [(column, cell)], table.Has assignment.1 := by
    simpa using has table found
  obtain ⟨count, database, run⟩ : ∃ count after, Update.run connection.database
      ⟨tableName type, [(column, cell)], [filter]⟩ = .ok (count, after) :=
    update_succeeds housed.wide found written decides unique kept
  obtain ⟨after, done, rfl⟩ := execute_update_done run
  have performed : execute (setColumn (tableName type) column cell filter) connection =
      (.ok (), after) := by
    unfold setColumn
    rw [execute_bind, done]
    rfl
  have changed := setColumn_run housed.wide decides.tests performed
  refine ⟨after, performed, changed, housed.refills (update_refills run) changed, ?_⟩
  refine confined_column changed fun record other apart => ?_
  split
  · exact Record.set_other cell apart
  · rfl

theorem deletePairs_done (housed : Housed schema connection.database) {pairs : String}
    {table : Table} (found : connection.database.table? pairs = some table) {filter : Clause}
    {meets : Record → Bool} (decides : Decides connection.database [filter] pairs meets) :
    ∃ count after,
      execute (statement (Action.delete { table := pairs, filters := [filter] })) connection =
        (.ok count, after) ∧
      Rewrites connection.database after.database pairs
        ((connection.database.records pairs).filter fun record => !meets record) ∧
      Refilled schema (.pairs pairs) connection.database after.database := by
  obtain ⟨count, database, run⟩ := delete_succeeds found decides
  obtain ⟨after, done, rfl⟩ := execute_delete_done run
  have changed := (deleteWhere_run housed.wide decides.tests done).1
  exact ⟨count, after, done, changed, housed.refills (delete_refills run) changed,
    confined_pairs changed⟩

def pairRecord (ownerColumn targetColumn : String) (pair : Cell × Cell) : Record :=
  Record.blank.assign [(ownerColumn, pair.1), (targetColumn, pair.2)]

theorem pairRecord_owner {ownerColumn targetColumn : String} (apart : ownerColumn ≠ targetColumn)
    (pair : Cell × Cell) : pairRecord ownerColumn targetColumn pair ownerColumn = pair.1 := by
  unfold pairRecord Record.assign
  rw [List.foldl_cons, List.foldl_cons, List.foldl_nil, Record.set_other _ apart, Record.set_same]

theorem pairRecord_target (ownerColumn targetColumn : String) (pair : Cell × Cell) :
    pairRecord ownerColumn targetColumn pair targetColumn = pair.2 := by
  unfold pairRecord Record.assign
  rw [List.foldl_cons, List.foldl_cons, List.foldl_nil, Record.set_same]

theorem key?_eq {columns : List String} {record : Record} {key : List Cell}
    (found : record.key? columns = some key) : key = columns.map record := by
  unfold Record.key? at found
  dsimp only at found
  split at found
  · cases found
  · cases found
    rfl

theorem key?_apart {columns : List String} {record other : Record}
    (apart : ∃ column ∈ columns, record column ≠ other column) {key key' : List Cell}
    (found : record.key? columns = some key) (found' : other.key? columns = some key') :
    key ≠ key' := by
  rintro rfl
  obtain ⟨column, member, differs⟩ := apart
  have same := (key?_eq found).symm.trans (key?_eq found')
  exact differs (List.map_inj_left.mp same column member)

theorem keyUnique_append {columns : List String} {records added : List Record}
    (unique : KeyUnique columns records)
    (fresh : added.Pairwise fun left right => ∃ column ∈ columns, left column ≠ right column)
    (apart : ∀ record ∈ records, ∀ other ∈ added, ∃ column ∈ columns, record column ≠ other column) :
    KeyUnique columns (records ++ added) := by
  unfold KeyUnique at unique ⊢
  rw [List.filterMap_append, List.nodup_append]
  refine ⟨unique, ?_, ?_⟩
  · exact List.pairwise_filterMap.mpr
      (fresh.imp fun differ key found key' found' => key?_apart differ found found')
  · intro key member key' member'
    obtain ⟨record, inside, found⟩ := List.mem_filterMap.mp member
    obtain ⟨other, inside', found'⟩ := List.mem_filterMap.mp member'
    exact key?_apart (apart record inside other inside') found found'

theorem insertPairs_done (housed : Housed schema connection.database) (separate : schema.Separate)
    {type : EntityType} (known : type ∈ schema.types) {relationship : Relationship}
    (own : relationship ∈ type.relationships) {pairs ownerColumn targetColumn : String}
    (storage : relationship.storage = .joinTable pairs ownerColumn targetColumn) {owner : Cell}
    {cells : List Cell} (distinct : cells.Nodup)
    (fresh : ∀ record ∈ connection.database.records pairs, record ownerColumn = owner →
      record targetColumn ∉ cells) :
    ∃ after, execute (insertPairs pairs ownerColumn targetColumn (cells.map fun cell => (owner, cell)))
        connection = (.ok (), after) ∧
      Rewrites connection.database after.database pairs (connection.database.records pairs ++
        cells.map fun cell => pairRecord ownerColumn targetColumn (owner, cell)) ∧
      Refilled schema (.pairs pairs) connection.database after.database := by
  obtain ⟨table, columns, found, wide, owners, targets, plain, unique, same⟩ :=
    housed.pairs separate.formed separate.tables separate.shared known own storage
  have apart := separate.pairs type known relationship own _ _ _ storage
  have both : ownerColumn ∈ columns ∧ targetColumn ∈ columns := by
    rcases same with rfl | rfl <;> simp
  have records : ((cells.map fun cell => (owner, cell)).map fun pair => [pair.1, pair.2]).map
      (fun values => Record.blank.assign ([ownerColumn, targetColumn].zip values)) =
      cells.map fun cell => pairRecord ownerColumn targetColumn (owner, cell) := by
    rw [List.map_map, List.map_map]
    rfl
  have kept : ∀ key ∈ [columns], KeyUnique key (table.records ++
      ((cells.map fun cell => (owner, cell)).map fun pair => [pair.1, pair.2]).map
        fun values => Record.blank.assign ([ownerColumn, targetColumn].zip values)) := by
    intro key member
    rw [List.mem_singleton.mp member, records]
    have before := (checkUnique_records unique).mp (housed.obeyed _ table found) columns
      (List.mem_singleton.mpr rfl)
    refine keyUnique_append before ?_ ?_
    · refine List.pairwise_map.mpr (distinct.imp fun differ => ⟨targetColumn, both.2, ?_⟩)
      rw [pairRecord_target, pairRecord_target]
      exact differ
    · intro record inside other added
      obtain ⟨cell, member, rfl⟩ := List.mem_map.mp added
      by_cases owned : record ownerColumn = owner
      · refine ⟨targetColumn, both.2, fun same => ?_⟩
        rw [pairRecord_target] at same
        rw [← records_of_table found] at inside
        exact fresh record inside owned (same ▸ member)
      · refine ⟨ownerColumn, both.1, ?_⟩
        rw [pairRecord_owner apart]
        exact owned
  have has : ∀ column ∈ [ownerColumn, targetColumn], table.Has column := by
    simp [owners, targets]
  have fit : ∀ values ∈ (cells.map fun cell => (owner, cell)).map fun pair => [pair.1, pair.2],
      values.length = [ownerColumn, targetColumn].length := by
    simp
  obtain ⟨returned, database, run⟩ := insert_succeeds found has fit plain unique kept
  obtain ⟨after, done, rfl⟩ := execute_insert_done run
  have performed : execute (insertPairs pairs ownerColumn targetColumn
      (cells.map fun cell => (owner, cell))) connection = (.ok (), after) := by
    unfold insertPairs
    rw [execute_bind, done]
    rfl
  have columns? : ∀ columns, connection.database.columns? pairs = some columns →
      ∀ definition ∈ columns, definition.type ≠ .serial := by
    intro columns here
    unfold Database.columns? at here
    rw [found] at here
    cases here
    exact plain
  have changed := insertPairs_run columns? performed
  rw [List.map_map] at changed
  exact ⟨after, performed, changed, housed.refills (insert_refills run) changed,
    confined_pairs changed⟩

def pairedTargets (database : Database) (pairs ownerColumn targetColumn : String) (owner : Cell) :
    List Cell :=
  ((database.records pairs).filter fun pair => (pair ownerColumn).agrees owner).map
    fun pair => pair targetColumn

/-- Reading one column of the pairs that hold a value in another. -/
theorem selectPairs_done (wide : connection.database.Wide) {pairs ownerColumn targetColumn : String}
    {table : Table} (found : connection.database.table? pairs = some table)
    (owners : table.Has ownerColumn) (targets : table.Has targetColumn) (owner : Cell) :
    ∃ after, execute (selectAll
        { columns := [.column (.ofTable pairs targetColumn)]
          table := pairs
          filters := [hasValue (.ofTable pairs ownerColumn) owner] }) connection =
      (.ok ((pairedTargets connection.database pairs ownerColumn targetColumn owner).map
        fun id => [id]), after) ∧
      after.database = connection.database := by
  let select : Select :=
    { columns := [.column (.ofTable pairs targetColumn)]
      table := pairs
      filters := [hasValue (.ofTable pairs ownerColumn) owner] }
  have bound {row : Row} (member : row ∈ table.rows) :
      Scope.Binds (table.scope pairs row) pairs table (table.record row) := by
    have front := scope_binds table pairs row [] (wide pairs table found row member)
    rwa [List.append_nil] at front
  have matched := matching_alone select found rfl rfl rfl
    (fun row => (table.record row ownerColumn).meets .eq owner)
    fun row member => hasValue_eval (bound member ownerColumn owners) owner
  have projected : ∀ row ∈ table.rows, Select.project (table.scope pairs row) [] select.columns =
      .ok [table.record row targetColumn] := fun row member =>
    bind_of_ok (bound member targetColumn targets) rfl
  have kept : (pairedTargets connection.database pairs ownerColumn targetColumn owner).map
      (fun id => [id]) =
      (table.rows.filter fun row => (table.record row ownerColumn).meets .eq owner = .yes).map
        fun row => [table.record row targetColumn] := by
    rw [pairedTargets, records_of_table found, Table.records, List.filter_map, List.map_map,
      List.map_map]
    refine congrArg _ (List.filter_congr fun row _ => ?_)
    rw [Bool.eq_iff_iff, decide_eq_true_iff]
    exact agrees_iff_meets _ _
  have run : select.run connection.database = .ok (((pairedTargets connection.database pairs
      ownerColumn targetColumn owner).map fun id => [id]).map .ok) := by
    have several : select.columns ≠ [.count] := by
      intro same
      cases same
    unfold Select.run
    refine bind_of_ok matched ?_
    rw [if_neg several]
    refine bind_of_ok rfl ?_
    rw [kept, List.map_map]
    refine congrArg Except.ok ((List.map_map ..).trans (List.map_congr_left fun row member => ?_))
    exact projected row (List.mem_filter.mp member).1
  have answer := execute_selectAll run
  have same := (selectAll_keeps select).same connection
  rcases outcome : execute (selectAll select) connection with ⟨result, after⟩
  rw [outcome] at answer same
  cases answer
  exact ⟨after, rfl, congrArg Prod.fst same⟩

end

end ResourceServer
