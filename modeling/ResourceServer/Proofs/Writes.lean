import ResourceServer.Mapping.Link
import ResourceServer.Proofs.Statements
import ResourceServer.Proofs.Steps

/-! What the writes of the mapping do to the records of tables. -/

namespace ResourceServer

open ResourceServer.Store ResourceServer.Mapping

namespace Store

theorem scope_get {table : Table} {row : Row} {column : String} {cell : Cell}
    (wide : row.length = table.columns.length)
    (found : Scope.get (table.scope table.name row) (.ofTable table.name column) = .ok cell) :
    cell = table.record row column := by
  by_cases present : table.Has column
  · rw [row_binds wide column present] at found
    cases found
    rfl
  · have absent : (table.scope table.name row).find?
        (fun entry => isMeant (.ofTable table.name column) entry.1) = none := by
      rw [List.find?_eq_none]
      intro entry member
      have inside : entry.1 ∈ _ ∧ entry.2 ∈ row := List.of_mem_zip member
      obtain ⟨definition, listed, same⟩ := List.mem_map.mp inside.1
      intro meant
      have equal : entry.1 = Column.ofTable table.name column := by
        exact of_decide_eq_true meant
      rw [← same] at equal
      cases equal
      exact present ⟨definition, listed, rfl⟩
    unfold Scope.get at found
    rw [absent] at found
    cases found

theorem hasValue_ok {database : Database} {scope : Scope} {column : Column} {cell : Cell}
    {truth : Truth} (evaluated : (hasValue column cell).eval database scope = .ok truth) :
    ∃ value, scope.get column = .ok value ∧ truth = value.meets .eq cell := by
  obtain ⟨value, found, compared⟩ := bind_ok evaluated
  refine ⟨value, found, ?_⟩
  have same : compareCells value "=" cell = .ok (value.meets .eq cell) := compareCells_eq value cell .eq
  exact Except.ok.inj (compared.symm.trans same)

theorem oneOf_ok {database : Database} {scope : Scope} {column : Column} {cells : List Cell}
    {truth : Truth}
    (evaluated : Clause.eval database (.condition (.oneOf column cells)) scope = .ok truth) :
    ∃ value, scope.get column = .ok value ∧ (truth = .yes ↔ cells.any value.agrees = true) := by
  obtain ⟨value, found, tested⟩ := bind_ok evaluated
  refine ⟨value, found, ?_⟩
  cases cells with
  | nil =>
      cases tested
      simp
  | cons first rest =>
      rw [if_neg (by simp)] at tested
      by_cases empty : value.isNull
      · rw [if_pos empty] at tested
        cases tested
        cases value with
        | null => simp [Cell.agrees, Cell.compare?]
        | _ => cases empty
      · rw [if_neg empty] at tested
        cases tested
        exact Truth.ofBool_eq_yes _

section

variable {database : Database}

theorem tests_of_eval {filter : Clause} {name : String} {meets : Record → Bool}
    (wide : database.Wide)
    (evaluated : ∀ table, database.table? name = some table → ∀ row ∈ table.rows,
      row.length = table.columns.length → ∀ truth,
        filter.eval database (table.scope table.name row) = .ok truth →
          (truth = .yes ↔ meets (table.record row) = true)) :
    Tests database [filter] name meets := by
  intro table found row member mark run
  obtain ⟨truth, one, rest⟩ := bind_ok run
  have same := evaluated table found row member (wide name table found row member) truth one
  cases truth with
  | yes =>
      cases rest
      exact (same.mp rfl).symm
  | no =>
      cases rest
      cases marked : meets (table.record row) with
      | true => cases same.mpr marked
      | false => rfl
  | unknown =>
      cases rest
      cases marked : meets (table.record row) with
      | true => cases same.mpr marked
      | false => rfl

theorem hasValue_tests (wide : database.Wide) (name column : String) (cell : Cell) :
    Tests database [hasValue (.ofTable name column) cell] name
      fun record => (record column).agrees cell := by
  refine tests_of_eval wide fun table found row _ width truth evaluated => ?_
  obtain rfl := Database.table?_name found
  obtain ⟨value, here, rfl⟩ := hasValue_ok evaluated
  rw [← scope_get width here]
  exact (agrees_iff_meets value cell).symm

theorem oneOf_tests (wide : database.Wide) (name column : String) (cells : List Cell) :
    Tests database [.condition (.oneOf (.ofTable name column) cells)] name
      fun record => cells.any (record column).agrees := by
  refine tests_of_eval wide fun table found row _ width truth evaluated => ?_
  obtain rfl := Database.table?_name found
  obtain ⟨value, here, same⟩ := oneOf_ok evaluated
  rw [← scope_get width here]
  exact same

end

end Store

section

variable {connection after : Connection}

theorem execute_mapError_ok {ε δ α : Type} {action : Action ε α} {convert : ε → δ} {value : α}
    (run : execute (action.mapError convert) connection = (.ok value, after)) :
    execute action connection = (.ok value, after) := by
  rw [execute_mapError] at run
  rcases outcome : execute action connection with ⟨result, reached⟩
  rw [outcome] at run
  cases result with
  | error error => cases run
  | ok found =>
      cases run
      rfl

theorem execute_perform_ok {ε α : Type} {change : Database → Except ε (α × Database)} {value : α}
    (run : execute (Action.perform change) connection = (.ok value, after)) :
    change connection.database = .ok (value, after.database) := by
  rw [execute_perform] at run
  split at run
  · rename_i value' database changed
    cases run
    exact changed
  · cases run

theorem execute_note_ok {ε α : Type} {lines : List String} {action : Unit → Action ε α} {value : α}
    (run : execute (Action.note lines >>= action) connection = (.ok value, after)) :
    execute (action ()) { connection with log := connection.log ++ lines } = (.ok value, after) := by
  rw [execute_bind] at run
  exact run

theorem execute_update_ok {update : Update} {count : Nat}
    (run : execute (statement (Action.update update)) connection = (.ok count, after)) :
    update.run connection.database = .ok (count, after.database) := by
  have performed := execute_mapError_ok run
  unfold Action.update at performed
  rw [execute_bind, execute_get] at performed
  have changed := execute_perform_ok (execute_note_ok performed)
  exact changed

theorem execute_delete_ok {delete : Delete} {count : Nat}
    (run : execute (statement (Action.delete delete)) connection = (.ok count, after)) :
    delete.run connection.database = .ok (count, after.database) := by
  have performed := execute_mapError_ok run
  unfold Action.delete at performed
  rw [execute_bind, execute_get] at performed
  have changed := execute_perform_ok (execute_note_ok performed)
  exact changed

theorem execute_insert_ok {insert : Insert} {returned : List Cell}
    (run : execute (statement (Action.insert insert)) connection = (.ok returned, after)) :
    insert.run connection.database = .ok (returned, after.database) := by
  have performed := execute_mapError_ok run
  unfold Action.insert at performed
  have changed := execute_perform_ok (execute_note_ok performed)
  exact changed

/-! The statements that change links. -/

theorem clearKey_run {table column : String} {cell : Cell} (wide : connection.database.Wide)
    (run : execute (clearKey table column cell) connection = (.ok (), after)) :
    Rewrites connection.database after.database table
      ((connection.database.records table).map fun record =>
        if (record column).agrees cell then record.set column .null else record) := by
  obtain ⟨count, reached, one, last⟩ := execute_bind_ok run
  cases last
  exact (update_run wide (hasValue_tests wide table column cell) (execute_update_ok one)).1

theorem setColumn_run {table column : String} {cell : Cell} {filter : Clause} {meets : Record → Bool}
    (wide : connection.database.Wide) (tested : Tests connection.database [filter] table meets)
    (run : execute (setColumn table column cell filter) connection = (.ok (), after)) :
    Rewrites connection.database after.database table
      ((connection.database.records table).map fun record =>
        if meets record then record.set column cell else record) := by
  obtain ⟨count, reached, one, last⟩ := execute_bind_ok run
  cases last
  exact (update_run wide tested (execute_update_ok one)).1

theorem deleteWhere_run {table : String} {filter : Clause} {meets : Record → Bool} {count : Nat}
    (wide : connection.database.Wide) (tested : Tests connection.database [filter] table meets)
    (run : execute (statement (Action.delete { table := table, filters := [filter] })) connection =
      (.ok count, after)) :
    Rewrites connection.database after.database table
        ((connection.database.records table).filter fun record => !meets record) ∧
      count = (connection.database.records table).countP meets :=
  delete_run wide tested (execute_delete_ok run)

theorem deletePairs_run {table column : String} {cell : Cell} (wide : connection.database.Wide)
    (run : execute (deletePairs table column cell) connection = (.ok (), after)) :
    Rewrites connection.database after.database table
      ((connection.database.records table).filter fun record =>
        !(record column).agrees cell) := by
  obtain ⟨count, reached, one, last⟩ := execute_bind_ok run
  cases last
  exact (deleteWhere_run wide (hasValue_tests wide table column cell) one).1

theorem numbered_plain {columns : List ColumnDefinition} {given filled : Record}
    (plain : ∀ definition ∈ columns, definition.type ≠ .serial)
    (numbered : Numbered columns given filled) : filled = given := by
  funext column
  rcases numbered column with same | ⟨_, _, definition, member, _, serial⟩
  · exact same
  · exact absurd serial (plain definition member)

theorem insertPairs_run {table ownerColumn targetColumn : String} {pairs : List (Cell × Cell)}
    (plain : ∀ columns, connection.database.columns? table = some columns →
      ∀ definition ∈ columns, definition.type ≠ .serial)
    (run : execute (insertPairs table ownerColumn targetColumn pairs) connection = (.ok (), after)) :
    Rewrites connection.database after.database table
      (connection.database.records table ++ pairs.map fun pair =>
        Record.blank.assign [(ownerColumn, pair.1), (targetColumn, pair.2)]) := by
  obtain ⟨returned, reached, one, last⟩ := execute_bind_ok run
  cases last
  obtain ⟨columns, added, laid, changed, numbered, _⟩ := insert_run (execute_insert_ok one)
  have each : List.Forall₂ (fun pair record =>
      Record.blank.assign [(ownerColumn, pair.1), (targetColumn, pair.2)] = record) pairs added :=
    (List.forall₂_map_left_iff.mp numbered).imp fun _ _ one =>
      (numbered_plain (plain columns laid) one).symm
  have same : pairs.map (fun pair =>
      Record.blank.assign [(ownerColumn, pair.1), (targetColumn, pair.2)]) = added := by
    rw [← List.forall₂_eq_eq_eq]
    exact List.forall₂_map_left_iff.mpr each
  rw [same]
  exact changed

/-- A conjunction of two tests tests for both. -/
theorem both_tests {database : Database} {table : String} {first second : Clause}
    {one other : Record → Bool} (tested : Tests database [first] table one)
    (tested' : Tests database [second] table other) :
    Tests database [.allOf [first, second]] table fun record => one record && other record := by
  intro place found row member mark run
  obtain ⟨truth, evaluated, _⟩ := bind_ok run
  have marked : mark = decide (truth = .yes) :=
    Except.ok.inj (run.symm.trans (meets_single evaluated))
  change Clause.evalAll database [first, second] _ = .ok truth at evaluated
  rw [Clause.evalAll] at evaluated
  obtain ⟨left, here, evaluated⟩ := bind_ok evaluated
  have left_is := tested place found row member _ (meets_single here)
  -- A conjunct that fails hides the other, which need not be evaluated then.
  by_cases fails : left = .no
  · subst fails
    cases evaluated
    rw [marked]
    dsimp only
    rw [← left_is]
    rfl
  · have goes : (do return left.and (← Clause.evalAll database [second]
        (place.scope place.name row)) : Except StoreError Truth) = .ok truth := by
      cases left with
      | no => exact absurd rfl fails
      | _ => exact evaluated
    obtain ⟨rest, evaluated, same⟩ := bind_ok goes
    rw [Clause.evalAll] at evaluated
    obtain ⟨right, there, evaluated⟩ := bind_ok evaluated
    have right_is := tested' place found row member _ (meets_single there)
    rw [marked]
    dsimp only
    rw [← left_is, ← right_is]
    cases same
    cases left <;> cases right <;> cases evaluated <;> rfl

end

end ResourceServer
