import ResourceServer.Proofs.SerialNumbers
import ResourceServer.Proofs.Sessions

/-! Generated numbers are new. The counter of a table stays past all numbers in its serial columns, whatever commands
are carried out, as long as nobody overwrites one of these numbers. -/

namespace ResourceServer.Store

def Table.numbers (table : Table) (position : Nat) : Bool :=
  table.columns[position]?.any fun definition => definition.type = .serial

def Above (rows : List Row) (position : Nat) (number : Int) : Prop :=
  ∀ row ∈ rows, ∀ other : Int, row[position]? = some (.integer other) → other < number

def Table.Ahead (table : Table) : Prop :=
  ∀ position, table.numbers position → Above table.rows position table.nextSerial

def Database.Ahead (database : Database) : Prop :=
  ∀ name table, database.table? name = some table → table.Ahead

/-- A command overwrites no number: it is no update, or one without assignments to serial columns. -/
def Command.spares (database : Database) : Command → Bool
  | .update statement => (database.table? statement.table).all fun table =>
    statement.assignments.all fun assignment =>
      match table.position assignment.1 with
      | .ok position => !table.numbers position
      | .error _ => true
  | _ => true

/-- Commands that overwrite no numbers, one after another. -/
def Sessions.spared : Sessions → List (Nat × Command) → Bool
  | _, [] => true
  | sessions, step :: rest =>
    step.2.spares sessions.database && (sessions.perform step.1 step.2).2.spared rest

/-- A row that is inserted has no value of its own at a position: the column is left out, or null is given. -/
def Table.LeavesOut (table : Table) (positions : List Nat) (values : List Cell) (position : Nat) : Prop :=
  (Table.placeValues table.columns.length positions values)[position]? = some .null

section

variable {rows more : List Row} {position : Nat} {number later : Int}

theorem Above.mono (above : Above rows position number) (le : number ≤ later) : Above rows position later :=
  fun row among other held => lt_of_lt_of_le (above row among other held) le

theorem Above.append (above : Above rows position number) (above' : Above more position number) :
    Above (rows ++ more) position number :=
  fun row among => (List.mem_append.mp among).elim (above row) (above' row)

theorem Above.fresh (above : Above rows position number) : ∀ row ∈ rows, row[position]? ≠ some (.integer number) :=
  fun row among held => lt_irrefl number (above row among number held)

end

/-! Numbering. -/

section

variable {definition : ColumnDefinition} {value : Cell} {columns : List ColumnDefinition} {row : Row} {position : Nat}
  {next number : Int}

theorem le_numberCell (definition : ColumnDefinition) (value : Cell) (next : Int) :
    next ≤ (numberCell definition value next).2 := by
  rw [numberCell_counter]
  exact le_counter _ _

theorem le_fillSerials (columns : List ColumnDefinition) (row : Row) (next : Int) :
    next ≤ (Table.fillSerials columns row next).2 := by
  rw [fillSerials_counter]
  exact le_counter _ _

theorem numberCell_below (serial : definition.type = .serial)
    (held : (numberCell definition value next).1 = .integer number) :
    number < (numberCell definition value next).2 := by
  unfold numberCell at held ⊢
  rw [if_pos serial] at held ⊢
  cases value with
  | null =>
      cases held
      exact Int.lt_succ next
  | integer given =>
      cases held
      exact lt_of_lt_of_le (Int.lt_succ number) (le_max_right _ _)
  | _ => cases held

theorem fillSerials_below (defined : columns[position]? = some definition) (serial : definition.type = .serial)
    (held : (Table.fillSerials columns row next).1[position]? = some (.integer number)) :
    number < (Table.fillSerials columns row next).2 := by
  induction columns generalizing row position next with
  | nil => cases defined
  | cons first rest ih =>
      cases row with
      | nil => cases held
      | cons value values =>
          rw [fillSerials_cons] at held
          cases position with
          | zero =>
              cases defined
              exact lt_of_lt_of_le (numberCell_below serial (Option.some.inj held)) (le_fillSerials _ _ _)
          | succ position => exact ih defined held

theorem fillSerials_generates (next : Int) (defined : columns[position]? = some definition)
    (serial : definition.type = .serial) (blank : row[position]? = some .null) :
    ∃ number, next ≤ number ∧ (Table.fillSerials columns row next).1[position]? = some (.integer number) := by
  induction columns generalizing row position next with
  | nil => cases defined
  | cons first rest ih =>
      cases row with
      | nil => cases blank
      | cons value values =>
          rw [fillSerials_cons]
          cases position with
          | zero =>
              cases defined
              cases blank
              refine ⟨next, le_refl next, ?_⟩
              rw [numberCell, if_pos serial]
              rfl
          | succ position =>
              obtain ⟨number, above, held⟩ := ih (numberCell first value next).2 defined blank
              exact ⟨number, le_trans (le_numberCell _ _ _) above, held⟩

end

section

variable {table : Table} {positions : List Nat} {rows : List (List Cell)} {added before : List Row} {position : Nat}
  {next last : Int}

theorem Table.numbers_iff : table.numbers position = true ↔
    ∃ definition, table.columns[position]? = some definition ∧ definition.type = .serial := by
  unfold Table.numbers
  rw [Option.any_eq_true]
  simp only [decide_eq_true_eq]

theorem completeRows_cons {values : List Cell} {rest : List (List Cell)}
    (done : table.completeRows positions (values :: rest) next = .ok (added, last)) :
    ∃ row middle others, (row, middle) = Table.fillSerials table.columns
        (Table.placeValues table.columns.length positions values) next ∧
      table.completeRows positions rest middle = .ok (others, last) ∧ added = row :: others := by
  unfold Table.completeRows at done
  split at done
  · cases done
  obtain ⟨⟨others, final⟩, run, same⟩ := bind_ok done
  cases same
  exact ⟨_, _, others, rfl, run, rfl⟩

theorem row_ahead (serial : table.numbers position) (above : Above before position next) {row filled : Row}
    {middle : Int} (same : (filled, middle) = Table.fillSerials table.columns row next) :
    Above (before ++ [filled]) position middle := by
  obtain ⟨definition, defined, type⟩ := Table.numbers_iff.mp serial
  obtain ⟨rfl, rfl⟩ := Prod.ext_iff.mp same
  refine (above.mono (le_fillSerials _ _ _)).append fun other among number held => ?_
  cases List.mem_singleton.mp among
  exact fillSerials_below defined type held

theorem row_generated (serial : table.numbers position) {row : Row} {values : List Cell} {middle : Int}
    (same : (row, middle) =
      Table.fillSerials table.columns (Table.placeValues table.columns.length positions values) next)
    (blank : table.LeavesOut positions values position) :
    ∃ number, next ≤ number ∧ row[position]? = some (.integer number) := by
  obtain ⟨definition, defined, type⟩ := Table.numbers_iff.mp serial
  obtain ⟨rfl, _⟩ := Prod.ext_iff.mp same
  exact fillSerials_generates next defined type blank

theorem rows_ahead (serial : table.numbers position) (above : Above before position next)
    (done : table.completeRows positions rows next = .ok (added, last)) :
    Above (before ++ added) position last := by
  induction rows generalizing before added next with
  | nil =>
      cases done
      rw [List.append_nil]
      exact above
  | cons values rest ih =>
      obtain ⟨row, middle, others, filled, run, rfl⟩ := completeRows_cons done
      have later := ih (row_ahead serial above filled) run
      rwa [List.append_assoc, List.singleton_append] at later

theorem rows_generated (serial : table.numbers position) (above : Above before position next)
    (done : table.completeRows positions rows next = .ok (added, last)) {front rest : List (List Cell)}
    {values : List Cell} (split : rows = front ++ values :: rest)
    (blank : table.LeavesOut positions values position) :
    ∃ earlier row later number, added = earlier ++ row :: later ∧ earlier.length = front.length ∧
      row[position]? = some (.integer number) ∧ Above (before ++ earlier) position number := by
  induction front generalizing rows before added next with
  | nil =>
      cases split
      obtain ⟨row, middle, others, filled, _, rfl⟩ := completeRows_cons done
      obtain ⟨number, least, held⟩ := row_generated serial filled blank
      refine ⟨[], row, others, number, rfl, rfl, held, ?_⟩
      rw [List.append_nil]
      exact above.mono least
  | cons first front ih =>
      cases split
      obtain ⟨row, middle, others, filled, run, rfl⟩ := completeRows_cons done
      obtain ⟨earlier, own, later, number, rfl, length, held, greater⟩ :=
        ih (row_ahead serial above filled) run rfl
      rw [List.append_assoc, List.singleton_append] at greater
      exact ⟨row :: earlier, own, later, number, rfl, congrArg Nat.succ length, held, greater⟩

/-! Uniqueness. -/

theorem keyOf?_eq {key : List Nat} {row : Row} {values : List Cell} (made : Table.keyOf? key row = some values) :
    values = key.map fun position => row.getD position .null := by
  unfold Table.keyOf? at made
  dsimp only at made
  split at made
  · cases made
  · exact (Option.some.inj made).symm

theorem keys_apart {key : List Nat} (among : position ∈ key) {number : Int} (above : Above before position number)
    {row other : Row} (member : other ∈ before) (held : row[position]? = some (.integer number))
    {one two : List Cell} (first : Table.keyOf? key other = some one) (second : Table.keyOf? key row = some two) :
    one ≠ two := by
  intro same
  rw [keyOf?_eq first, keyOf?_eq second] at same
  have value := List.map_inj_left.mp same position among
  rw [List.getD_eq_getElem?_getD, List.getD_eq_getElem?_getD, held, Option.getD_some] at value
  apply above.fresh other member
  cases there : other[position]? with
  | none =>
      rw [there] at value
      cases value
  | some cell =>
      rw [there] at value
      exact congrArg some value

theorem generated_apart (serial : table.numbers position) (above : Above before position next)
    (done : table.completeRows positions rows next = .ok (added, last))
    (blank : ∀ values ∈ rows, table.LeavesOut positions values position) {key : List Nat} (among : position ∈ key)
    (apart : (before.filterMap (Table.keyOf? key)).Nodup) :
    ((before ++ added).filterMap (Table.keyOf? key)).Nodup := by
  induction rows generalizing before added next with
  | nil =>
      cases done
      rwa [List.append_nil]
  | cons values rest ih =>
      obtain ⟨row, middle, others, filled, run, rfl⟩ := completeRows_cons done
      obtain ⟨first, rest_blank⟩ := List.forall_mem_cons.mp blank
      obtain ⟨number, least, held⟩ := row_generated serial filled first
      have own : ((before ++ [row]).filterMap (Table.keyOf? key)).Nodup := by
        rw [List.filterMap_append, List.nodup_append]
        refine ⟨apart, ?_, ?_⟩
        · rw [List.filterMap_cons]
          split <;> simp
        · intro one first two second
          obtain ⟨other, member, first⟩ := List.mem_filterMap.mp first
          obtain ⟨same, alone, second⟩ := List.mem_filterMap.mp second
          cases List.mem_singleton.mp alone
          exact keys_apart among (above.mono least) member held first second
      have later := ih (row_ahead serial above filled) run rest_blank own
      rwa [List.append_assoc, List.singleton_append] at later

end

/-! Commands. -/

section

variable {database after : Database} {name : String} {table : Table}

theorem Database.Ahead.replace (ahead : database.Ahead) (found : database.table? name = some table) {rows : List Row}
    {next : Int} (kept : ∀ position, table.numbers position → Above rows position next) :
    (database.replace { table with rows := rows, nextSerial := next }).Ahead := by
  intro wanted other here
  have named := Database.table?_name found
  rw [table?_replace { table with rows := rows, nextSerial := next } found named] at here
  split at here
  · cases here
    exact kept
  · exact ahead wanted other here

theorem create_ahead {statement : CreateTable} (ahead : database.Ahead)
    (run : statement.run database = .ok after) : after.Ahead := by
  intro wanted table found position _
  rcases createTable_follows run found with here | ⟨_, _, _, empty⟩
  · exact ahead wanted table here position ‹_›
  · rw [empty]
    exact nofun

theorem insert_ahead {statement : Insert} {returned : List Cell} (ahead : database.Ahead)
    (run : statement.run database = .ok (returned, after)) : after.Ahead := by
  obtain ⟨table, here, run⟩ := bind_ok run
  obtain ⟨⟨values, changed⟩, inserted, run⟩ := bind_ok run
  cases run
  obtain ⟨positions, _, inserted⟩ := bind_ok inserted
  obtain ⟨_, _, inserted⟩ := bind_ok inserted
  obtain ⟨⟨added, next⟩, completed, inserted⟩ := bind_ok inserted
  obtain ⟨_, _, inserted⟩ := bind_ok inserted
  cases inserted
  have found := table_found here
  exact ahead.replace found fun position serial =>
    rows_ahead serial (ahead _ table found position serial) completed

theorem assign_other {assignments : List (Nat × Cell)} {position : Nat}
    (others : ∀ assignment ∈ assignments, assignment.1 ≠ position) (row : Row) :
    (Update.assign assignments row)[position]? = row[position]? := by
  unfold Update.assign
  induction assignments generalizing row with
  | nil => rfl
  | cons assignment rest ih =>
      rw [List.foldl_cons, ih fun other among => others other (List.mem_cons_of_mem _ among)]
      exact List.getElem?_set_ne (others assignment List.mem_cons_self)

theorem update_ahead {statement : Update} {count : Nat} (ahead : database.Ahead)
    (spares : (Command.update statement).spares database)
    (run : statement.run database = .ok (count, after)) : after.Ahead := by
  obtain ⟨table, here, run⟩ := bind_ok run
  obtain ⟨marks, _, run⟩ := bind_ok run
  obtain ⟨assignments, placed, run⟩ := bind_ok run
  obtain ⟨_, _, run⟩ := bind_ok run
  cases run
  have found := table_found here
  refine ahead.replace found fun position serial row among number held => ?_
  have others : ∀ assignment ∈ assignments, assignment.1 ≠ position := by
    rintro ⟨place, value⟩ among rfl
    obtain ⟨⟨column, given⟩, listed, located⟩ := mem_of_forall₂ (mapM_forall₂ placed).flip among
    have located : (table.position column >>= fun place => Except.ok (place, given)) = .ok (place, value) := located
    obtain ⟨_, first, same⟩ := bind_ok located
    cases same
    have spare := List.all_eq_true.mp ((Option.all_eq_true _ _).mp spares table found) _ listed
    rw [first] at spare
    have numbered : (!table.numbers place) = true := spare
    rw [serial] at numbered
    cases numbered
  obtain ⟨⟨mark, old⟩, inside, rfl⟩ := List.mem_map.mp among
  apply ahead _ table found position serial old (List.of_mem_zip inside).2 number
  dsimp only at held
  split at held
  · rwa [assign_other others] at held
  · exact held

theorem delete_ahead {statement : Delete} {count : Nat} (ahead : database.Ahead)
    (run : statement.run database = .ok (count, after)) : after.Ahead := by
  obtain ⟨table, here, run⟩ := bind_ok run
  obtain ⟨marks, _, run⟩ := bind_ok run
  cases run
  have found := table_found here
  refine ahead.replace found fun position serial row among => ?_
  obtain ⟨⟨mark, old⟩, inside, rfl⟩ := List.mem_map.mp among
  exact ahead _ table found position serial old (List.of_mem_zip (List.mem_filter.mp inside).1).2

theorem Command.Does.ahead {command : Command} {connection next : Connection} (does : command.Does connection next)
    (spares : command.spares connection.database) (upholds : connection.Upholds Database.Ahead) :
    next.Upholds Database.Ahead := by
  have kept (same : next.savepoint = connection.savepoint) : ∀ database,
      next.savepoint = some database → database.Ahead :=
    fun database here => upholds.savepoint database (same ▸ here)
  cases does with
  | createTable done same => exact ⟨create_ahead upholds.database done, kept same⟩
  | insert done same => exact ⟨insert_ahead upholds.database done, kept same⟩
  | update done same => exact ⟨update_ahead upholds.database spares done, kept same⟩
  | delete done same => exact ⟨delete_ahead upholds.database done, kept same⟩
  | begin same opened =>
      refine ⟨same ▸ upholds.database, fun database here => ?_⟩
      rw [opened] at here
      cases here
      exact upholds.database
  | commit same closed => exact ⟨same ▸ upholds.database, fun _ here => by rw [closed] at here; cases here⟩
  | rollback here closed =>
      exact ⟨upholds.savepoint _ here, fun _ here => by rw [closed] at here; cases here⟩

end

namespace Sessions

variable {sessions : Sessions}

theorem ahead_perform (ahead : sessions.Uphold Database.Ahead) (number : Nat) {command : Command}
    (spares : command.spares sessions.database) :
    (sessions.perform number command).2.Uphold Database.Ahead := by
  have upholds := ahead.connection number
  rw [(perform_eq sessions number command).2.1]
  refine ahead.run (fun _ => id) ?_
  rcases run : execute command.action (sessions.connection number) with ⟨result, connection⟩
  rcases command.does_or_fails run with ⟨_, does⟩ | ⟨_, _, same, kept⟩
  · exact does.ahead spares upholds
  · exact ⟨same ▸ upholds.database, fun database here => upholds.savepoint database (kept ▸ here)⟩

theorem ahead_afterAll {commands : List (Nat × Command)} (ahead : sessions.Uphold Database.Ahead)
    (spared : sessions.spared commands) : (sessions.afterAll commands).Uphold Database.Ahead := by
  induction commands generalizing sessions with
  | nil => exact ahead
  | cons step rest ih =>
      obtain ⟨first, later⟩ := Bool.and_eq_true_iff.mp spared
      exact ih (ahead_perform ahead step.1 first) later

end Sessions

/-! Insertions. -/

section

variable {table : Table} {positions : List Nat} {position : Nat}

theorem leavesOut_of_unnamed (serial : table.numbers position) (unnamed : position ∉ positions) (values : List Cell) :
    table.LeavesOut positions values position := by
  obtain ⟨definition, defined, _⟩ := Table.numbers_iff.mp serial
  unfold Table.LeavesOut Table.placeValues
  have others : ∀ assignment ∈ positions.zip values, assignment.1 ≠ position := by
    rintro assignment among rfl
    exact unnamed (List.of_mem_zip among).1
  rw [show (positions.zip values).foldl _ _ = Update.assign _ _ from rfl, assign_other others]
  have within := (List.getElem?_eq_some_iff.mp defined).1
  rw [List.getElem?_replicate, if_pos within]

theorem returned_error (returning : Option String) (name : String) (columns : List String) :
    returning.mapM table.position ≠ .error (.notUnique name columns) := by
  cases returning with
  | none => nofun
  | some column =>
      intro failed
      rcases bind_error failed with failed | ⟨_, _, failed⟩
      · unfold Table.position at failed
        split at failed <;> cases failed
      · cases failed

theorem completeRows_error {rows : List (List Cell)} {next : Int} (name : String) (columns : List String) :
    table.completeRows positions rows next ≠ .error (.notUnique name columns) := by
  induction rows generalizing next with
  | nil => nofun
  | cons values rest ih =>
      intro failed
      unfold Table.completeRows at failed
      split at failed
      · cases failed
      rcases bind_error failed with failed | ⟨_, _, failed⟩
      · exact ih failed
      · cases failed

theorem checkUnique_error {rows : List Row} {error : StoreError} (failed : table.checkUnique rows = .error error) :
    ∃ key ∈ table.uniqueKeys, ¬(rows.filterMap (Table.keyOf? key)).Nodup ∧
      error = .notUnique table.name (key.filterMap fun position =>
        (table.columns[position]?).map ColumnDefinition.name) := by
  unfold Table.checkUnique at failed
  split at failed
  · cases failed
  · rename_i key found
    cases failed
    refine ⟨key, List.mem_of_find?_eq_some found, fun apart => ?_, rfl⟩
    have repeated := List.find?_some found
    rw [hasRepeats_iff.mpr apart] at repeated
    cases repeated

end

/-- What a numbered column of a table holds is left behind by the numbers that insertions generate. -/
structure Table.Renews (table : Table) (position : Nat) : Prop where
  /-- The counter is past all numbers of the column. -/
  ahead : Above table.rows position table.nextSerial
  /-- A statement that does not name the column leaves it out. -/
  unnamed : ∀ (positions : List Nat) (values : List Cell), position ∉ positions →
    table.LeavesOut positions values position
  /-- A number is greater than all in the column before it, those of the same statement included. -/
  generated : ∀ (statement : Insert) (returned : List Cell) (after : Table),
    table.insert statement.columns statement.rows statement.returning = .ok (returned, after) →
      ∃ positions added, statement.columns.mapM table.position = .ok positions ∧ after.rows = table.rows ++ added ∧
        ∀ front values rest, statement.rows = front ++ values :: rest → table.LeavesOut positions values position →
          ∃ earlier row later number, added = earlier ++ row :: later ∧ earlier.length = front.length ∧
            row[position]? = some (.integer number) ∧ Above (table.rows ++ earlier) position number
  /-- A statement that leaves the column out in all rows violates no constraint with it. -/
  unique : ∀ (statement : Insert) (positions : List Nat) (name : String) (columns : List String),
    statement.columns.mapM table.position = .ok positions →
      (∀ values ∈ statement.rows, table.LeavesOut positions values position) →
        table.insert statement.columns statement.rows statement.returning = .error (.notUnique name columns) →
          ∃ added next, table.completeRows positions statement.rows table.nextSerial = .ok (added, next) ∧
            (∀ key ∈ table.uniqueKeys, position ∈ key →
              ((table.rows ++ added).filterMap (Table.keyOf? key)).Nodup) ∧
            ∃ key ∈ table.uniqueKeys, position ∉ key ∧
              ¬((table.rows ++ added).filterMap (Table.keyOf? key)).Nodup ∧
              columns = key.filterMap fun position => (table.columns[position]?).map ColumnDefinition.name

theorem Table.Ahead.renews {table : Table} {position : Nat} (ahead : table.Ahead) (serial : table.numbers position)
    (obeyed : table.checkUnique table.rows = .ok ()) : table.Renews position where
  ahead := ahead position serial
  unnamed positions values absent := leavesOut_of_unnamed serial absent values
  generated statement returned after inserted := by
    obtain ⟨positions, placed, inserted⟩ := bind_ok inserted
    obtain ⟨_, _, inserted⟩ := bind_ok inserted
    obtain ⟨⟨added, next⟩, completed, inserted⟩ := bind_ok inserted
    obtain ⟨_, _, inserted⟩ := bind_ok inserted
    cases inserted
    exact ⟨positions, added, placed, rfl, fun front values rest split blank =>
      rows_generated serial (ahead position serial) completed split blank⟩
  unique statement positions name columns placed blank failed := by
    unfold Table.insert at failed
    rw [placed] at failed
    rcases bind_error failed with failed | ⟨_, same, failed⟩
    · cases failed
    cases same
    rcases bind_error failed with failed | ⟨_, _, failed⟩
    · exact absurd failed (returned_error statement.returning name columns)
    rcases bind_error failed with failed | ⟨⟨added, next⟩, completed, failed⟩
    · exact absurd failed (completeRows_error name columns)
    rcases bind_error failed with failed | ⟨_, _, failed⟩
    · obtain ⟨key, member, repeated, same⟩ := checkUnique_error failed
      have apart (key : List Nat) (member : key ∈ table.uniqueKeys) (among : position ∈ key) :
          ((table.rows ++ added).filterMap (Table.keyOf? key)).Nodup :=
        generated_apart serial (ahead position serial) completed blank among (checkUnique_iff.mp obeyed key member)
      exact ⟨added, next, completed, apart, key, member, fun among => repeated (apart key member among), repeated,
        (StoreError.notUnique.inj same).2⟩
    · cases failed

namespace Sessions

/-- After any commands of any sessions that overwrite no numbers of serial columns, the counter of a table is past all
these numbers. So one that an insertion generates is greater than all that its column held before, and where all are
generated no constraint with the column is violated. -/
theorem commands_number_afresh {commands : List (Nat × Command)} (spared : Sessions.fresh.spared commands)
    {name : String} {table : Table} (found : (Sessions.fresh.afterAll commands).database.table? name = some table)
    {position : Nat} (serial : table.numbers position) : table.Renews position := by
  have start : Sessions.fresh.Uphold (Database.Sound []) := ⟨Database.sound_empty, nofun⟩
  have ahead : Sessions.fresh.Uphold Database.Ahead := ⟨nofun, nofun⟩
  exact ((ahead_afterAll ahead spared).database name table found).renews serial
    ((sound_afterAll start commands).database.obeyed name table found)

end Sessions

/-! Guests with two numbers each, of which some bring the first. -/

namespace Guests

/-- Two guests, one more who is taken back, two of whom one has a number that is taken, and one who is left. -/
def commands : List (Nat × Command) :=
  [(1, .createTable ⟨"guest", [⟨"id", .serial⟩, ⟨"seat", .serial⟩, ⟨"name", .text⟩],
      [⟨.primaryKey, ["id"]⟩, ⟨.unique, ["seat", "name"]⟩, ⟨.unique, ["name"]⟩]⟩),
    (1, .insert ⟨"guest", ["id", "name"], [[.integer 7, .text "Ann"], [.null, .text "Bob"]], none⟩),
    (2, .begin),
    (2, .insert ⟨"guest", ["name"], [[.text "Cid"]], some "id"⟩),
    (1, .insert ⟨"guest", ["id"], [[.integer 20], [.integer 7]], none⟩),
    (2, .rollback),
    (1, .delete ⟨"guest", [.condition (.compare (.ofName "id") "=" (.cell (.integer 7)))]⟩),
    (2, .update ⟨"guest", [("name", .text "Eve")], []⟩)]

def table : Table :=
  ⟨"guest", [⟨"id", .serial⟩, ⟨"seat", .serial⟩, ⟨"name", .text⟩], [[0], [1, 2], [2]],
    [[.integer 9, .integer 10, .text "Eve"]], 11⟩

end Guests

theorem guests_number_afresh :
    Sessions.fresh.spared Guests.commands ∧
      (Sessions.fresh.afterAll Guests.commands).database.table? "guest" = some Guests.table ∧
        Guests.table.numbers 1 ∧ Guests.table.Renews 1 := by
  have spared : Sessions.fresh.spared Guests.commands := by decide +kernel
  have found : (Sessions.fresh.afterAll Guests.commands).database.table? "guest" = some Guests.table := by
    decide +kernel
  have serial : Guests.table.numbers 1 := by decide
  exact ⟨spared, found, serial, Sessions.commands_number_afresh spared found serial⟩

end ResourceServer.Store
