import ResourceServer.Proofs.Housing

/-! Commands of several sessions on one database: whatever comes of them, the tables keep to their
constraints, and a command that fails changes nothing. -/

namespace ResourceServer

open ResourceServer.Store

namespace Store

/-- A statement that changes tables, or a step of the transaction of a session. -/
inductive Command
  | createTable (statement : CreateTable)
  | insert (statement : Insert)
  | update (statement : Update)
  | delete (statement : Delete)
  | begin
  | commit
  | rollback

namespace Command

def action : Command → Action StoreError Unit
  | .createTable statement => Action.createTable statement
  | .insert statement => do let _ ← Action.insert statement
  | .update statement => do let _ ← Action.update statement
  | .delete statement => do let _ ← Action.delete statement
  | .begin => Action.begin
  | .commit => Action.commit
  | .rollback => Action.rollback

def creation? : Command → Option CreateTable
  | .createTable statement => some statement
  | _ => none

end Command

namespace Sessions

def fresh : Sessions := ⟨Database.empty, []⟩

def perform (sessions : Sessions) (number : Nat) (command : Command) :
    Except StoreError Unit × Sessions :=
  let outcome := sessions.run number command.action
  (outcome.1.1, outcome.2)

/-- The sessions after some commands, each of the session with its number and whatever comes of it. -/
def afterAll (sessions : Sessions) (commands : List (Nat × Command)) : Sessions :=
  commands.foldl (fun sessions step => (sessions.perform step.1 step.2).2) sessions

end Sessions

/-- The statements by which some commands create tables. -/
def creations (commands : List (Nat × Command)) : List CreateTable :=
  commands.filterMap fun step => step.2.creation?

/-- What a command that succeeds does to the database and to the state that its session may go back to. -/
inductive Command.Does (before after : Connection) : Command → Prop
  | createTable {statement : CreateTable}
      (done : statement.run before.database = .ok after.database)
      (kept : after.savepoint = before.savepoint) : Does before after (.createTable statement)
  | insert {statement : Insert} {returned : List Cell}
      (done : statement.run before.database = .ok (returned, after.database))
      (kept : after.savepoint = before.savepoint) : Does before after (.insert statement)
  | update {statement : Update} {count : Nat}
      (done : statement.run before.database = .ok (count, after.database))
      (kept : after.savepoint = before.savepoint) : Does before after (.update statement)
  | delete {statement : Delete} {count : Nat}
      (done : statement.run before.database = .ok (count, after.database))
      (kept : after.savepoint = before.savepoint) : Does before after (.delete statement)
  | begin (same : after.database = before.database)
      (saved : after.savepoint = some before.database) : Does before after .begin
  | commit (same : after.database = before.database) (closed : after.savepoint = none) :
      Does before after .commit
  | rollback (saved : before.savepoint = some after.database) (closed : after.savepoint = none) :
      Does before after .rollback

section

variable {α : Type} {change : Database → Except StoreError (α × Database)}
  {action : Action StoreError α}

def Performs (action : Action StoreError α) (change : Database → Except StoreError (α × Database)) :
    Prop :=
  ∀ connection, ∃ log, execute action connection =
    match change connection.database with
    | .ok (value, database) => (.ok value, { connection with database := database, log := log })
    | .error error => (.error error, { connection with log := log })

theorem performs_perform : Performs (Action.perform change) change := by
  intro connection
  refine ⟨connection.log, ?_⟩
  rw [execute_perform]
  cases change connection.database <;> rfl

theorem performs_note (lines : List String) (performs : Performs action change) :
    Performs (Action.note lines >>= fun _ => action) change := by
  intro connection
  obtain ⟨log, run⟩ := performs { connection with log := connection.log ++ lines }
  exact ⟨log, run⟩

theorem performs_get {action : Connection → Action StoreError α}
    (performs : ∀ connection, Performs (action connection) change) :
    Performs (get >>= action) change :=
  fun connection => performs connection connection

theorem performs_insert (statement : Insert) : Performs (Action.insert statement) statement.run :=
  performs_note _ performs_perform

theorem performs_update (statement : Update) : Performs (Action.update statement) statement.run :=
  performs_get fun _ => performs_note _ performs_perform

theorem performs_delete (statement : Delete) : Performs (Action.delete statement) statement.run :=
  performs_get fun _ => performs_note _ performs_perform

theorem performs_createTable (statement : CreateTable) :
    Performs (Action.createTable statement)
      fun database => (statement.run database).map fun database => ((), database) :=
  performs_note _ performs_perform

theorem Performs.discard (performs : Performs action change) :
    Performs (do let _ ← action) fun database => (change database).map fun outcome => ((), outcome.2) := by
  intro connection
  obtain ⟨log, run⟩ := performs connection
  refine ⟨log, ?_⟩
  rw [execute_bind, run]
  dsimp only
  cases change connection.database <;> rfl

variable {connection after : Connection}

theorem Performs.cases {result : Except StoreError α} (performs : Performs action change)
    (run : execute action connection = (result, after)) :
    after.savepoint = connection.savepoint ∧
      ((∃ value, result = .ok value ∧ change connection.database = .ok (value, after.database)) ∨
        ∃ error, result = .error error ∧ after.database = connection.database) := by
  obtain ⟨log, performed⟩ := performs connection
  rw [performed] at run
  cases changed : change connection.database with
  | error error =>
      rw [changed] at run
      cases run
      exact ⟨rfl, .inr ⟨error, rfl, rfl⟩⟩
  | ok outcome =>
      rw [changed] at run
      cases run
      exact ⟨rfl, .inl ⟨outcome.1, rfl, rfl⟩⟩

theorem Command.does_or_fails {result : Except StoreError Unit} (command : Command)
    (run : execute command.action connection = (result, after)) :
    result = .ok () ∧ command.Does connection after ∨
      ∃ error, result = .error error ∧ after.database = connection.database ∧
        after.savepoint = connection.savepoint := by
  cases command with
  | createTable statement =>
      obtain ⟨kept, ⟨_, rfl, done⟩ | ⟨error, rfl, same⟩⟩ := (performs_createTable statement).cases run
      · obtain ⟨database, done, made⟩ := map_ok done
        cases made
        exact .inl ⟨rfl, .createTable done kept⟩
      · exact .inr ⟨error, rfl, same, kept⟩
  | insert statement =>
      obtain ⟨kept, ⟨_, rfl, done⟩ | ⟨error, rfl, same⟩⟩ := (performs_insert statement).discard.cases run
      · obtain ⟨⟨_, database⟩, done, made⟩ := map_ok done
        cases made
        exact .inl ⟨rfl, .insert done kept⟩
      · exact .inr ⟨error, rfl, same, kept⟩
  | update statement =>
      obtain ⟨kept, ⟨_, rfl, done⟩ | ⟨error, rfl, same⟩⟩ := (performs_update statement).discard.cases run
      · obtain ⟨⟨_, database⟩, done, made⟩ := map_ok done
        cases made
        exact .inl ⟨rfl, .update done kept⟩
      · exact .inr ⟨error, rfl, same, kept⟩
  | delete statement =>
      obtain ⟨kept, ⟨_, rfl, done⟩ | ⟨error, rfl, same⟩⟩ := (performs_delete statement).discard.cases run
      · obtain ⟨⟨_, database⟩, done, made⟩ := map_ok done
        cases made
        exact .inl ⟨rfl, .delete done kept⟩
      · exact .inr ⟨error, rfl, same, kept⟩
  | begin =>
      obtain ⟨database, savepoint, log⟩ := connection
      cases savepoint with
      | none =>
          cases run
          exact .inl ⟨rfl, .begin rfl rfl⟩
      | some saved =>
          cases run
          exact .inr ⟨_, rfl, rfl, rfl⟩
  | commit =>
      obtain ⟨database, savepoint, log⟩ := connection
      cases savepoint with
      | none =>
          cases run
          exact .inr ⟨_, rfl, rfl, rfl⟩
      | some saved =>
          cases run
          exact .inl ⟨rfl, .commit rfl rfl⟩
  | rollback =>
      obtain ⟨database, savepoint, log⟩ := connection
      cases savepoint with
      | none =>
          cases run
          exact .inr ⟨_, rfl, rfl, rfl⟩
      | some saved =>
          cases run
          exact .inl ⟨rfl, .rollback rfl rfl⟩

end

/-! What commands preserve. -/

/-- Each table is one that some statement creates, filled with rows that are as wide as it and keep to its
constraints. -/
structure Database.Sound (created : List CreateTable) (database : Database) : Prop where
  wide : database.Wide
  obeyed : database.Obeyed
  follows : ∀ name table, database.table? name = some table →
    ∃ create ∈ created, create.table = name ∧ table.Follows create

section

variable {created more : List CreateTable} {before after : Database}

theorem Database.sound_empty : Database.empty.Sound created :=
  ⟨nofun, nofun, nofun⟩

theorem Database.Sound.mono (sound : before.Sound created) (within : created ⊆ more) :
    before.Sound more := by
  refine ⟨sound.wide, sound.obeyed, fun name table found => ?_⟩
  obtain ⟨create, member, rest⟩ := sound.follows name table found
  exact ⟨create, within member, rest⟩

theorem Database.Sound.refills (sound : before.Sound created) (filled : Refills before after)
    (wide : before.Wide → after.Wide) : after.Sound created := by
  refine ⟨wide sound.wide, filled.obeyed sound.obeyed, fun name table found => ?_⟩
  have form : before.form? name = some table.form := by
    rw [← filled.form?]
    unfold Database.form?
    rw [found]
    rfl
  obtain ⟨other, found', same⟩ := Option.map_eq_some_iff.mp form
  obtain ⟨create, member, named, follows⟩ := sound.follows name other found'
  have names := (Database.table?_name found').trans (Database.table?_name found).symm
  exact ⟨create, member, named, .of_form names same follows⟩

theorem Database.wide_replace {name : String} {table : Table} {rows : List Row} (next : Int)
    (found : before.table? name = some table)
    (wide : table.Wide → ∀ row ∈ rows, row.length = table.columns.length) :
    before.Wide → (before.replace { table with rows := rows, nextSerial := next }).Wide :=
  (rewrites_replace rows next found wide).wide

theorem length_assign (assignments : List (Nat × Cell)) (row : Row) :
    (Update.assign assignments row).length = row.length := by
  unfold Update.assign
  induction assignments generalizing row with
  | nil => rfl
  | cons assignment rest ih =>
      rw [List.foldl_cons, ih]
      exact List.length_set

theorem update_wide {statement : Update} {count : Nat}
    (run : statement.run before = .ok (count, after)) : before.Wide → after.Wide := by
  obtain ⟨table, here, run⟩ := bind_ok run
  obtain ⟨marks, _, run⟩ := bind_ok run
  obtain ⟨positions, _, run⟩ := bind_ok run
  obtain ⟨_, _, run⟩ := bind_ok run
  cases run
  refine Database.wide_replace table.nextSerial (table_found here) fun wide row member => ?_
  obtain ⟨⟨mark, old⟩, inside, rfl⟩ := List.mem_map.mp member
  have width := wide old (List.of_mem_zip inside).2
  dsimp only
  split
  · rw [length_assign]
    exact width
  · exact width

theorem delete_wide {statement : Delete} {count : Nat}
    (run : statement.run before = .ok (count, after)) : before.Wide → after.Wide := by
  obtain ⟨table, here, run⟩ := bind_ok run
  obtain ⟨marks, _, run⟩ := bind_ok run
  cases run
  refine Database.wide_replace table.nextSerial (table_found here) fun wide row member => ?_
  obtain ⟨⟨mark, old⟩, inside, rfl⟩ := List.mem_map.mp member
  exact wide old (List.of_mem_zip (List.mem_filter.mp inside).1).2

theorem create_sound {statement : CreateTable} (sound : before.Sound created)
    (run : statement.run before = .ok after) : after.Sound (created ++ [statement]) := by
  have each : ∀ name table, after.table? name = some table →
      before.table? name = some table ∨
        statement.table = name ∧ table.Follows statement ∧ table.rows = [] :=
    fun _ _ found => (createTable_follows run found).imp_right And.right
  refine ⟨fun name table found => ?_, fun name table found => ?_, fun name table found => ?_⟩
  · rcases each name table found with here | ⟨_, _, empty⟩
    · exact sound.wide name table here
    · intro row member
      rw [empty] at member
      cases member
  · rcases each name table found with here | ⟨_, _, empty⟩
    · exact sound.obeyed name table here
    · rw [empty, checkUnique_iff]
      exact fun _ _ => List.nodup_nil
  · rcases each name table found with here | ⟨named, follows, _⟩
    · obtain ⟨create, member, rest⟩ := sound.follows name table here
      exact ⟨create, List.mem_append_left _ member, rest⟩
    · exact ⟨statement, List.mem_append_right _ (List.mem_singleton.mpr rfl), named, follows⟩

theorem Command.Does.sound {command : Command} {connection next : Connection}
    (does : command.Does connection next) (sound : connection.database.Sound created)
    (saved : ∀ database, connection.savepoint = some database → database.Sound created) :
    next.database.Sound (created ++ command.creation?.toList) ∧
      ∀ database, next.savepoint = some database →
        database.Sound (created ++ command.creation?.toList) := by
  have grown {database : Database} (sound : database.Sound created) :
      database.Sound (created ++ command.creation?.toList) :=
    sound.mono (List.subset_append_left _ _)
  have kept (same : next.savepoint = connection.savepoint) : ∀ database,
      next.savepoint = some database → database.Sound (created ++ command.creation?.toList) :=
    fun database here => grown (saved database (same ▸ here))
  cases does with
  | createTable done same => exact ⟨create_sound sound done, kept same⟩
  | insert done same =>
      obtain ⟨_, _, _, changed, _⟩ := insert_run done
      exact ⟨grown (sound.refills (insert_refills done) changed.wide), kept same⟩
  | update done same => exact ⟨grown (sound.refills (update_refills done) (update_wide done)), kept same⟩
  | delete done same => exact ⟨grown (sound.refills (delete_refills done) (delete_wide done)), kept same⟩
  | begin same opened =>
      refine ⟨grown (same ▸ sound), fun database here => ?_⟩
      rw [opened] at here
      cases here
      exact grown sound
  | commit same closed => exact ⟨grown (same ▸ sound), fun _ here => by rw [closed] at here; cases here⟩
  | rollback here closed =>
      exact ⟨grown (saved _ here), fun _ here => by rw [closed] at here; cases here⟩

end

/-- What holds of the database of a connection, and of the state that its transaction may go back to. -/
structure Connection.Upholds (holds : Database → Prop) (connection : Connection) : Prop where
  database : holds connection.database
  savepoint : ∀ database, connection.savepoint = some database → holds database

/-- What holds of the database, and of all states that sessions may go back to. -/
structure Sessions.Uphold (holds : Database → Prop) (sessions : Sessions) : Prop where
  database : holds sessions.database
  savepoints : ∀ entry ∈ sessions.savepoints, holds entry.2

namespace Sessions

section

variable {ε α : Type} {sessions : Sessions} {holds after : Database → Prop}

theorem run_eq (sessions : Sessions) (number : Nat) (action : Action ε α) :
    sessions.run number action =
      let (result, connection) := execute action (sessions.connection number)
      ((result, connection.log), ⟨connection.database,
        (connection.savepoint.toList.map fun database => (number, database)) ++
          sessions.savepoints.filter fun entry => entry.1 ≠ number⟩) := by
  unfold run execute
  rcases (ExceptT.run action).run (sessions.connection number) with ⟨result, connection⟩
  cases saved : connection.savepoint <;> simp [saved]

theorem Uphold.connection (uphold : sessions.Uphold holds) (number : Nat) :
    (sessions.connection number).Upholds holds := by
  refine ⟨uphold.database, fun database found => ?_⟩
  obtain ⟨_, _, split, _⟩ := List.lookup_eq_some_iff.mp found
  exact uphold.savepoints (number, database) (split ▸ List.mem_append_right _ List.mem_cons_self)

/-- What the action of one session sees to holds of the states that other sessions go back to, if it holds of
all that was there before. -/
theorem Uphold.run (uphold : sessions.Uphold holds) (grown : ∀ database, holds database → after database)
    {number : Nat} {action : Action ε α}
    (kept : (execute action (sessions.connection number)).2.Upholds after) :
    (sessions.run number action).2.Uphold after := by
  rw [run_eq]
  obtain ⟨here, own⟩ := kept
  refine ⟨here, fun entry member => ?_⟩
  rcases List.mem_append.mp member with mine | others
  · obtain ⟨database, found, rfl⟩ := List.mem_map.mp mine
    exact own database (Option.mem_toList.mp found)
  · exact grown _ (uphold.savepoints entry (List.mem_filter.mp others).1)

end

variable {sessions : Sessions} {created : List CreateTable}

theorem perform_eq (sessions : Sessions) (number : Nat) (command : Command) :
    (sessions.perform number command).1 =
        (execute command.action (sessions.connection number)).1 ∧
      (sessions.perform number command).2 = (sessions.run number command.action).2 ∧
      (sessions.perform number command).2.database =
        (execute command.action (sessions.connection number)).2.database := by
  unfold perform
  rw [run_eq]
  exact ⟨rfl, rfl, rfl⟩

theorem perform_error {number : Nat} {command : Command} {error : StoreError}
    (failed : (sessions.perform number command).1 = .error error) :
    (sessions.perform number command).2.database = sessions.database := by
  obtain ⟨answer, _, database⟩ := perform_eq sessions number command
  rw [answer] at failed
  rw [database]
  rcases run : execute command.action (sessions.connection number) with ⟨result, connection⟩
  rw [run] at failed
  rcases command.does_or_fails run with ⟨rfl, _⟩ | ⟨_, _, same, _⟩
  · cases failed
  · exact same

theorem sound_perform (sound : sessions.Uphold (Database.Sound created)) (number : Nat)
    (command : Command) :
    (sessions.perform number command).2.Uphold
      (Database.Sound (created ++ command.creation?.toList)) := by
  have grown (database : Database) (sound : database.Sound created) :
      database.Sound (created ++ command.creation?.toList) :=
    sound.mono (List.subset_append_left _ _)
  obtain ⟨here, saved⟩ := sound.connection number
  rw [(perform_eq sessions number command).2.1]
  refine sound.run grown ?_
  rcases run : execute command.action (sessions.connection number) with ⟨result, connection⟩
  rcases command.does_or_fails run with ⟨_, does⟩ | ⟨_, _, same, kept⟩
  · obtain ⟨database, savepoint⟩ := does.sound here saved
    exact ⟨database, savepoint⟩
  · exact ⟨grown _ (same ▸ here), fun database found => grown _ (saved database (kept ▸ found))⟩

theorem sound_afterAll (sound : sessions.Uphold (Database.Sound created))
    (commands : List (Nat × Command)) :
    (sessions.afterAll commands).Uphold (Database.Sound (created ++ creations commands)) := by
  induction commands generalizing sessions created with
  | nil => exact (List.append_nil created).symm ▸ sound
  | cons step rest ih =>
      have later := ih (sound_perform sound step.1 step.2)
      have same : creations (step :: rest) = step.2.creation?.toList ++ creations rest := by
        unfold creations
        cases made : step.2.creation? <;> simp [made]
      rw [same, ← List.append_assoc]
      exact later

end Sessions

def Record.SameKey (columns : List String) (record other : Record) : Prop :=
  ∀ column ∈ columns, record column = other column ∧ record column ≠ .null

/-- A primary key or another constraint that no two rows may agree in. -/
def Constraint.IsUnique (constraint : Constraint) : Prop :=
  constraint.kind = .primaryKey ∨ constraint.kind = .unique

/-- A constraint names columns of a table, and no two rows hold the same values in all of them unless one of
the values is null. -/
structure Table.Obeys (table : Table) (constraint : Constraint) : Prop where
  named : ∀ column ∈ constraint.columns, table.Has column
  apart : table.rows.Pairwise fun row other =>
    ¬(table.record row).SameKey constraint.columns (table.record other)

theorem KeyUnique.pairwise {columns : List String} {records : List Record}
    (unique : KeyUnique columns records) :
    records.Pairwise fun record other => ¬record.SameKey columns other := by
  unfold KeyUnique List.Nodup at unique
  rw [List.pairwise_filterMap] at unique
  refine unique.imp fun {record other} apart same => ?_
  have values : columns.map record = columns.map other :=
    List.map_congr_left fun column member => (same column member).1
  have given : (columns.map record).any Cell.isNull = false := by
    rw [List.any_eq_false]
    intro cell member
    obtain ⟨column, inside, rfl⟩ := List.mem_map.mp member
    have present := (same column inside).2
    cases here : record column with
    | null => exact absurd here present
    | _ => nofun
  have key : record.key? columns = some (columns.map record) := if_neg (Bool.eq_false_iff.mp given)
  have key' : other.key? columns = some (columns.map record) := by
    rw [values]
    exact if_neg (values ▸ Bool.eq_false_iff.mp given)
  exact apart _ key _ key' rfl

theorem has_of_position {table : Table} {column : String} {position : Nat}
    (found : table.position column = .ok position) : table.Has column := by
  unfold Table.position at found
  split at found
  · rename_i place here
    have some_here : (table.columns.findIdx? fun definition => definition.name = column).isSome := by
      rw [here]
      rfl
    obtain ⟨definition, member, named⟩ := List.any_eq_true.mp (List.findIdx?_isSome ▸ some_here)
    exact ⟨definition, member, of_decide_eq_true named⟩
  · cases found

theorem Database.Sound.obeys {created : List CreateTable} {database : Database}
    (sound : database.Sound created) {name : String} {table : Table}
    (found : database.table? name = some table) :
    ∃ create ∈ created, create.table = name ∧ table.columns = create.columns ∧
      ∀ constraint ∈ create.constraints, constraint.IsUnique → table.Obeys constraint := by
  obtain ⟨create, member, named, columns, unique⟩ := sound.follows name table found
  refine ⟨create, member, named, columns, fun constraint inside kind => ?_⟩
  have key : constraint.columns ∈ create.keys := by
    refine List.mem_filterMap.mpr ⟨constraint, inside, ?_⟩
    unfold Constraint.key?
    rcases kind with kind | kind <;> rw [kind]
  obtain ⟨positions, _, placed⟩ := mem_of_forall₂ unique key
  refine ⟨fun column among => ?_, ?_⟩
  · obtain ⟨position, _, here⟩ := mem_of_forall₂ (mapM_forall₂ placed) among
    exact has_of_position here
  · have apart := (checkUnique_records unique).mp (sound.obeyed name table found) _ key
    exact List.pairwise_map.mp apart.pairwise

end Store

end ResourceServer
