import ResourceServer.Proofs.Atomicity
import ResourceServer.Proofs.Sessions

/-! Operations of several sessions on stored resources, and what they keep because every statement keeps it. -/

namespace ResourceServer

open ResourceServer.Store ResourceServer.Mapping
open ResourceServer.Filter (Predicate)

namespace Mapping

/-- An operation on the stored resources, or a step of the transaction of a session. -/
inductive SessionOperation
  | query (type : EntityType) (query : Query)
  | count (type : EntityType) (predicate : Predicate)
  | get (type : EntityType) (ids : List String)
  | loadRelation (type : EntityType) (relationship : Relationship) (owners : List String)
  | insert (type : EntityType) (values : Keyed Value)
  | update (type : EntityType) (id : String) (values : Keyed Value)
  | delete (type : EntityType) (id : String)
  | setToOne (type : EntityType) (relationship : Relationship) (owner : String) (target : Option String)
  | addToMany (type : EntityType) (relationship : Relationship) (owner : String) (targets : List String)
  | removeFromMany (type : EntityType) (relationship : Relationship) (owner : String)
      (targets : List String)
  | begin
  | commit
  | rollback

namespace SessionOperation

/-- An operation on the connection of its session, whatever it answers. -/
def action (schema : Schema) : SessionOperation → MappingAction Unit
  | .query type wanted => do let _ ← Mapping.query schema type wanted
  | .count type predicate => do let _ ← Mapping.count schema type predicate
  | .get type ids => do let _ ← Mapping.get type ids
  | .loadRelation type relationship owners => do
    let _ ← Mapping.loadRelation schema type relationship owners
  | .insert type values => do let _ ← Mapping.insert type values
  | .update type id values => do let _ ← Mapping.update type id values
  | .delete type id => do let _ ← Mapping.delete schema type id
  | .setToOne type relationship owner target => Mapping.setToOne schema type relationship owner target
  | .addToMany type relationship owner targets => Mapping.addToMany schema type relationship owner targets
  | .removeFromMany type relationship owner targets =>
    Mapping.removeFromMany schema type relationship owner targets
  | .begin => statement Action.begin
  | .commit => statement Action.commit
  | .rollback => statement Action.rollback

end SessionOperation

end Mapping

namespace Store.Sessions

def operate (sessions : Sessions) (schema : Schema) (number : Nat) (operation : SessionOperation) :
    Except MappingError Unit × Sessions :=
  let outcome := sessions.run number (operation.action schema)
  (outcome.1.1, outcome.2)

/-- The sessions after some operations, each of the session with its number and whatever comes of it. -/
def afterOperations (sessions : Sessions) (schema : Schema) (operations : List (Nat × SessionOperation)) :
    Sessions :=
  operations.foldl (fun sessions step => (sessions.operate schema step.1 step.2).2) sessions

/-- Sessions on a fresh database in which one of them has created the tables of a schema. -/
def Opened (schema : Schema) (sessions : Sessions) : Prop :=
  ∃ number log, fresh.run number (register schema) = ((.ok (), log), sessions)

theorem operate_eq (sessions : Sessions) (schema : Schema) (number : Nat) (operation : SessionOperation) :
    (sessions.operate schema number operation).1 =
        (execute (operation.action schema) (sessions.connection number)).1 ∧
      (sessions.operate schema number operation).2 =
        (sessions.run number (operation.action schema)).2 := by
  unfold operate
  rw [run_eq]
  exact ⟨rfl, rfl⟩

end Store.Sessions

section

variable {schema : Schema} {sessions : Sessions}

theorem createTable_keeps (create : CreateTable) :
    Keeps Connection.savepoint (Action.createTable create) :=
  keeps_bind (keeps_modify fun _ => rfl) fun _ => perform_keeps _

theorem register_keeps (schema : Schema) : Keeps Connection.savepoint (register schema) :=
  keeps_bind (keeps_ofExcept _) fun _ => keeps_bind (keeps_ofExcept _) fun _ =>
    keeps_forM fun _ => keeps_mapError _ (createTable_keeps _)

theorem Store.Sessions.Opened.registered (opened : sessions.Opened schema) :
    ∃ connection, execute (register schema) ⟨Database.empty, none, []⟩ = (.ok (), connection) ∧
      sessions = ⟨connection.database, []⟩ := by
  obtain ⟨number, log, run⟩ := opened
  rw [Sessions.run_eq] at run
  have start : Sessions.fresh.connection number = ⟨Database.empty, none, []⟩ := rfl
  rw [start] at run
  have kept := (register_keeps schema).same ⟨Database.empty, none, []⟩
  rcases done : execute (register schema) ⟨Database.empty, none, []⟩ with ⟨result, connection⟩
  rw [done] at run kept
  dsimp only at run kept
  rw [kept] at run
  cases run
  exact ⟨connection, rfl, rfl⟩

end

/-- What holds of a database after any statement on resources if it holds before. -/
structure Lasting (holds : Database → Prop) : Prop where
  insert {statement : Insert} {before after : Database} {returned : List Cell} :
    statement.run before = .ok (returned, after) → holds before → holds after
  update {statement : Update} {before after : Database} {count : Nat} :
    statement.run before = .ok (count, after) → holds before → holds after
  delete {statement : Delete} {before after : Database} {count : Nat} :
    statement.run before = .ok (count, after) → holds before → holds after

/-- Whatever comes of an action, what holds of the database holds after it. -/
structure Lasts {ε α : Type} (holds : Database → Prop) (action : Action ε α) : Prop where
  kept : ∀ connection : Connection, holds connection.database →
    holds (execute action connection).2.database

section

variable {ε δ α β : Type} {holds : Database → Prop}

theorem lasts_pure (value : α) : Lasts holds (pure value : Action ε α) :=
  ⟨fun _ start => start⟩

theorem lasts_throw (error : ε) : Lasts holds (throw error : Action ε α) :=
  ⟨fun _ start => start⟩

theorem lasts_ofExcept (result : Except ε α) : Lasts holds (Action.ofExcept result) := by
  refine ⟨fun connection start => ?_⟩
  rw [execute_ofExcept]
  exact start

theorem lasts_bind {action : Action ε α} {next : α → Action ε β} (first : Lasts holds action)
    (second : ∀ value, Lasts holds (next value)) : Lasts holds (action >>= next) := by
  refine ⟨fun connection start => ?_⟩
  have middle := first.kept connection start
  rw [execute_bind]
  rcases outcome : execute action connection with ⟨result, reached⟩
  rw [outcome] at middle
  cases result with
  | error error => exact middle
  | ok value => exact (second value).kept reached middle

theorem lasts_guard {failed : Prop} [Decidable failed] {error : ε} {next : PUnit → Action ε β}
    (rest : Lasts holds (next ⟨⟩)) :
    Lasts holds (if failed then throw error >>= next else next ⟨⟩) := by
  split
  · exact ⟨fun _ start => start⟩
  · exact rest

theorem lasts_forM {items : List α} {step : α → Action ε PUnit}
    (each : ∀ item, Lasts holds (step item)) : Lasts holds (items.forM step) := by
  induction items with
  | nil => exact lasts_pure _
  | cons item rest ih => exact lasts_bind (each item) fun _ => ih

theorem lasts_mapError {action : Action ε α} (convert : ε → δ) (lasts : Lasts holds action) :
    Lasts holds (action.mapError convert) := by
  refine ⟨fun connection start => ?_⟩
  rw [execute_mapError]
  exact lasts.kept connection start

theorem lasts_of_stored {action : Action ε α} (kept : Keeps Connection.stored action) :
    Lasts holds action := by
  refine ⟨fun connection start => ?_⟩
  have same : (execute action connection).2.database = connection.database :=
    congrArg Prod.fst (kept.same connection)
  rw [same]
  exact start

theorem lasts_perform {action : Action StoreError α}
    {change : Database → Except StoreError (α × Database)} (performs : Performs action change)
    (kept : ∀ {before after value}, change before = .ok (value, after) → holds before → holds after) :
    Lasts holds action := by
  refine ⟨fun connection start => ?_⟩
  obtain ⟨log, run⟩ := performs connection
  rw [run]
  cases changed : change connection.database with
  | error error => exact start
  | ok outcome => exact kept changed start

section

variable (lasting : Lasting holds)
include lasting

theorem insert_lasts (insert : Store.Insert) : Lasts holds (statement (Action.insert insert)) :=
  lasts_mapError _ (lasts_perform (performs_insert insert) lasting.insert)

theorem update_lasts (update : Store.Update) : Lasts holds (statement (Action.update update)) :=
  lasts_mapError _ (lasts_perform (performs_update update) lasting.update)

theorem delete_lasts (delete : Store.Delete) : Lasts holds (statement (Action.delete delete)) :=
  lasts_mapError _ (lasts_perform (performs_delete delete) lasting.delete)

theorem clearKey_lasts (table column : String) (cell : Cell) :
    Lasts holds (clearKey table column cell) :=
  lasts_bind (update_lasts lasting _) fun _ => lasts_pure _

theorem deletePairs_lasts (table column : String) (cell : Cell) :
    Lasts holds (deletePairs table column cell) :=
  lasts_bind (delete_lasts lasting _) fun _ => lasts_pure _

theorem setColumn_lasts (table column : String) (cell : Cell) (filter : Clause) :
    Lasts holds (setColumn table column cell filter) :=
  lasts_bind (update_lasts lasting _) fun _ => lasts_pure _

theorem insertPairs_lasts (table ownerColumn targetColumn : String) (pairs : List (Cell × Cell)) :
    Lasts holds (insertPairs table ownerColumn targetColumn pairs) :=
  lasts_bind (insert_lasts lasting _) fun _ => lasts_pure _

theorem insertResource_lasts (type : EntityType) (values : Keyed Value) :
    Lasts holds (Mapping.insert type values) := by
  have readsBack (id : String) : Lasts holds (readBack type id) := by
    refine lasts_bind (lasts_of_stored (get_keeps ..)) fun found => ?_
    split
    · exact lasts_pure _
    · exact lasts_throw _
  refine lasts_bind (lasts_ofExcept _) fun _ => lasts_guard
    (lasts_bind (insert_lasts lasting _) fun returned => ?_)
  dsimp only
  split
  · exact lasts_bind (lasts_pure _) fun _ => readsBack _
  · rw [map_eq_pure_bind]
    exact lasts_bind (lasts_bind (lasts_ofExcept _) fun _ => lasts_pure _) fun _ => readsBack _
  · exact lasts_bind (lasts_throw _) fun _ => readsBack _

theorem updateResource_lasts (type : EntityType) (id : String) (values : Keyed Value) :
    Lasts holds (Mapping.update type id values) := by
  refine lasts_bind (lasts_ofExcept _) fun _ => ?_
  split
  · exact lasts_bind (lasts_of_stored (get_keeps ..)) fun _ => lasts_pure _
  · split
    · exact lasts_pure _
    · exact lasts_bind (update_lasts lasting _) fun _ => lasts_pure _

theorem deleteResource_lasts (schema : Schema) (type : EntityType) (id : String) :
    Lasts holds (Mapping.delete schema type id) := by
  unfold Mapping.delete
  split
  · exact lasts_pure _
  · refine lasts_bind (lasts_forM fun relationship => ?_) fun _ =>
      lasts_bind (lasts_forM fun owner => lasts_forM fun relationship => ?_) fun _ =>
        lasts_bind (delete_lasts lasting _) fun _ => lasts_pure _
    · unfold unlinkOwner
      split
      · exact lasts_pure _
      · exact lasts_bind (lasts_ofExcept _) fun _ => clearKey_lasts lasting ..
      · exact deletePairs_lasts lasting ..
    · unfold unlinkTarget
      split
      · exact clearKey_lasts lasting ..
      · exact lasts_pure _
      · exact deletePairs_lasts lasting ..

theorem setToOne_lasts (schema : Schema) (type : EntityType) (relationship : Relationship)
    (owner : String) (target : Option String) :
    Lasts holds (setToOne schema type relationship owner target) := by
  unfold setToOne
  refine lasts_guard (lasts_bind (lasts_ofExcept _) fun found =>
    lasts_bind (lasts_ofExcept _) fun _ => lasts_bind (lasts_ofExcept _) fun _ => ?_)
  split
  · exact setColumn_lasts lasting ..
  · refine lasts_bind (clearKey_lasts lasting ..) fun _ => ?_
    split
    · exact setColumn_lasts lasting ..
    · exact lasts_pure _
  · refine lasts_bind (deletePairs_lasts lasting ..) fun _ => ?_
    split
    · exact insertPairs_lasts lasting ..
    · exact lasts_pure _

theorem addToMany_lasts (schema : Schema) (type : EntityType) (relationship : Relationship)
    (owner : String) (targets : List String) :
    Lasts holds (addToMany schema type relationship owner targets) := by
  refine lasts_bind (lasts_ofExcept _) fun found => lasts_bind (lasts_ofExcept _) fun _ => ?_
  dsimp only
  split
  · exact lasts_pure _
  split
  · exact setColumn_lasts lasting ..
  · refine lasts_bind (lasts_of_stored (selectAll_keeps _)) fun rows => ?_
    split
    · exact lasts_pure _
    · exact insertPairs_lasts lasting ..
  · exact lasts_throw _

theorem removeFromMany_lasts (schema : Schema) (type : EntityType) (relationship : Relationship)
    (owner : String) (targets : List String) :
    Lasts holds (Mapping.removeFromMany schema type relationship owner targets) := by
  refine lasts_bind (lasts_ofExcept _) fun found => lasts_bind (lasts_ofExcept _) fun _ => ?_
  dsimp only
  split
  · exact lasts_pure _
  split
  · exact setColumn_lasts lasting ..
  · exact lasts_bind (delete_lasts lasting _) fun _ => lasts_pure _
  · exact lasts_throw _

end

end

namespace Store

abbrev Layout := String → Option (List ColumnDefinition)

/-- A database has the tables of a layout, with rows as wide as they. -/
structure Layout.Fits (layout : Layout) (database : Database) : Prop where
  columns : database.columns? = layout
  wide : database.Wide

variable {layout : Layout}

theorem Layout.Fits.refills {database after : Database} (fits : layout.Fits database)
    (filled : Refills database after) (wide : database.Wide → after.Wide) : layout.Fits after := by
  refine ⟨?_, wide fits.wide⟩
  rw [← fits.columns]
  funext name
  rw [Database.columns?_eq, Database.columns?_eq, filled.form?]

theorem fits_lasting (layout : Layout) : Lasting layout.Fits where
  insert run fits := by
    obtain ⟨_, _, _, changed, _⟩ := insert_run run
    exact fits.refills (insert_refills run) changed.wide
  update run fits := fits.refills (update_refills run) (update_wide run)
  delete run fits := fits.refills (delete_refills run) (delete_wide run)

end Store

/-! Transactions go back to states where the same held. -/

section

variable {holds : Database → Prop}

theorem upholds_of_lasts {α : Type} {action : MappingAction α} (lasts : Lasts holds action)
    (closed : Keeps Connection.savepoint action) {connection : Connection}
    (start : connection.Upholds holds) : (execute action connection).2.Upholds holds := by
  refine ⟨lasts.kept connection start.database, fun database saved => ?_⟩
  rw [closed.same connection] at saved
  exact start.savepoint database saved

theorem begin_upholds {connection : Connection} (start : connection.Upholds holds) :
    (execute (statement Action.begin) connection).2.Upholds holds := by
  obtain ⟨database, savepoint, log⟩ := connection
  cases savepoint with
  | some other => exact ⟨start.database, start.savepoint⟩
  | none =>
      refine ⟨start.database, fun other same => ?_⟩
      cases same
      exact start.database

theorem commit_upholds {connection : Connection} (start : connection.Upholds holds) :
    (execute (statement Action.commit) connection).2.Upholds holds := by
  obtain ⟨database, savepoint, log⟩ := connection
  cases savepoint with
  | some other => exact ⟨start.database, nofun⟩
  | none => exact ⟨start.database, start.savepoint⟩

theorem rollback_upholds {connection : Connection} (start : connection.Upholds holds) :
    (execute (statement Action.rollback) connection).2.Upholds holds := by
  obtain ⟨database, savepoint, log⟩ := connection
  cases savepoint with
  | some other => exact ⟨start.savepoint other rfl, nofun⟩
  | none => exact ⟨start.database, start.savepoint⟩

theorem operation_upholds (lasting : Lasting holds) (schema : Schema) (operation : SessionOperation)
    {connection : Connection} (start : connection.Upholds holds) :
    (execute (operation.action schema) connection).2.Upholds holds := by
  have discard {α : Type} {action : MappingAction α} (lasts : Lasts holds action)
      (closed : Keeps Connection.savepoint action) :
      (execute (do let _ ← action) connection).2.Upholds holds :=
    upholds_of_lasts (lasts_bind lasts fun _ => lasts_pure _) (keeps_bind closed fun _ => keeps_pure _)
      start
  have reading {α : Type} {action : MappingAction α} (kept : Keeps Connection.stored action) :
      (execute (do let _ ← action) connection).2.Upholds holds :=
    discard (lasts_of_stored kept) (savepoint_of_stored kept)
  cases operation with
  | query type wanted => exact reading (query_keeps ..)
  | count type predicate => exact reading (count_keeps ..)
  | get type ids => exact reading (get_keeps ..)
  | loadRelation type relationship owners => exact reading (loadRelation_keeps ..)
  | insert type values => exact discard (insertResource_lasts lasting ..) (insert_keeps ..)
  | update type id values => exact discard (updateResource_lasts lasting ..) (update_keeps ..)
  | delete type id => exact discard (deleteResource_lasts lasting ..) (delete_keeps ..)
  | setToOne type relationship owner target =>
      exact upholds_of_lasts (setToOne_lasts lasting ..) (setToOne_keeps ..) start
  | addToMany type relationship owner targets =>
      exact upholds_of_lasts (addToMany_lasts lasting ..) (addToMany_keeps ..) start
  | removeFromMany type relationship owner targets =>
      exact upholds_of_lasts (removeFromMany_lasts lasting ..) (removeFromMany_keeps ..) start
  | begin => exact begin_upholds start
  | commit => exact commit_upholds start
  | rollback => exact rollback_upholds start

/-- What every statement keeps holds after any operations of any sessions, whatever comes of them. -/
theorem Store.Sessions.Uphold.afterOperations {sessions : Sessions} (uphold : sessions.Uphold holds)
    (lasting : Lasting holds) (schema : Schema) (operations : List (Nat × SessionOperation)) :
    (sessions.afterOperations schema operations).Uphold holds := by
  induction operations generalizing sessions with
  | nil => exact uphold
  | cons step rest ih =>
      refine ih ?_
      dsimp only
      rw [(sessions.operate_eq schema step.1 step.2).2]
      exact uphold.run (fun _ kept => kept)
        (operation_upholds lasting schema step.2 (uphold.connection step.1))

end

end ResourceServer
