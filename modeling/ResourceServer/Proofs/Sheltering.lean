import ResourceServer.Proofs.Closedness
import ResourceServer.Proofs.Filtering
import ResourceServer.Proofs.Operations

/-! Operations on the stored resources of a schema: whatever comes of one, it does not lack a table or a
column. -/

namespace ResourceServer

open ResourceServer.Store ResourceServer.Mapping
open ResourceServer.Filter (Predicate)

namespace Mapping

/-- An operation is on a type of a schema, and on a relationship that the type has. -/
def SessionOperation.Known (schema : Schema) : SessionOperation → Prop
  | SessionOperation.query type _ | .count type _ | .get type _ | .insert type _ | .update type _ _
  | .delete type _ => type ∈ schema.types
  | .loadRelation type relationship _ | .setToOne type relationship _ _
  | .addToMany type relationship _ _ | .removeFromMany type relationship _ _ =>
    type ∈ schema.types ∧ relationship ∈ type.relationships
  | .begin | .commit | .rollback => True

def MappingError.Missing : MappingError → Prop
  | .store error => error.Missing
  | _ => False

end Mapping

/-- Begun on a layout, an action lacks no table and no column, and it leaves the layout as it is. -/
structure Sheltered {α : Type} (layout : Layout) (action : MappingAction α) : Prop where
  outcome : ∀ connection : Connection, connection.Upholds layout.Fits →
    (∀ error, (execute action connection).1 = .error error → ¬error.Missing) ∧
      (execute action connection).2.Upholds layout.Fits

section

variable {α β : Type} {layout : Layout}

def Furnished (result : Except MappingError α) : Prop :=
  ∀ error, result = .error error → ¬error.Missing

theorem furnished_ok (value : α) : Furnished (.ok value) := by
  intro _ same
  cases same

theorem furnished_error {error : MappingError} (other : ¬error.Missing) :
    Furnished (.error error : Except MappingError α) := by
  intro _ same
  cases same
  exact other

theorem sheltered_pure (value : α) : Sheltered layout (pure value : MappingAction α) :=
  ⟨fun _ holds => ⟨furnished_ok value, holds⟩⟩

theorem sheltered_throw {error : MappingError} (other : ¬error.Missing) :
    Sheltered layout (throw error : MappingAction α) :=
  ⟨fun _ holds => ⟨furnished_error other, holds⟩⟩

theorem sheltered_bind {action : MappingAction α} {next : α → MappingAction β}
    (first : Sheltered layout action) (second : ∀ value, Sheltered layout (next value)) :
    Sheltered layout (action >>= next) := by
  refine ⟨fun connection holds => ?_⟩
  have begun := first.outcome connection holds
  rw [execute_bind]
  rcases outcome : execute action connection with ⟨result, middle⟩
  rw [outcome] at begun
  cases result with
  | error error => exact ⟨fun other same => begun.1 other (by cases same; rfl), begun.2⟩
  | ok value => exact (second value).outcome middle begun.2

theorem sheltered_ofExcept {result : Except MappingError α} (furnished : Furnished result) :
    Sheltered layout (Action.ofExcept result) := by
  refine ⟨fun connection holds => ?_⟩
  rw [execute_ofExcept]
  exact ⟨furnished, holds⟩

theorem sheltered_given {result : Except MappingError α} {next : α → MappingAction β}
    (furnished : Furnished result) (second : ∀ value, result = .ok value → Sheltered layout (next value)) :
    Sheltered layout (Action.ofExcept result >>= next) := by
  cases result with
  | error error => exact sheltered_throw (furnished error rfl)
  | ok value => exact second value rfl

theorem sheltered_guard {failed : Prop} [Decidable failed] {error : MappingError}
    {next : PUnit → MappingAction β} (other : ¬error.Missing) (rest : Sheltered layout (next ⟨⟩)) :
    Sheltered layout (if failed then throw error >>= next else next ⟨⟩) := by
  split
  · exact sheltered_throw other
  · exact rest

theorem sheltered_forM {items : List α} {step : α → MappingAction PUnit}
    (each : ∀ item ∈ items, Sheltered layout (step item)) : Sheltered layout (items.forM step) := by
  induction items with
  | nil => exact sheltered_pure _
  | cons item rest ih =>
      obtain ⟨first, others⟩ := List.forall_mem_cons.mp each
      exact sheltered_bind first fun _ => ih others

theorem furnished_mapError {result : Except StoreError α} (finds : Finds result) :
    Furnished (result.mapError .store) := by
  intro error failed
  cases result with
  | ok value => cases failed
  | error other =>
      cases failed
      exact finds other rfl

theorem sheltered_statement {action : Action StoreError α}
    {change : Database → Except StoreError (α × Database)} (performs : Performs action change)
    (finds : ∀ database, layout.Fits database → Finds (change database))
    (kept : ∀ {database value after}, change database = .ok (value, after) →
      layout.Fits database → layout.Fits after) : Sheltered layout (statement action) := by
  refine ⟨fun connection holds => ?_⟩
  have found := finds connection.database holds.database
  obtain ⟨log, run⟩ := performs connection
  unfold statement
  rw [execute_mapError, run]
  cases changed : change connection.database with
  | error error =>
      dsimp only
      exact ⟨furnished_error (found error changed), holds.database, holds.savepoint⟩
  | ok outcome =>
      dsimp only
      exact ⟨furnished_ok _, kept changed holds.database, holds.savepoint⟩

theorem sheltered_update {update : Update} (closed : update.Closed layout) :
    Sheltered layout (statement (Action.update update)) :=
  sheltered_statement (performs_update update) (fun _ fits => closed.finds fits) (fits_lasting layout).update

theorem sheltered_delete {delete : Delete} (closed : delete.Closed layout) :
    Sheltered layout (statement (Action.delete delete)) :=
  sheltered_statement (performs_delete delete) (fun _ fits => closed.finds fits) (fits_lasting layout).delete

theorem sheltered_insert {insert : Insert} (closed : insert.Closed layout) :
    Sheltered layout (statement (Action.insert insert)) :=
  sheltered_statement (performs_insert insert) (fun _ fits => closed.finds fits) (fits_lasting layout).insert

theorem sheltered_rows {select : Select} (closed : select.Closed layout)
    {next : List (Except StoreError Row) → MappingAction α}
    (second : ∀ rows, (∀ row ∈ rows, Finds row) → Sheltered layout (next rows)) :
    Sheltered layout (statement (Action.select select) >>= next) := by
  refine ⟨fun connection holds => ?_⟩
  obtain ⟨finds, each⟩ := closed.finds holds.database
  have same : (execute (statement (Action.select select)) connection).2.stored = connection.stored :=
    (keeps_mapError MappingError.store (select_keeps select)).same connection
  obtain ⟨database, savepoint⟩ := Prod.mk.inj same
  have kept : (execute (statement (Action.select select)) connection).2.Upholds layout.Fits :=
    ⟨database ▸ holds.database, savepoint ▸ holds.savepoint⟩
  unfold statement at kept ⊢
  rw [execute_mapError] at kept
  rw [execute_bind, execute_mapError, execute_select]
  cases ran : select.run connection.database with
  | error error => exact ⟨furnished_error (finds error ran), kept⟩
  | ok rows => exact (second rows (each rows ran)).outcome _ kept

theorem sheltered_selectAll {select : Select} (closed : select.Closed layout) :
    Sheltered layout (selectAll select) :=
  sheltered_rows closed fun _ each => sheltered_ofExcept (furnished_mapError (finds_mapM each))

theorem finds_onlyRow {rows : List (Except StoreError Row)} (each : ∀ row ∈ rows, Finds row) :
    Finds (Select.onlyRow rows) := by
  unfold Select.onlyRow
  refine finds_bind ?_ fun row _ => ?_
  · unfold Select.onlyRow?
    split
    · exact finds_ok _
    · exact finds_map _ (each _ List.mem_cons_self)
    · exact finds_error id
  · split
    · exact finds_ok _
    · exact finds_error id

end

/-! Results that do not depend on tables. -/

section

variable {α β : Type}

theorem furnished_bind {result : Except MappingError α} {next : α → Except MappingError β}
    (first : Furnished result) (second : ∀ value, Furnished (next value)) :
    Furnished (result >>= next) := by
  cases result with
  | error error =>
      intro _ same
      cases same
      exact first error rfl
  | ok value => exact second value

theorem furnished_map {result : Except MappingError α} (change : α → β) (furnished : Furnished result) :
    Furnished (result.map change) := by
  cases result with
  | error error =>
      intro _ same
      cases same
      exact furnished error rfl
  | ok value => exact furnished_ok _

theorem furnished_mapM {items : List α} {step : α → Except MappingError β}
    (each : ∀ item, Furnished (step item)) : Furnished (items.mapM step) := by
  induction items with
  | nil => exact furnished_ok _
  | cons item rest ih =>
      rw [List.mapM_cons]
      exact furnished_bind (each item) fun _ => furnished_bind ih fun _ => furnished_ok _

theorem furnished_valueOf (type : FieldType) (cell : Cell) : Furnished (valueOf type cell) := by
  intro error failed
  unfold valueOf at failed
  split at failed <;> cases failed
  exact id

theorem furnished_readRow (type : EntityType) (row : Row) : Furnished (readRow type row) := by
  have each (fields : List Field) (row : Row) : Furnished (readFields fields row) := by
    induction fields generalizing row with
    | nil => exact furnished_ok _
    | cons field rest ih =>
        cases row with
        | nil =>
            intro _ same
            cases same
            exact id
        | cons cell row =>
            exact furnished_bind (furnished_valueOf _ cell) fun _ => furnished_bind (ih row) fun _ =>
              furnished_ok _
  exact furnished_map _ (each type.fields row)

theorem furnished_idCell (type : EntityType) (id : String) : Furnished (idCell type id) := by
  intro error failed
  unfold idCell at failed
  split at failed <;> cases failed
  exact not_false

theorem furnished_findType (schema : Schema) (name : String) : Furnished (findType schema name) := by
  intro error failed
  unfold findType at failed
  split at failed <;> cases failed
  exact id

theorem furnished_findRelationship (schema : Schema) (type : EntityType) (name : String) :
    Furnished (findRelationship schema type name) := by
  unfold findRelationship
  split
  · intro _ same
    cases same
    exact id
  · exact furnished_map _ (furnished_findType schema _)

theorem furnished_memberColumn (type : EntityType) (table field : String) :
    Furnished (memberColumn type table field) := by
  unfold memberColumn
  split
  · exact furnished_error id
  · exact furnished_ok _

mutual

theorem furnished_clauseOf (schema : Schema) : ∀ (predicate : Predicate) (type : EntityType)
    (name : String) (next : Nat), Furnished (clauseOf schema type name next predicate)
  | .all predicates, type, name, next => by
      rw [clauseOf]
      exact furnished_map _ (furnished_clausesOf schema predicates type name next)
  | .any predicates, type, name, next => by
      rw [clauseOf]
      exact furnished_map _ (furnished_clausesOf schema predicates type name next)
  | .not predicate, type, name, next => by
      rw [clauseOf]
      exact furnished_map _ (furnished_clauseOf schema predicate type name next)
  | .compare field comparison (.value value), type, name, next => by
      rw [clauseOf]
      exact furnished_bind (furnished_memberColumn _ _ _) fun _ => furnished_ok _
  | .compare field comparison (.field other), type, name, next => by
      rw [clauseOf]
      exact furnished_bind (furnished_memberColumn _ _ _) fun _ =>
        furnished_bind (furnished_map _ (furnished_memberColumn _ _ _)) fun _ => furnished_ok _
  | .oneOf field values, type, name, next => by
      rw [clauseOf]
      exact furnished_bind (furnished_memberColumn _ _ _) fun _ => furnished_ok _
  | .like field pattern ignoreCase, type, name, next => by
      rw [clauseOf]
      exact furnished_bind (furnished_memberColumn _ _ _) fun _ => furnished_ok _
  | .isNull field, type, name, next => by
      rw [clauseOf]
      exact furnished_bind (furnished_memberColumn _ _ _) fun _ => furnished_ok _
  | .search field query plain, type, name, next => by
      rw [clauseOf]
      exact furnished_bind (furnished_memberColumn _ _ _) fun _ => furnished_ok _
  | .related relation predicate, type, name, next => by
      rw [clauseOf]
      exact furnished_bind (furnished_findRelationship _ _ _) fun _ =>
        furnished_bind (furnished_clauseOf schema predicate _ _ _) fun _ => furnished_ok _

theorem furnished_clausesOf (schema : Schema) : ∀ (predicates : List Predicate) (type : EntityType)
    (name : String) (next : Nat), Furnished (clausesOf schema type name next predicates)
  | [], type, name, next => by
      rw [clausesOf]
      exact furnished_ok _
  | predicate :: rest, type, name, next => by
      rw [clausesOf]
      exact furnished_bind (furnished_clauseOf schema predicate _ _ _) fun _ =>
        furnished_bind (furnished_clausesOf schema rest _ _ _) fun _ => furnished_ok _

end

theorem furnished_filterClause (schema : Schema) (type : EntityType) (predicate : Predicate) :
    Furnished (filterClause schema type predicate) :=
  furnished_map _ (furnished_clauseOf schema predicate _ _ _)

theorem furnished_followPath (schema : Schema) {path followed : List String} {joined : OrderJoins}
    {type : EntityType} {name : String} :
    Furnished (followPath schema joined type name followed path) := by
  induction path generalizing joined type name followed with
  | nil => exact furnished_ok _
  | cons step rest ih =>
      unfold followPath
      dsimp only
      split
      · exact ih
      · refine furnished_bind (furnished_findRelationship _ _ _) fun found => ?_
        split
        · exact furnished_error id
        · exact ih

theorem furnished_sortColumns (schema : Schema) (type : EntityType)
    {keys : List Sorting.OrderKey} {joined : OrderJoins} :
    Furnished (sortColumns schema type joined keys) := by
  induction keys generalizing joined with
  | nil => exact furnished_ok _
  | cons key rest ih =>
      refine furnished_bind (furnished_followPath schema) fun found => ?_
      dsimp only
      split
      · exact furnished_error id
      · exact furnished_bind ih fun _ => furnished_ok _

theorem furnished_selectOf (schema : Schema) (type : EntityType) (query : Query) :
    Furnished (selectOf schema type query) :=
  furnished_bind (furnished_filterClause _ _ _) fun _ => furnished_bind
    (furnished_bind (furnished_sortColumns schema type) fun _ => furnished_ok _) fun _ => furnished_ok _

theorem furnished_checkFields (type : EntityType) (values : Keyed Value) :
    Furnished (checkFields type values) := by
  unfold checkFields
  split
  · exact furnished_error id
  · exact furnished_ok _

theorem checkFields_known {type : EntityType} {values : Keyed Value}
    (checked : checkFields type values = .ok ()) :
    ∀ entry ∈ values, ∃ field ∈ type.fields, field.name = entry.1 := by
  intro entry member
  unfold checkFields at checked
  split at checked
  · cases checked
  · rename_i absent
    have present := List.find?_eq_none.mp absent entry member
    obtain ⟨field, found⟩ := Option.ne_none_iff_exists'.mp fun none =>
      present (Option.isNone_iff_eq_none.mpr none)
    obtain ⟨own, named⟩ := field_known found
    exact ⟨field, own, named⟩

end

section

variable {layout : Layout} {schema : Schema} {type : EntityType} {relationship : Relationship}

theorem hasValue_closed {table column : String} (named : layout.Names table column) (cell : Cell) :
    (hasValue (.ofTable table column) cell).Closed layout (layout.under table table) :=
  .condition (List.forall_mem_singleton.mpr (Layout.under_names named))

theorem oneOf_closed {table column : String} (named : layout.Names table column) (cells : List Cell) :
    (Clause.condition (.oneOf (.ofTable table column) cells)).Closed layout (layout.under table table) :=
  .condition (List.forall_mem_singleton.mpr (Layout.under_names named))

theorem setColumn_sheltered {table column : String} (named : layout.Names table column) (cell : Cell)
    {filter : Clause} (closed : filter.Closed layout (layout.under table table)) :
    Sheltered layout (setColumn table column cell filter) :=
  sheltered_bind (sheltered_update ⟨named.known, List.forall_mem_singleton.mpr named,
    List.forall_mem_singleton.mpr closed⟩) fun _ => sheltered_pure _

theorem clearKey_sheltered {table column : String} (named : layout.Names table column) (cell : Cell) :
    Sheltered layout (clearKey table column cell) :=
  sheltered_bind (sheltered_update ⟨named.known, List.forall_mem_singleton.mpr named,
    List.forall_mem_singleton.mpr (hasValue_closed named cell)⟩) fun _ => sheltered_pure _

theorem deletePairs_sheltered {table column : String} (named : layout.Names table column)
    (cell : Cell) : Sheltered layout (deletePairs table column cell) :=
  sheltered_bind (sheltered_delete ⟨named.known, List.forall_mem_singleton.mpr (hasValue_closed named cell)⟩)
    fun _ => sheltered_pure _

theorem insertPairs_sheltered {table ownerColumn targetColumn : String}
    (owner : layout.Names table ownerColumn) (target : layout.Names table targetColumn)
    (pairs : List (Cell × Cell)) :
    Sheltered layout (insertPairs table ownerColumn targetColumn pairs) :=
  sheltered_bind (sheltered_insert ⟨owner.known,
    List.forall_mem_cons.mpr ⟨owner, List.forall_mem_singleton.mpr target⟩, nofun⟩)
    fun _ => sheltered_pure _

section

variable (serves : layout.Serves schema) (known : type ∈ schema.types)
include serves known

theorem Store.Layout.Serves.id : layout.Names (tableName type) (idName type) :=
  serves.fields type known type.identity List.mem_cons_self

theorem get_sheltered (ids : List String) : Sheltered layout (Mapping.get type ids) := by
  unfold Mapping.get
  dsimp only
  split
  · exact sheltered_pure _
  · refine sheltered_bind (sheltered_selectAll ⟨serves.table known, trivial, ?_, ?_, ?_⟩) fun rows =>
      sheltered_ofExcept (furnished_mapM (furnished_readRow type))
    · exact List.forall_mem_singleton.mpr (oneOf_closed (serves.id known) _)
    · exact List.forall_mem_singleton.mpr (serves.identity known _)
    · exact fun column member => fieldColumns_named serves known member

theorem query_sheltered (query : Query) : Sheltered layout (Mapping.query schema type query) :=
  sheltered_given (furnished_selectOf _ _ _) fun _ run =>
    sheltered_bind (sheltered_selectAll (selectOf_closed serves known run)) fun _ =>
      sheltered_ofExcept (furnished_mapM (furnished_readRow type))

theorem count_sheltered (predicate : Predicate) :
    Sheltered layout (Mapping.count schema type predicate) := by
  refine sheltered_given (furnished_filterClause _ _ _) fun filter run => ?_
  have closed : Select.Closed layout
      { columns := [.count], table := tableName type, filters := [filter] } := by
    refine ⟨serves.table known, trivial, ?_, List.forall_mem_nil _, fun _ member => ?_⟩
    · exact List.forall_mem_singleton.mpr (filterClause_closed serves known run)
    · cases List.mem_singleton.mp member
  refine sheltered_rows closed fun rows each =>
    sheltered_given (furnished_mapError (finds_onlyRow each)) fun row _ => ?_
  split
  · exact sheltered_pure _
  · exact sheltered_throw id
  · exact sheltered_throw id

theorem insert_sheltered (values : Keyed Value) : Sheltered layout (Mapping.insert type values) := by
  have readsBack (id : String) : Sheltered layout (readBack type id) := by
    refine sheltered_bind (get_sheltered serves known _) fun found => ?_
    split
    · exact sheltered_pure _
    · exact sheltered_throw not_false
  refine sheltered_given (furnished_checkFields type values) fun _ checked => sheltered_guard id
    (sheltered_bind (sheltered_insert ⟨serves.table known, ?_, ?_⟩) fun returned => ?_)
  · intro column member
    obtain ⟨entry, kept, rfl⟩ := List.mem_map.mp member
    obtain ⟨field, own, same⟩ := checkFields_known checked entry (List.mem_filter.mp kept).1
    exact same ▸ serves.fields type known field own
  · intro column asked
    dsimp only at asked
    split at asked
    · cases asked
      exact serves.id known
    · cases asked
  · dsimp only
    split
    · exact sheltered_bind (sheltered_pure _) fun _ => readsBack _
    · refine sheltered_bind ?_ fun _ => readsBack _
      rw [map_eq_pure_bind]
      exact sheltered_bind (sheltered_ofExcept (furnished_valueOf _ _)) fun _ => sheltered_pure _
    · exact sheltered_bind (sheltered_throw id) fun _ => readsBack _

theorem update_sheltered (id : String) (values : Keyed Value) :
    Sheltered layout (Mapping.update type id values) := by
  refine sheltered_given (furnished_checkFields type values) fun _ checked => ?_
  split
  · exact sheltered_bind (get_sheltered serves known _) fun _ => sheltered_pure _
  · split
    · exact sheltered_pure _
    · refine sheltered_bind (sheltered_update ⟨serves.table known, fun assignment member => ?_,
        List.forall_mem_singleton.mpr (hasValue_closed (serves.id known) _)⟩) fun _ => sheltered_pure _
      obtain ⟨entry, given, rfl⟩ := List.mem_map.mp member
      obtain ⟨field, own, same⟩ := checkFields_known checked entry given
      exact same ▸ serves.fields type known field own

theorem delete_sheltered (formed : schema.Formed) (id : String) :
    Sheltered layout (Mapping.delete schema type id) := by
  unfold Mapping.delete
  split
  · exact sheltered_pure _
  · rename_i cell _
    refine sheltered_bind (sheltered_forM fun relationship own => ?_) fun _ =>
      sheltered_bind (sheltered_forM fun owner among => sheltered_forM fun relationship member => ?_)
        fun _ => sheltered_bind (sheltered_delete ⟨serves.table known,
          List.forall_mem_singleton.mpr (hasValue_closed (serves.id known) cell)⟩) fun _ =>
            sheltered_pure _
    · obtain ⟨target, _, leads, reached, _⟩ := formed.target known own
      unfold unlinkOwner
      split
      · exact sheltered_pure _
      · rename_i column storage
        rw [reached]
        exact clearKey_sheltered (serves.keys _ _ _ (.targetKey known own storage leads)) cell
      · rename_i storage
        exact deletePairs_sheltered (serves.keys _ _ _ (.ownerPair known own storage)) cell
    · have own := (List.mem_filter.mp member).1
      obtain ⟨target, _, leads, _⟩ := formed.target among own
      unfold unlinkTarget
      split
      · rename_i storage
        exact clearKey_sheltered (serves.keys _ _ _ (.ownerKey among own storage leads)) cell
      · exact sheltered_pure _
      · rename_i storage
        exact deletePairs_sheltered (serves.keys _ _ _ (.targetPair among own storage leads)) cell

end

section

variable {target : EntityType} (serves : layout.Serves schema)
  (relates : schema.Relates type relationship target)
include serves relates

theorem ownerColumn_closed :
    layout.JoinsClosed (layout.under (tableName target) (tableName target))
        (ownerColumn type target relationship.storage).2 ∧
      (ownerColumn type target relationship.storage).1 ∈
        layout.joined (layout.under (tableName target) (tableName target))
          (ownerColumn type target relationship.storage).2 := by
  have known' := relates.target_known
  obtain ⟨known, own, leads⟩ := relates
  have targetId := serves.identity known' (tableName target)
  cases storage : relationship.storage with
  | ownerKey key =>
      have named := serves.key (.ownerKey known own storage leads) "rel_owner"
      exact ⟨⟨serves.table known, .inr named, .inl targetId, trivial⟩,
        .inr (serves.identity known "rel_owner")⟩
  | targetKey key =>
      exact ⟨trivial, serves.key (.targetKey known own storage leads) (tableName target)⟩
  | joinTable pairs owners targets =>
      have named := serves.keys _ _ _ (.ownerPair known own storage)
      have other := serves.key (.targetPair known own storage leads) "rel_link"
      exact ⟨⟨named.known, .inr other, .inl targetId, trivial⟩, .inr (Layout.under_names named)⟩

end

theorem relationship_sheltered {α : Type} (formed : schema.Formed) (known : type ∈ schema.types)
    (own : relationship ∈ type.relationships)
    {next : Relationship × EntityType → MappingAction α}
    (second : ∀ target, schema.Relates type relationship target →
      Sheltered layout (next (relationship, target))) :
    Sheltered layout
      (Action.ofExcept (findRelationship schema type relationship.name) >>= next) := by
  obtain ⟨target, _, leads, found⟩ := formed.findRelationship known own
  rw [found]
  exact second target ⟨known, own, leads⟩

section

variable (formed : schema.Formed) (serves : layout.Serves schema) (known : type ∈ schema.types)
  (own : relationship ∈ type.relationships)
include formed serves known own

theorem loadRelation_sheltered (owners : List String) :
    Sheltered layout (Mapping.loadRelation schema type relationship owners) := by
  refine relationship_sheltered formed known own fun target relates => ?_
  dsimp only
  split
  · exact sheltered_pure _
  · obtain ⟨closed, offered⟩ := ownerColumn_closed serves relates
    refine sheltered_bind (sheltered_selectAll ⟨serves.table relates.target_known, closed, ?_, ?_, ?_⟩)
      fun rows => sheltered_ofExcept (furnished_mapM fun row => ?_)
    · exact List.forall_mem_singleton.mpr (.condition (List.forall_mem_singleton.mpr offered))
    · exact List.forall_mem_singleton.mpr
        (Layout.offered_joined _ (serves.identity relates.target_known _))
    · intro column member
      rcases List.mem_cons.mp member with same | member
      · cases same
        exact offered
      · exact Layout.offered_joined _ (fieldColumns_named serves relates.target_known member)
    · unfold readLink
      split
      · exact furnished_error id
      · exact furnished_bind (furnished_valueOf _ _) fun _ => furnished_bind (furnished_readRow _ _)
          fun _ => furnished_ok _

theorem setToOne_sheltered (owner : String) (target : Option String) :
    Sheltered layout (Mapping.setToOne schema type relationship owner target) := by
  unfold Mapping.setToOne
  dsimp only
  by_cases toMany : relationship.isToMany = true
  · rw [if_pos toMany]
    exact sheltered_throw id
  rw [if_neg toMany]
  refine relationship_sheltered formed known own fun targetType relates => ?_
  refine sheltered_given (furnished_idCell type owner) fun owner _ => ?_
  refine sheltered_given ?_ fun target _ => ?_
  · cases target with
    | none => exact furnished_ok _
    | some target => exact furnished_map _ (furnished_idCell targetType target)
  · have leads := relates.leads
    split
    · rename_i column storage
      exact setColumn_sheltered (serves.keys _ _ _ (.ownerKey known own storage leads)) _
        (hasValue_closed (serves.id known) _)
    · rename_i column storage
      have named := serves.keys _ _ _ (.targetKey known own storage leads)
      refine sheltered_bind (clearKey_sheltered named _) fun _ => ?_
      split
      · exact setColumn_sheltered named _ (hasValue_closed (serves.id relates.target_known) _)
      · exact sheltered_pure _
    · rename_i table ownerColumn targetColumn storage
      have named := serves.keys _ _ _ (.ownerPair known own storage)
      refine sheltered_bind (deletePairs_sheltered named _) fun _ => ?_
      split
      · exact insertPairs_sheltered named (serves.keys _ _ _ (.targetPair known own storage leads)) _
      · exact sheltered_pure _

theorem addToMany_sheltered (owner : String) (targets : List String) :
    Sheltered layout (Mapping.addToMany schema type relationship owner targets) := by
  refine relationship_sheltered formed known own fun targetType relates => ?_
  refine sheltered_given (furnished_idCell type owner) fun owner _ => ?_
  have leads := relates.leads
  dsimp only
  split
  · exact sheltered_pure _
  split
  · rename_i column storage
    exact setColumn_sheltered (serves.keys _ _ _ (.targetKey known own storage leads)) _
      (oneOf_closed (serves.id relates.target_known) _)
  · rename_i table ownerColumn targetColumn storage
    have owners := serves.keys _ _ _ (.ownerPair known own storage)
    have others := serves.keys _ _ _ (.targetPair known own storage leads)
    refine sheltered_bind (sheltered_selectAll ⟨owners.known, trivial, ?_, List.forall_mem_nil _, ?_⟩)
      fun rows => ?_
    · exact List.forall_mem_singleton.mpr (hasValue_closed owners owner)
    · intro column member
      cases List.mem_singleton.mp member
      exact Layout.under_names others
    · split
      · exact sheltered_pure _
      · exact insertPairs_sheltered owners others _
  · exact sheltered_throw id

theorem removeFromMany_sheltered (owner : String) (targets : List String) :
    Sheltered layout (Mapping.removeFromMany schema type relationship owner targets) := by
  refine relationship_sheltered formed known own fun targetType relates => ?_
  refine sheltered_given (furnished_idCell type owner) fun owner _ => ?_
  have leads := relates.leads
  dsimp only
  split
  · exact sheltered_pure _
  split
  · rename_i column storage
    have named := serves.keys _ _ _ (.targetKey known own storage leads)
    exact setColumn_sheltered named _ (.all (List.forall_mem_cons.mpr
      ⟨oneOf_closed (serves.id relates.target_known) _, List.forall_mem_singleton.mpr
        (hasValue_closed named _)⟩))
  · rename_i table ownerColumn targetColumn storage
    have owners := serves.keys _ _ _ (.ownerPair known own storage)
    have others := serves.keys _ _ _ (.targetPair known own storage leads)
    exact sheltered_bind (sheltered_delete ⟨owners.known, List.forall_mem_singleton.mpr (.all
      (List.forall_mem_cons.mpr ⟨hasValue_closed owners _, List.forall_mem_singleton.mpr
        (oneOf_closed others _)⟩))⟩) fun _ => sheltered_pure _
  · exact sheltered_throw id

end

theorem begin_sheltered : Sheltered layout (statement Action.begin) := by
  refine ⟨fun connection holds => ⟨?_, begin_upholds holds⟩⟩
  obtain ⟨database, savepoint, log⟩ := connection
  cases savepoint with
  | some other => exact furnished_error id
  | none => exact furnished_ok _

theorem commit_sheltered : Sheltered layout (statement Action.commit) := by
  refine ⟨fun connection holds => ⟨?_, commit_upholds holds⟩⟩
  obtain ⟨database, savepoint, log⟩ := connection
  cases savepoint with
  | some other => exact furnished_ok _
  | none => exact furnished_error id

theorem rollback_sheltered : Sheltered layout (statement Action.rollback) := by
  refine ⟨fun connection holds => ⟨?_, rollback_upholds holds⟩⟩
  obtain ⟨database, savepoint, log⟩ := connection
  cases savepoint with
  | some other => exact furnished_ok _
  | none => exact furnished_error id

theorem operation_sheltered (formed : schema.Formed) (serves : layout.Serves schema)
    {operation : SessionOperation} (known : operation.Known schema) :
    Sheltered layout (operation.action schema) := by
  have discard {α : Type} {action : MappingAction α} (sheltered : Sheltered layout action) :
      Sheltered layout (do let _ ← action) :=
    sheltered_bind sheltered fun _ => sheltered_pure _
  cases operation with
  | query type wanted => exact discard (query_sheltered serves known wanted)
  | count type predicate => exact discard (count_sheltered serves known predicate)
  | get type ids => exact discard (get_sheltered serves known ids)
  | loadRelation type relationship owners =>
      exact discard (loadRelation_sheltered formed serves known.1 known.2 owners)
  | insert type values => exact discard (insert_sheltered serves known values)
  | update type id values => exact discard (update_sheltered serves known id values)
  | delete type id => exact discard (delete_sheltered serves known formed id)
  | setToOne type relationship owner target =>
      exact setToOne_sheltered formed serves known.1 known.2 owner target
  | addToMany type relationship owner targets =>
      exact addToMany_sheltered formed serves known.1 known.2 owner targets
  | removeFromMany type relationship owner targets =>
      exact removeFromMany_sheltered formed serves known.1 known.2 owner targets
  | begin => exact begin_sheltered
  | commit => exact commit_sheltered
  | rollback => exact rollback_sheltered

end

/-! Runs. -/

section

variable {schema : Schema} {sessions : Sessions}

theorem Store.Sessions.Opened.serves (opened : sessions.Opened schema) (formed : schema.Formed)
    (tables : schema.TablesDistinct) (shared : schema.PairsShared) :
    sessions.Uphold (Layout.Fits sessions.database.columns?) ∧
      Layout.Serves sessions.database.columns? schema := by
  obtain ⟨connection, done, rfl⟩ := opened.registered
  have laid := registered_laid tables done
  have targets : ∀ type ∈ schema.types, ∀ relationship ∈ type.relationships,
      ∃ target, findType schema relationship.target = .ok target := by
    intro type known relationship own
    obtain ⟨target, _, _, leads, _⟩ := formed.target known own
    exact ⟨target, leads⟩
  exact ⟨⟨⟨rfl, laid.wide⟩, List.forall_mem_nil _⟩,
    laid_serves formed laid (registered_paired tables shared targets done)⟩

end

/-- Filters and orders that are accepted for a type of a schema compile. Once the tables of the schema have been
created, no operation of any session fails for want of a table or a column, whatever operations come before it
and whatever comes of them. -/
theorem operations_lack_nothing {types : List EntityType} {schema : Schema}
    (valid : Schema.ofTypes types = .ok schema) (tables : schema.TablesDistinct)
    (shared : schema.PairsShared) :
    (∀ type ∈ schema.types,
      (∀ now nodes predicate, Filter.resolveAll schema now type nodes = .ok predicate →
        ∃ clause, filterClause schema type predicate = .ok clause) ∧
      ∀ request ordering, Sorting.resolve schema type request = .ok ordering →
        ∃ clauses, orderClauses schema type ordering = .ok clauses) ∧
      ∀ sessions : Sessions, sessions.Opened schema →
        ∀ (operations : List (Nat × SessionOperation)) number operation, operation.Known schema → ∀ error,
          ((sessions.afterOperations schema operations).operate schema number operation).1 =
            .error error → ¬error.Missing := by
  have formed := ofTypes_formed valid
  refine ⟨fun type known => ⟨fun now nodes predicate resolved => ?_, fun request ordering resolved => ?_⟩,
    fun sessions opened operations number operation known => ?_⟩
  · obtain ⟨⟨clause, after⟩, compiled⟩ :=
      accepted_compiled (resolveAll_accepted formed known resolved) (tableName type) 1
    exact ⟨clause, congrArg (Except.map Prod.fst) compiled⟩
  · have start : OrderJoins.Typed schema type ⟨[], []⟩ := List.forall_mem_nil _
    obtain ⟨⟨joined, order⟩, sorted⟩ :=
      sortColumns_succeeds (resolve_followed (ofTypes_keys valid) known resolved) start
    exact ⟨(joined.joins, order), bind_of_ok sorted rfl⟩
  · obtain ⟨uphold, serves⟩ := opened.serves formed tables shared
    have reached := uphold.afterOperations (fits_lasting _) schema operations
    rw [(Sessions.operate_eq _ schema number operation).1]
    exact ((operation_sheltered formed serves known).outcome _ (reached.connection number)).1

/-! One session puts a book on an empty shelf, and another counts books by a pattern on numbers. -/

namespace Shelf

def opened : Sessions :=
  (Sessions.fresh.run 0 (register schema)).2

theorem opened_by_registration : opened.Opened schema := by
  have done : (Sessions.fresh.run 0 (register schema)).1.1 = .ok () := by decide +kernel
  refine ⟨0, (Sessions.fresh.run 0 (register schema)).1.2, ?_⟩
  unfold opened
  rw [← done]

def stocking : List (Nat × SessionOperation) :=
  [(1, .begin), (1, .insert book [("title", .string "Dawn")]), (0, .query author .everything), (1, .commit)]

def patterned : SessionOperation :=
  .count book (.like "id" "1%" false)

theorem patterned_known : patterned.Known schema :=
  List.mem_cons_of_mem _ List.mem_cons_self

end Shelf

theorem patterned_count_lacks_nothing :
    Schema.ofTypes [Shelf.author, Shelf.book] = .ok Shelf.schema ∧ Shelf.schema.TablesDistinct ∧
      Shelf.schema.PairsShared ∧ Shelf.opened.Opened Shelf.schema ∧
      Shelf.patterned.Known Shelf.schema ∧
      ((Shelf.opened.afterOperations Shelf.schema Shelf.stocking).operate Shelf.schema 2
        Shelf.patterned).1 = .error (.store (.notMatchable (.integer 1))) ∧
      ¬(MappingError.store (.notMatchable (.integer 1))).Missing := by
  have valid : Schema.ofTypes [Shelf.author, Shelf.book] = .ok Shelf.schema := rfl
  have fails : ((Shelf.opened.afterOperations Shelf.schema Shelf.stocking).operate Shelf.schema 2
      Shelf.patterned).1 = .error (.store (.notMatchable (.integer 1))) := by decide +kernel
  obtain ⟨_, lacks⟩ := operations_lack_nothing valid Shelf.tablesDistinct Shelf.pairsShared
  exact ⟨valid, Shelf.tablesDistinct, Shelf.pairsShared, Shelf.opened_by_registration,
    Shelf.patterned_known, fails,
    lacks _ Shelf.opened_by_registration _ 2 _ Shelf.patterned_known _ fails⟩

end ResourceServer
