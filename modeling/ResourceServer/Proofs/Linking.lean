import ResourceServer.Proofs.Changes
import ResourceServer.Proofs.Constraints
import ResourceServer.Proofs.Requests
import ResourceServer.Proofs.Spelling
import ResourceServer.Proofs.Subqueries

/-! Changes of links keep what changes preserve, and leave the resources in place that they link. -/

namespace ResourceServer

open ResourceServer.Store ResourceServer.Mapping

/-- A property of the stored resources of a schema that changes of links keep. -/
structure LinkInvariant (schema : Schema) (sound : Prop) (holds : Database → Prop) : Prop where
  formed : schema.Formed
  tables : schema.TablesDistinct
  keys : sound → schema.KeysApart
  kept : ∀ {before after : Database}, Laid schema before → Relinks schema sound before after →
    Refills before after → holds before → holds after

/-- A property of the stored resources of a schema that changes keep. -/
structure Invariant (schema : Schema) (sound : Prop) (holds : Database → Prop) : Prop where
  formed : schema.Formed
  tables : schema.TablesDistinct
  columns : schema.ColumnsDistinct
  keys : sound → schema.KeysApart
  kept : ∀ {before after : Database}, Laid schema before → Changes schema sound before after →
    Refills before after → holds before → holds after

/-- The property holds, and some identities are present where identities are sound. -/
structure Ready (schema : Schema) (sound : Prop) (holds : Database → Prop)
    (present : EntityType → Cell → Prop) (database : Database) : Prop where
  laid : Laid schema database
  held : holds database
  present : sound → ∀ type ∈ schema.types, ∀ cell, present type cell → Present database type cell

section

variable {schema : Schema} {sound : Prop} {holds : Database → Prop}
  {present : EntityType → Cell → Prop} {before after : Database}

theorem Invariant.links (invariant : Invariant schema sound holds) :
    LinkInvariant schema sound holds where
  formed := invariant.formed
  tables := invariant.tables
  keys := invariant.keys
  kept laid links filled held := invariant.kept laid (.relink links) filled held

theorem Ready.relinks (ready : Ready schema sound holds present before)
    (invariant : LinkInvariant schema sound holds) (links : Relinks schema sound before after)
    (filled : Refills before after) : Ready schema sound holds present after :=
  ⟨(Changes.relink links).laid ready.laid,
    invariant.kept ready.laid links filled ready.held,
    fun sound type known cell given => links.present invariant.tables (invariant.keys sound) known
      (ready.present sound type known cell given)⟩

theorem Ready.weaken {present' : EntityType → Cell → Prop}
    (ready : Ready schema sound holds present before)
    (fewer : ∀ type cell, present' type cell → present type cell) :
    Ready schema sound holds present' before :=
  ⟨ready.laid, ready.held, fun sound type known cell given =>
    ready.present sound type known cell (fewer type cell given)⟩

theorem Ready.changes (ready : Ready schema sound holds present before)
    (invariant : Invariant schema sound holds) (changes : Changes schema sound before after)
    (filled : Refills before after) : Ready schema sound holds (fun _ _ => False) after :=
  ⟨changes.laid ready.laid, invariant.kept ready.laid changes filled ready.held,
    fun _ _ _ _ given => given.elim⟩

end

/-! Statements on links keep to the uniqueness constraints. -/

section

variable {connection after : Connection}

theorem setColumn_refills {table column : String} {cell : Cell} {filter : Clause}
    (run : execute (setColumn table column cell filter) connection = (.ok (), after)) :
    Refills connection.database after.database := by
  obtain ⟨count, reached, one, last⟩ := execute_bind_ok run
  cases last
  exact update_refills (execute_update_ok one)

theorem clearKey_refills {table column : String} {cell : Cell}
    (run : execute (clearKey table column cell) connection = (.ok (), after)) :
    Refills connection.database after.database := by
  obtain ⟨count, reached, one, last⟩ := execute_bind_ok run
  cases last
  exact update_refills (execute_update_ok one)

theorem deletePairs_refills {table column : String} {cell : Cell}
    (run : execute (deletePairs table column cell) connection = (.ok (), after)) :
    Refills connection.database after.database := by
  obtain ⟨count, reached, one, last⟩ := execute_bind_ok run
  cases last
  exact delete_refills (execute_delete_ok one)

theorem insertPairs_refills {table ownerColumn targetColumn : String} {pairs : List (Cell × Cell)}
    (run : execute (insertPairs table ownerColumn targetColumn pairs) connection = (.ok (), after)) :
    Refills connection.database after.database := by
  obtain ⟨returned, reached, one, last⟩ := execute_bind_ok run
  cases last
  exact insert_refills (execute_insert_ok one)

end

theorem pair_cases (ownerColumn targetColumn column : String) (owner target : Cell) :
    let record := Record.blank.assign [(ownerColumn, owner), (targetColumn, target)]
    record column = .null ∨ column = ownerColumn ∧ record column = owner ∨
      column = targetColumn ∧ record column = target := by
  dsimp only
  refine Record.assign_cases (fun cell => cell = .null ∨ column = ownerColumn ∧ cell = owner ∨
    column = targetColumn ∧ cell = target) (.inl rfl) fun assignment member same => ?_
  rcases List.mem_cons.mp member with rfl | member
  · exact .inr (.inl ⟨same.symm, rfl⟩)
  · cases List.mem_singleton.mp member
    exact .inr (.inr ⟨same.symm, rfl⟩)

section

variable {schema : Schema} {sound : Prop} {holds : Database → Prop}
  {present : EntityType → Cell → Prop} (invariant : LinkInvariant schema sound holds)
include invariant

theorem clearKey_ready {table column : String} {target : EntityType}
    (refers : Refers schema table column target) (cell : Cell) :
    Establishes (fun connection => Ready schema sound holds present connection.database)
      (clearKey table column cell)
      fun _ connection => Ready schema sound holds present connection.database ∧
        Freed table column cell connection.database := by
  refine ⟨fun {connection after value} ready run => ?_⟩
  have changed := clearKey_run ready.laid.wide run
  refine ⟨ready.relinks invariant (.set refers (.inl rfl) .null changed) (clearKey_refills run),
    fun record member => ?_⟩
  rw [records_same changed] at member
  obtain ⟨old, _, rfl⟩ := List.mem_map.mp member
  split
  · rw [Record.set_same]
    rfl
  · rename_i other
    exact Bool.eq_false_iff.mpr other

theorem setColumn_ready {known : Database → Prop} {table column : String} {target : EntityType}
    (refers : Refers schema table column target) {cell : Cell} {filter : Clause}
    {meets : Record → Bool}
    (tested : ∀ database : Database, database.Wide → Tests database [filter] table meets)
    (given : cell = .null ∨ present target cell)
    (written : ∀ database, known database → Written schema database table column meets cell) :
    Establishes
      (fun connection => Ready schema sound holds present connection.database ∧
        known connection.database)
      (setColumn table column cell filter)
      fun _ connection => Ready schema sound holds present connection.database := by
  refine ⟨fun {connection after value} ⟨ready, start⟩ run => ?_⟩
  have wide := ready.laid.wide
  exact ready.relinks invariant (.set refers (given.imp_right fun given sound =>
    ready.present sound target refers.known cell given) (written _ start)
    (setColumn_run wide (tested _ wide) run)) (setColumn_refills run)

theorem deletePairs_ready {table : String} (used : Pairs schema table) (column : String)
    (cell : Cell) :
    Establishes (fun connection => Ready schema sound holds present connection.database)
      (deletePairs table column cell)
      fun _ connection => Ready schema sound holds present connection.database ∧
        Freed table column cell connection.database := by
  refine ⟨fun {connection after value} ready run => ?_⟩
  have changed := deletePairs_run ready.laid.wide run
  refine ⟨ready.relinks invariant (.drop used changed) (deletePairs_refills run),
    fun record member => ?_⟩
  rw [records_same changed] at member
  simpa using (List.mem_filter.mp member).2

theorem deleteWhere_ready {table : String} (used : Pairs schema table) {filter : Clause}
    {meets : Record → Bool}
    (tested : ∀ database : Database, database.Wide → Tests database [filter] table meets) :
    Maintains (Ready schema sound holds present)
      (statement (Action.delete { table := table, filters := [filter] })) := by
  refine ⟨fun {connection after value} ready run => ?_⟩
  have wide := ready.laid.wide
  exact ready.relinks invariant (.drop used (deleteWhere_run wide (tested _ wide) run).1)
    (delete_refills (execute_delete_ok run))

theorem insertPairs_ready (known : Database → Prop) {table ownerColumn targetColumn : String}
    {owner target : EntityType} {relationship : Relationship}
    (relates : schema.Relates owner relationship target)
    (storage : relationship.storage = .joinTable table ownerColumn targetColumn)
    {pairs : List (Cell × Cell)}
    (given : ∀ pair ∈ pairs, present owner pair.1 ∧ present target pair.2)
    (kinds : ∀ pair ∈ pairs, pair.1.type? = some (keyType owner) ∧
      pair.2.type? = some (keyType target))
    (single : relationship.isToMany = false → pairs.length ≤ 1 ∧ ∀ pair ∈ pairs,
      ∀ database, known database → Freed table ownerColumn pair.1 database) :
    Establishes
      (fun connection => Ready schema sound holds present connection.database ∧
        known connection.database)
      (insertPairs table ownerColumn targetColumn pairs)
      fun _ connection => Ready schema sound holds present connection.database := by
  refine ⟨fun {connection after value} ⟨ready, start⟩ run => ?_⟩
  have used : Pairs schema table :=
    ⟨owner, relates.known, relationship, relates.own, ownerColumn, targetColumn, storage⟩
  have joined : Joined schema connection.database table
      (pairs.map fun pair => Record.blank.assign [(ownerColumn, pair.1), (targetColumn, pair.2)])
      owner target relationship ownerColumn targetColumn := by
    refine ⟨relates, storage, fun record member => ?_, fun one => ?_⟩
    · obtain ⟨pair, among, rfl⟩ := List.mem_map.mp member
      have ⟨ownerKind, targetKind⟩ := kinds pair among
      exact ⟨pair.1, pair.2, rfl, ownerKind, targetKind,
        fun one => (single one).2 pair among _ start⟩
    · rw [List.length_map]
      exact (single one).1
  refine ready.relinks invariant (.pair used joined (fun record member column => ?_)
    (insertPairs_run (ready.laid.plain table used) run)) (insertPairs_refills run)
  obtain ⟨pair, among, rfl⟩ := List.mem_map.mp member
  obtain ⟨one, other⟩ := given pair among
  rcases pair_cases ownerColumn targetColumn column pair.1 pair.2 with
    none | ⟨rfl, same⟩ | ⟨rfl, same⟩
  · exact .inl none
  · refine .inr ⟨owner, .ownerPair relates.known relates.own storage, fun sound => ?_⟩
    rw [same]
    exact ready.present sound owner relates.known _ one
  · have targets := Refers.targetPair relates.known relates.own storage relates.leads
    refine .inr ⟨target, targets, fun sound => ?_⟩
    rw [same]
    exact ready.present sound target targets.known _ other

end

/-! The operations on the links of an existing resource. -/

theorem idCell_ok {type : EntityType} {id : String} {cell : Cell}
    (found : idCell type id = .ok cell) : idCell? type id = some cell := by
  unfold idCell at found
  split at found
  · cases found
    assumption
  · cases found

theorem mem_idCells {type : EntityType} {ids : List String} {cell : Cell}
    (member : cell ∈ idCells type ids) : ∃ id ∈ ids, idCell? type id = some cell :=
  List.mem_filterMap.mp member

theorem idCell_kind {type : EntityType} {id : String} {cell : Cell}
    (read : idCell? type id = some cell) : cell.type? = some (keyType type) := by
  obtain ⟨value, spelled, rfl⟩ := Option.map_eq_some_iff.mp read
  exact (FieldType.read_stored spelled).1

theorem mem_freshCells {linked : List String} {cells : List Cell} {cell : Cell}
    (member : cell ∈ freshCells linked cells) : cell ∈ cells := by
  induction cells generalizing linked with
  | nil => cases member
  | cons first rest ih =>
      unfold freshCells at member
      split at member
      · exact List.mem_cons_of_mem _ (ih member)
      · rcases List.mem_cons.mp member with rfl | inside
        · exact List.mem_cons_self
        · exact List.mem_cons_of_mem _ (ih inside)

theorem idColumn_tests {database : Database} (wide : database.Wide) (type : EntityType) (cell : Cell) :
    Tests database [hasValue (idColumn type (tableName type)) cell] (tableName type)
      fun record => (record (idName type)).agrees cell :=
  hasValue_tests wide (tableName type) (idName type) cell

section

variable {schema : Schema} {sound : Prop} {holds : Database → Prop}
  {present : EntityType → Cell → Prop} {type : EntityType} {relationship : Relationship}

/-- Where an operation on a relationship writes the identity of the owner. -/
def Relationship.namesOwner (relationship : Relationship) : Bool :=
  match relationship.storage with
  | .ownerKey _ => false
  | _ => true

/-- What is known when the links of one owner change: it is present if its identity is written. -/
structure Owned (schema : Schema) (present : EntityType → Cell → Prop) (type : EntityType)
    (relationship : Relationship) (owner : String) : Prop where
  known : type ∈ schema.types
  own : relationship ∈ type.relationships
  present : relationship.namesOwner → ∀ cell, idCell? type owner = some cell → present type cell

variable (invariant : LinkInvariant schema sound holds)
include invariant

theorem setToOne_ready {owner : String} (owned : Owned schema present type relationship owner)
    {target : Option String}
    (given : ∀ other, schema.type? relationship.target = some other → ∀ id, target = some id →
      ∀ cell, idCell? other id = some cell → present other cell) :
    Maintains (Ready schema sound holds present)
      (setToOne schema type relationship owner target) := by
  obtain ⟨other, known, leads, found⟩ := invariant.formed.findRelationship owned.known owned.own
  have relates : schema.Relates type relationship other := ⟨owned.known, owned.own, leads⟩
  unfold setToOne
  refine establishes_guard fun _ => ?_
  rw [found]
  refine establishes_given fun pair same => ?_
  cases same
  refine establishes_given fun ownerCell ownerRead => establishes_given fun targetCell targetRead => ?_
  have ownerKind := idCell_kind (idCell_ok ownerRead)
  have targetGiven : ∀ cell, targetCell = some cell →
      present other cell ∧ cell.type? = some (keyType other) := by
    rintro cell rfl
    cases target with
    | none => cases targetRead
    | some id =>
        obtain ⟨cell', read, same⟩ := map_ok targetRead
        cases same
        exact ⟨given other leads id rfl cell (idCell_ok read), idCell_kind (idCell_ok read)⟩
  have ownerPresent : relationship.namesOwner → present type ownerCell := fun named =>
    owned.present named ownerCell (idCell_ok ownerRead)
  split
  · rename_i column storage
    have refers := Refers.ownerKey owned.known owned.own storage leads
    refine establishes_weaken (setColumn_ready invariant refers
      (fun database wide => idColumn_tests wide type ownerCell) ?_ fun database (_ : True) => ?_)
      (fun _ ready => ⟨ready, trivial⟩) fun _ _ ready => ready
    · cases targetCell with
      | none => exact .inl rfl
      | some cell => exact .inr (targetGiven cell rfl).1
    · cases targetCell with
      | none => exact .null
      | some cell => exact .ownerKey relates storage rfl (targetGiven cell rfl).2
  · rename_i column storage
    have refers := Refers.targetKey owned.known owned.own storage leads
    refine establishes_bind (clearKey_ready invariant refers ownerCell) fun _ => ?_
    split
    · rename_i cell
      have ⟨_, targetKind⟩ := targetGiven cell rfl
      exact setColumn_ready invariant refers (fun database wide => idColumn_tests wide other cell)
        (.inr (ownerPresent (by rw [Relationship.namesOwner, storage])))
        fun database freed => .targetKey relates storage rfl ownerKind fun _ =>
          ⟨freed, cell, targetKind, rfl⟩
    · exact establishes_pure fun _ start => start.1
  · rename_i pairs ownerColumn targetColumn storage
    have used : Pairs schema pairs :=
      ⟨type, owned.known, relationship, owned.own, ownerColumn, targetColumn, storage⟩
    refine establishes_bind (deletePairs_ready invariant used ownerColumn ownerCell) fun _ => ?_
    split
    · rename_i cell
      have ⟨targetPresent, targetKind⟩ := targetGiven cell rfl
      refine insertPairs_ready invariant _ relates storage (fun pair member => ?_)
        (fun pair member => ?_) fun _ => ⟨le_rfl, fun pair member database freed => ?_⟩ <;>
        cases List.mem_singleton.mp member
      · exact ⟨ownerPresent (by rw [Relationship.namesOwner, storage]), targetPresent⟩
      · exact ⟨ownerKind, targetKind⟩
      · exact freed
    · exact establishes_pure fun _ start => start.1

theorem addToMany_ready {owner : String} (owned : Owned schema present type relationship owner)
    (many : relationship.isToMany = true) {targets : List String}
    (given : ∀ other, schema.type? relationship.target = some other → ∀ id ∈ targets,
      ∀ cell, idCell? other id = some cell → present other cell) :
    Maintains (Ready schema sound holds present)
      (addToMany schema type relationship owner targets) := by
  obtain ⟨other, known, leads, found⟩ := invariant.formed.findRelationship owned.known owned.own
  have relates : schema.Relates type relationship other := ⟨owned.known, owned.own, leads⟩
  have notOne : relationship.isToMany ≠ false := by simp [many]
  unfold addToMany
  rw [found]
  refine establishes_given fun pair same => ?_
  cases same
  refine establishes_given fun ownerCell ownerRead => ?_
  have ownerKind := idCell_kind (idCell_ok ownerRead)
  have ownerPresent : relationship.namesOwner → present type ownerCell := fun named =>
    owned.present named ownerCell (idCell_ok ownerRead)
  have targetGiven : ∀ cell ∈ idCells other targets,
      present other cell ∧ cell.type? = some (keyType other) := by
    intro cell member
    obtain ⟨id, among, read⟩ := mem_idCells member
    exact ⟨given other leads id among cell read, idCell_kind read⟩
  dsimp only
  split
  · exact maintains_of_keeps (keeps_pure _)
  split
  · rename_i column storage
    refine establishes_weaken (setColumn_ready invariant
      (.targetKey owned.known owned.own storage leads)
      (fun database wide => oneOf_tests wide (tableName other) (idName other) _)
      (.inr (ownerPresent (by rw [Relationship.namesOwner, storage])))
      fun database (_ : True) => ?_) (fun _ ready => ⟨ready, trivial⟩) fun _ _ ready => ready
    exact .targetKey relates storage rfl ownerKind fun one => absurd one notOne
  · rename_i pairs ownerColumn targetColumn storage
    refine establishes_bind (maintains_of_keeps (selectAll_keeps _)) fun rows => ?_
    split
    · exact maintains_of_keeps (keeps_pure _)
    · refine establishes_weaken (insertPairs_ready invariant (fun _ => True) relates storage (fun pair member => ?_)
        (fun pair member => ?_) fun one => absurd one notOne) (fun _ ready => ⟨ready, trivial⟩)
        fun _ _ ready => ready <;>
        obtain ⟨cell, fresh, rfl⟩ := List.mem_map.mp member <;>
        have ⟨targetPresent, targetKind⟩ := targetGiven cell (mem_freshCells fresh)
      · exact ⟨ownerPresent (by rw [Relationship.namesOwner, storage]), targetPresent⟩
      · exact ⟨ownerKind, targetKind⟩
  · exact establishes_throw _

theorem removeFromMany_ready {owner : String} (known : type ∈ schema.types)
    (own : relationship ∈ type.relationships) (targets : List String) :
    Maintains (Ready schema sound holds present)
      (removeFromMany schema type relationship owner targets) := by
  obtain ⟨other, known', leads, found⟩ := invariant.formed.findRelationship known own
  unfold removeFromMany
  rw [found]
  refine establishes_given fun pair same => ?_
  cases same
  refine establishes_given fun ownerCell ownerRead => ?_
  dsimp only
  split
  · exact maintains_of_keeps (keeps_pure _)
  split
  · rename_i column storage
    exact establishes_weaken (setColumn_ready invariant (.targetKey known own storage leads)
      (fun database wide => both_tests (oneOf_tests wide (tableName other) (idName other) _)
        (hasValue_tests wide (tableName other) column ownerCell)) (.inl rfl)
      fun database (_ : True) => .null) (fun _ ready => ⟨ready, trivial⟩) fun _ _ ready => ready
  · rename_i pairs ownerColumn targetColumn storage
    have used : Pairs schema pairs :=
      ⟨type, known, relationship, own, ownerColumn, targetColumn, storage⟩
    exact establishes_bind (deleteWhere_ready invariant used fun database wide =>
      both_tests (hasValue_tests wide pairs ownerColumn ownerCell)
        (oneOf_tests wide pairs targetColumn _)) fun _ => maintains_of_keeps (keeps_pure _)
  · exact establishes_throw _

end

end ResourceServer
