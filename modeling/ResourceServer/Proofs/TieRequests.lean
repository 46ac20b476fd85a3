import ResourceServer.Proofs.Integrity
import ResourceServer.Proofs.TieSteps

/-! Deleting a resource leaves the links of others. -/

namespace ResourceServer

open ResourceServer.Store ResourceServer.Mapping ResourceServer.Api

theorem typed_invariant {schema : Schema} (formed : schema.Formed) (tables : schema.TablesDistinct)
    (columns : schema.ColumnsDistinct) (keys : schema.KeysApart) (agree : schema.KeyTypesAgree) :
    Invariant schema False (ReferencesTyped schema) where
  formed := formed
  tables := tables
  columns := columns
  keys := False.elim
  kept _ changes _ typed := changes.references_typed keys agree typed

theorem reachable_typed {api : Api} (formed : api.schema.Formed) (tables : api.schema.TablesDistinct)
    (columns : api.schema.ColumnsDistinct) (keys : api.schema.KeysApart) (agree : api.schema.KeyTypesAgree)
    {database : Database} (reachable : Reachable api (fun _ => True) database) :
    Laid api.schema database ∧ ReferencesTyped api.schema database := by
  refine reachable_invariant (typed_invariant formed tables columns keys agree) False.elim ?_ reachable
  intro connection done table column kind _ record member
  rw [vacant_records (registered_columns done).1] at member
  cases member

theorem references_invariant {schema : Schema} (orderly : schema.Orderly) :
    Invariant schema False (ReferencesTyped schema) :=
  typed_invariant orderly.formed orderly.tables orderly.columns orderly.keys orderly.agree.types

theorem reachable_references_typed {api : Api} (orderly : api.schema.Orderly) {database : Database}
    (reachable : Reachable api (fun _ => True) database) :
    Laid api.schema database ∧ ReferencesTyped api.schema database :=
  reachable_typed orderly.formed orderly.tables orderly.columns orderly.keys orderly.agree.types reachable

section

variable {schema : Schema} {type target : EntityType} {relationship : Relationship} {owner : Cell}
  {partner : Cell → Prop}

/-- A database with typed references in which a resource is linked. -/
structure Bonded (schema : Schema) (type target : EntityType) (storage : Storage) (owner : Cell)
    (partner : Cell → Prop) (database : Database) : Prop where
  attached : Attached schema type target storage owner partner database
  typed : ReferencesTyped schema database

theorem Bonded.ready {storage : Storage} {present : EntityType → Cell → Prop} {database : Database}
    (bonded : Bonded schema type target storage owner partner database) :
    Ready schema False (ReferencesTyped schema) present database :=
  ⟨bonded.attached.laid, bonded.typed, False.elim⟩

theorem bonded_of {α ε : Type} {storage : Storage} {action : Action ε α}
    (typed : Maintains (Ready schema False (ReferencesTyped schema) fun _ _ => True) action)
    (kept : Yields
      (fun database => Attached schema type target storage owner partner database ∧
        ReferencesTyped schema database)
      action (Attached schema type target storage owner partner)) :
    Maintains (Bonded schema type target storage owner partner) action :=
  ⟨fun bonded run => ⟨kept.sound ⟨bonded.attached, bonded.typed⟩ run,
    (typed.sound bonded.ready run).held⟩⟩

variable (orderly : schema.Orderly) (relates : schema.Relates type relationship target)
include orderly relates

theorem pair_column {pairs ownerColumn targetColumn column : String} {kind : EntityType}
    (storage : relationship.storage = .joinTable pairs ownerColumn targetColumn)
    (refers : Refers schema pairs column kind) :
    column = ownerColumn ∧ kind = type ∨ column = targetColumn ∧ kind = target := by
  have owners := Refers.ownerPair relates.known relates.own storage
  have targets := Refers.targetPair relates.known relates.own storage relates.leads
  have used : Pairs schema pairs := ⟨type, relates.known, relationship, relates.own, _, _, storage⟩
  have either : column = ownerColumn ∨ column = targetColumn := by
    cases refers with
    | ownerKey known => exact absurd rfl (orderly.tables.apart _ known _ used)
    | targetKey known own storage' leads =>
        exact absurd rfl (orderly.tables.apart _ (List.mem_of_find?_eq_some leads) _ used)
    | ownerPair known own storage' =>
        rcases orderly.shared _ known _ own _ relates.known _ relates.own _ _ _ _ _ storage' storage with
          ⟨same, _⟩ | ⟨same, _⟩
        · exact .inl same
        · exact .inr same
    | targetPair known own storage' leads =>
        rcases orderly.shared _ known _ own _ relates.known _ relates.own _ _ _ _ _ storage' storage with
          ⟨_, same⟩ | ⟨_, same⟩
        · exact .inr same
        · exact .inl same
  rcases either with rfl | rfl
  · exact .inl ⟨rfl, orderly.agree _ _ _ _ refers owners⟩
  · exact .inr ⟨rfl, orderly.agree _ _ _ _ refers targets⟩

section

variable {holder : EntityType} {cell : Cell} (kind : cell.type? = some (keyType holder))
  (spared : ∀ other, partner other → Spared type target owner other holder cell)
include kind spared

theorem clearKey_spares {entity : EntityType} {column : String} (known : entity ∈ schema.types)
    (refers : Refers schema (tableName entity) column holder) :
    Maintains (Bonded schema type target relationship.storage owner partner)
      (clearKey (tableName entity) column cell) := by
  refine bonded_of (establishes_weaken (clearKey_ready (references_invariant orderly).links refers cell)
    (fun _ ready => ready) fun _ _ both => both.1)
    (setColumn_attached orderly relates (ReferencesTyped schema) known refers
      (fun database wide => hasValue_tests wide (tableName entity) column cell)
      fun database typed other allowed record member carried => ?_)
  have taken := typed _ _ _ refers record member
  unfold CarriedBy at carried
  cases storage : relationship.storage with
  | ownerKey key =>
      rw [storage] at carried
      obtain ⟨here, rfl, _, held⟩ := carried
      have same := orderly.agree _ _ _ _ (here ▸ refers)
        (.ownerKey relates.known relates.own storage relates.leads)
      exact differs_of_agrees taken kind held ((spared other allowed).2 same)
  | targetKey key =>
      rw [storage] at carried
      obtain ⟨here, rfl, _, held⟩ := carried
      have same := orderly.agree _ _ _ _ (here ▸ refers)
        (.targetKey relates.known relates.own storage relates.leads)
      exact differs_of_agrees taken kind (Cell.agrees_symm held) ((spared other allowed).1 same)
  | joinTable _ _ _ =>
      rw [storage] at carried
      exact carried.elim

theorem deletePairs_spares {name column : String} (used : Pairs schema name)
    (refers : Refers schema name column holder) :
    Maintains (Bonded schema type target relationship.storage owner partner)
      (deletePairs name column cell) := by
  refine bonded_of (establishes_weaken (deletePairs_ready (references_invariant orderly).links used column
    cell) (fun _ ready => ready) fun _ _ both => both.1)
    (establishes_bind (deleteWhere_attached orderly relates (ReferencesTyped schema) used
      (fun database wide => hasValue_tests wide name column cell)
      fun database typed other allowed ownerColumn targetColumn storage pair member aimed owned => ?_)
      fun _ => maintains_of_keeps (keeps_pure _))
  have taken := typed _ _ _ refers pair member
  rcases pair_column orderly relates storage refers with ⟨rfl, same⟩ | ⟨rfl, same⟩
  · exact differs_of_agrees taken kind (Cell.agrees_symm owned) ((spared other allowed).1 same)
  · exact differs_of_agrees taken kind (Cell.agrees_symm aimed) ((spared other allowed).2 same)

theorem unlinkOwner_spares (known : holder ∈ schema.types) {via : Relationship}
    (own : via ∈ holder.relationships) :
    Maintains (Bonded schema type target relationship.storage owner partner)
      (unlinkOwner schema via cell) := by
  obtain ⟨aim, known', leads, found, _⟩ := orderly.formed.target known own
  unfold unlinkOwner
  cases storage : via.storage with
  | ownerKey key => exact maintains_of_keeps (keeps_pure _)
  | targetKey key =>
      dsimp only
      rw [found]
      exact clearKey_spares orderly relates kind spared known' (.targetKey known own storage leads)
  | joinTable pairs ownerColumn targetColumn =>
      exact deletePairs_spares orderly relates kind spared ⟨holder, known, via, own, _, _, storage⟩
        (.ownerPair known own storage)

theorem unlinkTarget_spares {entity : EntityType} (known : entity ∈ schema.types) {via : Relationship}
    (own : via ∈ entity.relationships) (leads : schema.type? via.target = some holder) :
    Maintains (Bonded schema type target relationship.storage owner partner)
      (unlinkTarget entity via cell) := by
  unfold unlinkTarget
  cases storage : via.storage with
  | ownerKey key =>
      exact clearKey_spares orderly relates kind spared known (.ownerKey known own storage leads)
  | targetKey key => exact maintains_of_keeps (keeps_pure _)
  | joinTable pairs ownerColumn targetColumn =>
      exact deletePairs_spares orderly relates kind spared ⟨entity, known, via, own, _, _, storage⟩
        (.targetPair known own storage leads)

end

theorem delete_spares {holder : EntityType} (known : holder ∈ schema.types) {id : String}
    (spared : ∀ cell, idCell? holder id = some cell →
      ∀ other, partner other → Spared type target owner other holder cell) :
    Maintains (Bonded schema type target relationship.storage owner partner)
      (Mapping.delete schema holder id) := by
  have invariant := references_invariant orderly
  have itself : schema.type? holder.name = some holder :=
    find_unique EntityType.name orderly.formed.names known
  refine ⟨fun {connection after value} bonded run => ⟨?_, ?_⟩⟩
  rotate_left
  · exact ((delete_ready invariant known id).sound bonded.ready run).held
  unfold Mapping.delete at run
  split at run
  · cases run
    exact bonded.attached
  rename_i cell read
  have kind := idCell_kind read
  have free := spared cell read
  obtain ⟨⟨⟩, middle, owners, run⟩ := execute_bind_ok run
  obtain ⟨⟨⟩, reached, targets, run⟩ := execute_bind_ok run
  obtain ⟨count, ended, deleted, run⟩ := execute_bind_ok run
  cases run
  have first : Bonded schema type target relationship.storage owner partner middle.database :=
    (establishes_forM fun via own => unlinkOwner_spares orderly relates kind free known own).sound
      bonded owners
  have unlinks : Maintains (Bonded schema type target relationship.storage owner partner)
      (schema.types.forM fun entity =>
        (entity.relationships.filter fun via => via.target = holder.name).forM
          fun via => unlinkTarget entity via cell) := by
    refine establishes_forM fun entity listed => establishes_forM fun via member => ?_
    obtain ⟨own, aims⟩ := List.mem_filter.mp member
    refine unlinkTarget_spares orderly relates kind free listed own ?_
    rw [of_decide_eq_true aims]
    exact itself
  have second := unlinks.sound first targets
  obtain ⟨laid, other, allowed, tied⟩ := second.attached
  have changed := (deleteWhere_run laid.wide (idColumn_tests laid.wide holder cell) deleted).1
  exact ⟨laid.rewrites changed, other, allowed,
    tied.remove orderly.tables relates known (free other allowed) changed⟩

end

/-! Requests leave a linked resource linked, unless they ask for its target to be deleted or for its link to be
taken away. -/

section

variable {connection after : Connection}

theorem requireTargets_single {schema : Schema} {relationship : Relationship} {asked : Identifier}
    {ids : List String}
    (run : execute (Relinking.requireTargets schema relationship [asked]) connection =
      (.ok ids, after)) : ids = [asked.id] := by
  unfold Relinking.requireTargets at run
  split at run
  · cases run
  split at run
  · cases run
  have single : Relinking.distinctIds [] ([asked].map Identifier.id) = [asked.id] := by
    simp [Relinking.distinctIds]
  rw [single] at run
  obtain ⟨resources, middle, _, last⟩ := execute_bind_ok run
  dsimp only at last
  split at last
  · cases last
  · cases last
    rfl

theorem setToOne_spelled {schema : Schema} {type target : EntityType} {relationship : Relationship}
    (formed : schema.Formed) (relates : schema.Relates type relationship target) {id linked : String}
    (run : execute (setToOne schema type relationship id (some linked)) connection =
      (.ok (), after)) : ∃ cell, idCell? target linked = some cell := by
  have spelled : Establishes (fun _ => True) (setToOne schema type relationship id (some linked))
      fun _ _ => ∃ cell, idCell? target linked = some cell := by
    unfold setToOne
    refine establishes_guard fun _ => ?_
    rw [relates.found formed]
    refine establishes_given fun pair same => ?_
    cases same
    refine establishes_given fun ownerCell _ => establishes_given fun targetCell read => ?_
    obtain ⟨asked, read, _⟩ := map_ok read
    exact ⟨fun _ _ => ⟨asked, idCell_ok read⟩⟩
  exact spelled.sound trivial run

end

def Spells (type : EntityType) (id : String) (owner : Cell) : Prop :=
  ∃ cell, idCell? type id = some cell ∧ owner.agrees cell = true

section

variable {schema : Schema} {type target : EntityType} {relationship : Relationship} {owner : Cell}
  {partner : Cell → Prop}

theorem requireTargets_attached {storage : Storage} (via : Relationship)
    (targets : List Identifier) :
    Maintains (Attached schema type target storage owner partner)
      (Relinking.requireTargets schema via targets) := by
  refine ⟨fun {connection after ids} attached run => ?_⟩
  rw [(requireTargets_run attached.laid.wide run).1]
  exact attached

variable (orderly : schema.Orderly) (relates : schema.Relates type relationship target)
include orderly relates

/-! Links that are kept elsewhere are written. -/

section

variable {holder aim : EntityType} {via : Relationship} (relates' : schema.Relates holder via aim)
  (elsewhere : via.storage.place holder aim ≠ relationship.storage.place type target)
include relates' elsewhere

theorem writeLinkage_elsewhere (id : String) (linkage : Linkage) (allowed : Bool) :
    Maintains (Attached schema type target relationship.storage owner partner)
      (writeLinkage schema holder via id linkage allowed) := by
  cases linkage with
  | toOne asked =>
      change Maintains _ (Relinking.replaceToOne schema holder via id asked)
      unfold Relinking.replaceToOne
      dsimp only
      refine establishes_guard fun _ => ?_
      cases asked with
      | some asked =>
          exact establishes_bind (requireTargets_attached via [asked]) fun ids =>
            establishes_mapError _
              (setToOne_elsewhere orderly relates relates' elsewhere id ids.getLast?)
      | none =>
          exact establishes_bind (maintains_of_keeps (keeps_pure _)) fun ids =>
            establishes_mapError _
              (setToOne_elsewhere orderly relates relates' elsewhere id ids.getLast?)
  | toMany targets =>
      change Maintains _ (Relinking.replaceToMany schema holder via id targets allowed)
      unfold Relinking.replaceToMany
      dsimp only
      refine establishes_guard fun _ => establishes_given fun _ _ =>
        establishes_bind (requireTargets_attached via targets) fun wanted =>
          establishes_bind (maintains_of_keeps (currentTargets_keeps ..)) fun current => ?_
      exact establishes_bind (establishes_mapError _
        (removeFromMany_elsewhere orderly relates relates' elsewhere id _)) fun _ =>
          establishes_mapError _ (addToMany_elsewhere orderly relates relates' elsewhere id _)

theorem appendToMany_elsewhere (id : String) (targets : List Identifier) :
    Maintains (Attached schema type target relationship.storage owner partner)
      (Relinking.appendToMany schema holder via id targets) :=
  establishes_given fun _ _ => establishes_bind (requireTargets_attached via targets) fun _ =>
    establishes_mapError _ (addToMany_elsewhere orderly relates relates' elsewhere id _)

theorem removeTargets_elsewhere (id : String) (targets : List Identifier) (allowed : Bool) :
    Maintains (Attached schema type target relationship.storage owner partner)
      (Relinking.removeFromMany schema holder via id targets allowed) := by
  unfold Relinking.removeFromMany
  dsimp only
  refine establishes_guard fun _ => establishes_given fun _ _ =>
    establishes_bind (requireTargets_attached via targets) fun wanted =>
      establishes_bind (maintains_of_keeps (currentTargets_keeps ..)) fun current => ?_
  split
  · exact maintains_of_keeps (keeps_pure _)
  · exact establishes_bind (establishes_mapError _
      (removeFromMany_elsewhere orderly relates relates' elsewhere id _)) fun _ =>
        maintains_of_keeps (keeps_pure _)

end

/-- Linking an owner to a target through the relationship leaves a resource linked, unless this is another owner
and takes the target away. -/
theorem replaceToOne_itself {id : String} {asked : Identifier}
    (mine : Spells type id owner → ∀ other, partner other)
    (untaken : ¬Spells type id owner → ∀ column, relationship.storage = .targetKey column →
      ∀ other, partner other → ¬Spells target asked.id other) :
    Yields
      (fun database => Attached schema type target relationship.storage owner partner database ∧
        ReferencesTyped schema database)
      (Relinking.replaceToOne schema type relationship id (some asked))
      (Attached schema type target relationship.storage owner partner) := by
  refine ⟨fun {connection after value} ⟨attached, typed⟩ run => ?_⟩
  unfold Relinking.replaceToOne at run
  dsimp only at run
  split at run
  · cases run
  obtain ⟨ids, middle, required, run⟩ := execute_bind_ok run
  obtain ⟨same, present⟩ := requireTargets_run attached.laid.wide required
  obtain rfl := requireTargets_single required
  have set := execute_mapError_ok run
  rw [← same] at attached typed
  by_cases own : Spells type id owner
  · obtain ⟨cell, spelled, agrees⟩ := own
    obtain ⟨key, aimed⟩ := setToOne_spelled orderly.formed relates set
    obtain ⟨record, member, agrees'⟩ :=
      present target relates.leads asked.id (List.mem_singleton_self _) key aimed
    rw [← same] at member
    have standing : Standing middle.database type owner :=
      attached.partner.choose_spec.2.owner_standing
    have standing' : Standing middle.database target (record (idName target)) :=
      ⟨record, member, rfl⟩
    have attaches := setToOne_attaches orderly relates id asked.id owner (record (idName target))
      (fun cell' spelled' => by cases spelled.symm.trans spelled'; exact agrees)
      fun key' aimed' => by cases aimed.symm.trans aimed'; exact Cell.agrees_symm agrees'
    obtain ⟨laid, tied⟩ := attaches.sound ⟨attached.laid, standing, standing'⟩ set
    exact ⟨laid, _, mine ⟨cell, spelled, agrees⟩ _, tied⟩
  · refine (setToOne_spares orderly relates (fun cell spelled => ?_)
      fun column storage cell spelled other allowed => ?_).sound ⟨attached, typed⟩ set
    · exact Bool.eq_false_iff.mpr fun agrees => own ⟨cell, spelled, agrees⟩
    · exact Bool.eq_false_iff.mpr fun agrees =>
        untaken own column storage other allowed ⟨cell, spelled, agrees⟩

end

/-! Resources are created and changed. -/

section

variable {type : EntityType} {values : Keyed Value}

theorem insert_appends {resource : Instance}
    (run : execute (Mapping.insert type values) connection = (.ok resource, after)) :
    ∃ added, Rewrites connection.database after.database (tableName type)
      (connection.database.records (tableName type) ++ added) := by
  unfold Mapping.insert at run
  obtain ⟨⟨⟩, checked, fine, run⟩ := execute_bind_ok run
  rw [execute_ofExcept] at fine
  obtain rfl := congrArg Prod.snd fine
  dsimp only at run
  split at run
  · cases run
  obtain ⟨returned, written, inserted, run⟩ := execute_bind_ok run
  obtain ⟨_, added, _, changed, _⟩ := insert_run (execute_insert_ok inserted)
  refine ⟨added, ?_⟩
  split at run
  · rw [readBack_same run]
    exact changed
  · obtain ⟨text, middle, read, run⟩ := execute_bind_ok run
    rw [map_eq_pure_bind] at read
    obtain ⟨value, reached, valued, read⟩ := execute_bind_ok read
    rw [execute_ofExcept] at valued
    cases read
    obtain rfl := congrArg Prod.snd valued
    rw [readBack_same run]
    exact changed
  · cases run

/-- Changing a resource assigns to its attributes, if there is anything to assign. -/
theorem update_assigns {id : String} {existed : Bool} (wide : connection.database.Wide)
    (run : execute (Mapping.update type id values) connection = (.ok existed, after)) :
    after.database = connection.database ∨
      ∃ cell, idCell? type id = some cell ∧
        Rewrites connection.database after.database (tableName type)
          ((connection.database.records (tableName type)).map fun record =>
            if (record (idName type)).agrees cell then record.assign (assignments values)
            else record) := by
  unfold Mapping.update at run
  obtain ⟨⟨⟩, checked, fine, run⟩ := execute_bind_ok run
  rw [execute_ofExcept] at fine
  obtain rfl := congrArg Prod.snd fine
  split at run
  · obtain ⟨resources, reached, found, run⟩ := execute_bind_ok run
    cases run
    exact .inl (get_same found)
  · split at run
    · cases run
      exact .inl rfl
    · rename_i cell read
      obtain ⟨count, reached, changed, run⟩ := execute_bind_ok run
      cases run
      exact .inr ⟨cell, read, (update_run wide (idColumn_tests wide type cell)
        (execute_update_ok changed)).1⟩

end

end ResourceServer
