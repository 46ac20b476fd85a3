import ResourceServer.Proofs.PlainRequests
import ResourceServer.Proofs.ReplayedLinks

/-! Requests that write to a resource or to its links, sent again. -/

namespace ResourceServer

open ResourceServer.Store ResourceServer.Mapping ResourceServer.Relinking ResourceServer.Api ResourceServer.Calendar

/-- The same instances of every type are stored, and the same targets are loaded for their owners. -/
structure SameResources (schema : Schema) (before after : Database) : Prop where
  instances : ∀ type ∈ schema.types,
    (after.records (tableName type)).map (readRecord type) = (before.records (tableName type)).map (readRecord type)
  links : ∀ {type target : EntityType} {relationship : Relationship}, schema.Relates type relationship target →
    ∀ owner, ∃ ids ids', loadedTargets schema type relationship ⟨before, none, []⟩ owner = .ok ids ∧
      loadedTargets schema type relationship ⟨after, none, []⟩ owner = .ok ids' ∧ ∀ id, id ∈ ids' ↔ id ∈ ids

section

variable {schema : Schema} {type : EntityType} {written : Relationship → Prop} {base before after : Database}

theorem Steady.same (separate : schema.Separate) (stocked : Stocked schema base)
    (steady : Steady schema type written base before) (steady' : Steady schema type written base after)
    (links : ∀ {type target : EntityType} {relationship : Relationship}, schema.Relates type relationship target →
      ∀ owner other, owner ≠ .null → other ≠ .null →
        (Holds after type target relationship.storage owner other ↔
          Holds before type target relationship.storage owner other)) : SameResources schema before after where
  instances type known := by
    have rows (database : Database) : (database.records (tableName type)).map (readRecord type) =
        (fieldRows database type).map (readRow type) := by
      unfold fieldRows
      rw [List.map_map]
      rfl
    rw [rows, rows, steady.fields type known, steady'.fields type known]
  links {type target relationship} relates owner := by
    obtain ⟨ids, loaded, members⟩ := loadedTargets_ok (steady.stocked stocked) separate relates
      (steady.typed.keys relates) (rfl : Connection.database ⟨before, none, []⟩ = before) owner
    obtain ⟨ids', loaded', members'⟩ := loadedTargets_ok (steady'.stocked stocked) separate relates
      (steady'.typed.keys relates) (rfl : Connection.database ⟨after, none, []⟩ = after) owner
    refine ⟨ids, ids', loaded, loaded', fun id => ?_⟩
    rw [members, members']
    have stored {cell : Cell} : (∃ record ∈ after.records (tableName target), record (idName target) = cell) ↔
        ∃ record ∈ before.records (tableName target), record (idName target) = cell :=
      (steady'.fields.identities relates.known').trans (steady.fields.identities relates.known').symm
    refine exists_congr fun cell => and_congr_right fun named => ?_
    constructor
    · rintro ⟨other, inside, one, held⟩
      obtain ⟨record, member, same⟩ := stored.mp ⟨other, inside, rfl⟩
      rw [← same] at one held
      exact ⟨record, member, one, (links relates _ _ named.given one.given).mp held⟩
    · rintro ⟨other, inside, one, held⟩
      obtain ⟨record, member, same⟩ := stored.mpr ⟨other, inside, rfl⟩
      rw [← same] at one held
      exact ⟨record, member, one, (links relates _ _ named.given one.given).mpr held⟩

theorem Steady.of_records (steady : Steady schema type written base before) (housed : Housed schema after)
    (same : ∀ name, after.records name = before.records name) : Steady schema type written base after where
  housed := housed
  fields other known := by
    unfold fieldRows
    rw [same]
    exact steady.fields other known
  typed table column target refers := by
    rw [same]
    exact steady.typed table column target refers
  locked relates own readOnly owner other given given' :=
    ((holds_same (same _)).2 owner other).trans (steady.locked relates own readOnly owner other given given')

end

/-! The first change of a resource. -/

section

variable {schema : Schema} {connection after : Connection} {type : EntityType} {id : String} {values : Keyed Value}

theorem update_settles (separate : schema.Separate) (agree : schema.KeyTypesAgree)
    (stocked : Stocked schema connection.database) (typed : ReferencesTyped schema connection.database)
    (known : type ∈ schema.types) (filled : Fills type.attributes values)
    (run : execute (Mapping.update type id values) connection = (.ok true, after)) :
    ∃ cell, SpellsStored after.database type id cell ∧ Stocked schema after.database ∧
      ReferencesTyped schema after.database ∧
        ∀ record ∈ after.database.records (tableName type), record (idName type) = cell →
          record.Holds (assignments values) := by
  obtain ⟨cell, spelled, present, filling, changed⟩ := update_ok stocked.housed.wide run
  have spells := stocked.spells separate known spelled present
  have agrees_iff {record : Record} (inside : record ∈ connection.database.records (tableName type)) :
      (record (idName type)).agrees cell = true ↔ record (idName type) = cell :=
    agrees_iff_eq (separate.exact type known) (stocked.identity_takes known record inside) (idCell_kind spelled)
  have identity (record : Record) :
      (if (record (idName type)).agrees cell then record.assign (assignments values) else record) (idName type) =
        record (idName type) := by
    split
    · refine Record.assign_other record fun assignment given named => ?_
      obtain ⟨field, own, named', _⟩ := assignments_fill filled assignment given
      exact attribute_apart separate.columns known own (named'.symm.trans named)
    · rfl
  have stored : FieldsStored schema after.database := by
    refine stocked.stored.rewrites separate.tables known changed fun other member => ?_
    obtain ⟨record, inside, rfl⟩ := List.mem_map.mp member
    have stores := stocked.stored.record known inside
    split
    · exact RowStores.assign separate.columns known filled stores
    · exact stores
  have distinct : ∀ other ∈ schema.types,
      ((after.database.records (tableName other)).map fun record => record (idName other)).Nodup := by
    intro other known'
    by_cases same : tableName other = tableName type
    · obtain rfl := same_type separate.tables known' known same
      rw [records_same changed]
      change (inColumn (idName other) _).Nodup
      rw [inColumn_map identity]
      exact stocked.distinct other known'
    · rw [records_other changed same]
      exact stocked.distinct other known'
  have changes : Changes schema False connection.database after.database :=
    .assign known (assignments_fill filled) changed
  refine ⟨cell, ⟨spelled, ?_⟩, stocked_of_stored (stocked.housed.refills filling changed) stored distinct,
    changes.references_typed separate.keys agree typed, fun record member same => ?_⟩
  · obtain ⟨record, inside, rfl⟩ := spells.present
    refine ⟨_, ?_, identity record⟩
    rw [records_same changed]
    exact List.mem_map_of_mem inside
  · rw [records_same changed] at member
    obtain ⟨old, inside, rfl⟩ := List.mem_map.mp member
    rw [identity old] at same
    rw [if_pos ((agrees_iff inside).mpr same)]
    exact old.holds_assigned

end

/-! Changes of links as a request makes them. -/

section

variable {schema : Schema} {type target : EntityType} {relationship : Relationship} {written : Relationship → Prop}
  {base : Database} {owner : String} {cell : Cell} {connection after : Connection} {linkage : Linkage}
  {allowed : Bool} (owning : Owning schema type written base owner cell)

include owning

theorem Owning.writeLinkage_replayable (relates : schema.Relates type relationship target)
    (own : written relationship) (start : Steady schema type written base connection.database)
    (run : execute (writeLinkage schema type relationship owner linkage allowed) connection = (.ok (), after)) :
    Replayable schema (Steady schema type written base)
      (writeLinkage schema type relationship owner linkage allowed) := by
  cases linkage with
  | toOne chosen => exact owning.replaceToOne_replayable relates own start run
  | toMany targets => exact owning.replaceToMany_replayable relates own start run

theorem Owning.writeLinkages_replayable (known : type ∈ schema.types)
    {linkages : List (Relationship × Linkage)} (own : ∀ entry ∈ linkages, entry.1 ∈ type.relationships)
    (writes : ∀ entry ∈ linkages, written entry.1) (start : Steady schema type written base connection.database)
    (run : execute (writeLinkages schema type owner linkages allowed) connection = (.ok (), after)) :
    Replayable schema (Steady schema type written base) (writeLinkages schema type owner linkages allowed) := by
  refine replayable_forM (fun entry member {connection after} start run => ?_) start run
  obtain ⟨target, _, leads, _⟩ := owning.separate.formed.target known (own entry member)
  exact owning.writeLinkage_replayable ⟨known, own entry member, leads⟩ (writes entry member) start run

theorem Owning.changeLinks_replayable {api : Api} {endpoint : Endpoint} {operation : Operation}
    {wasDeleted : Option Bool} (here : api.schema = schema) (typed : endpoint.type = type)
    (relates : schema.Relates type relationship target) (own : written relationship)
    (start : Steady schema type written base connection.database)
    (run : execute (changeLinks api endpoint operation owner relationship linkage) connection =
      (.ok wasDeleted, after)) :
    Replayable schema (Steady schema type written base)
      (changeLinks api endpoint operation owner relationship linkage) := by
  subst here typed
  unfold changeLinks at run ⊢
  obtain ⟨resource, middle, required, run⟩ := execute_bind_ok run
  have same := (requireResource_run start.housed.wide required).1
  have start' : Steady api.schema endpoint.type written base middle.database := same.symm ▸ start
  have requires : Replayable api.schema (Steady api.schema endpoint.type written base)
      (requireResource endpoint.type owner) := replayable_reading fun {connection} steady =>
    (owning.spellsStored relates steady).required (steady.stocked owning.stocked) owning.separate relates.known
  refine requires.andThen ?_
  split at run
  · obtain ⟨⟨⟩, _, run, _⟩ := execute_bind_ok run
    exact (owning.appendToMany_replayable relates own start' run).map fun _ => none
  · obtain ⟨⟨⟩, _, run, _⟩ := execute_bind_ok run
    exact (owning.writeLinkage_replayable relates own start' run).map fun _ => none
  · obtain ⟨any, _, run, _⟩ := execute_bind_ok run
    exact (owning.removeFromMany_replayable relates own start' run).map some

end

section

variable {api : Api} {endpoint : Endpoint} {id : String} {values : Keyed Value}
  {linkages : List (Relationship × Linkage)} {connection reached : Connection}

def Linked (linkages : List (Relationship × Linkage)) (relationship : Relationship) : Prop :=
  ∃ linkage, (relationship, linkage) ∈ linkages

theorem changeResource_again (separate : api.schema.Separate) (agree : api.schema.KeyTypesAgree)
    (unmixed : api.schema.Unmixed endpoint.type (Linked linkages))
    (stocked : Stocked api.schema connection.database) (typed : ReferencesTyped api.schema connection.database)
    (known : endpoint.type ∈ api.schema.types) (filled : Fills endpoint.type.attributes values)
    (own : ∀ entry ∈ linkages, entry.1 ∈ endpoint.type.relationships)
    (run : execute (changeResource api endpoint id values linkages) connection = (.ok (), reached))
    (second : Connection) (here : second.database = reached.database) :
    ∃ after, execute (changeResource api endpoint id values linkages) second = (.ok (), after) ∧
      SameResources api.schema reached.database after.database := by
  unfold changeResource at run ⊢
  obtain ⟨existed, middle, updated, run⟩ := execute_bind_ok run
  cases existed with
  | false => cases run
  | true =>
      change execute (writeLinkages api.schema endpoint.type id linkages endpoint.config.allowReplacement) middle = _
        at run
      obtain ⟨cell, spells, stocked, typed, held⟩ :=
        update_settles separate agree stocked typed known filled (execute_mapError_ok updated)
      have owning : Owning api.schema endpoint.type (Linked linkages) middle.database id cell :=
        ⟨separate, agree, unmixed, stocked, spells⟩
      have start : Steady api.schema endpoint.type (Linked linkages) middle.database middle.database :=
        .refl stocked.housed typed
      have replayable := owning.writeLinkages_replayable known own (fun entry member => ⟨entry.2, member⟩) start run
      obtain ⟨_, _, done, finish⟩ := replayable.succeeds start
      cases run.symm.trans done
      have again : Steady api.schema endpoint.type (Linked linkages) middle.database second.database :=
        here.symm ▸ finish
      -- The attributes were set already, and writing links has not touched them.
      have holds : ∀ record ∈ second.database.records (tableName endpoint.type),
          record (idName endpoint.type) = cell → record.assign (assignments values) = record := by
        intro record member same
        obtain ⟨old, inside, equal⟩ := again.fields.record known member
        refine Record.Holds.assign_eq fun assignment given => ?_
        obtain ⟨field, among, named, _⟩ := assignments_fill filled assignment given
        rw [named, equal field (List.mem_cons_of_mem _ among), ← named]
        exact held old inside ((equal endpoint.type.identity List.mem_cons_self).symm.trans same) assignment given
      have named : ∀ entry ∈ values, ∃ field ∈ endpoint.type.attributes, field.name = entry.1 := fun entry given =>
        (filled entry given).imp fun _ found => ⟨found.1, found.2.1⟩
      obtain ⟨fresh, updated', housed, records⟩ := update_same separate (again.stocked stocked) known named
        ⟨spells.spelled, (again.fields.identities known).mpr spells.present⟩ holds
      obtain ⟨_, after, written, finish', links⟩ := replayable.again start run (again.of_records housed records)
        fun relates owner other => by
          rw [(holds_same (records _)).2, here]
      refine ⟨after, ?_, finish.same separate stocked finish' links⟩
      rw [execute_bind, execute_writing_done updated']
      exact written

/-- A change of links that has succeeded succeeds again, and leaves what it made. -/
theorem changeLinks_again {relationship : Relationship} {linkage : Linkage} {operation : Operation}
    {wasDeleted : Option Bool} (separate : api.schema.Separate) (agree : api.schema.KeyTypesAgree)
    (stocked : Stocked api.schema connection.database) (typed : ReferencesTyped api.schema connection.database)
    (known : endpoint.type ∈ api.schema.types) (own : relationship ∈ endpoint.type.relationships)
    (run : execute (changeLinks api endpoint operation id relationship linkage) connection = (.ok wasDeleted, reached))
    (second : Connection) (here : second.database = reached.database) :
    ∃ wasDeleted after, execute (changeLinks api endpoint operation id relationship linkage) second =
        (.ok wasDeleted, after) ∧ SameResources api.schema reached.database after.database := by
  obtain ⟨target, _, leads, _⟩ := separate.formed.target known own
  have relates : api.schema.Relates endpoint.type relationship target := ⟨known, own, leads⟩
  obtain ⟨cell, spells⟩ : ∃ cell, SpellsStored connection.database endpoint.type id cell := by
    obtain ⟨resource, middle, required, _⟩ := execute_bind_ok run
    exact (required_spells separate stocked known required).imp fun _ => And.left
  have owning : Owning api.schema endpoint.type (· = relationship) connection.database id cell :=
    ⟨separate, agree, fun _ _ one other locked _ => other.trans one.symm ▸ locked, stocked, spells⟩
  have start : Steady api.schema endpoint.type (· = relationship) connection.database connection.database :=
    .refl stocked.housed typed
  have replayable := owning.changeLinks_replayable rfl rfl relates rfl start run
  obtain ⟨_, _, done, finish⟩ := replayable.succeeds start
  cases run.symm.trans done
  obtain ⟨wasDeleted, after, written, finish', links⟩ := replayable.again start run (here.symm ▸ finish)
    fun _ _ _ => by rw [here]
  exact ⟨wasDeleted, after, written, finish.same separate stocked finish' links⟩

end

end ResourceServer
