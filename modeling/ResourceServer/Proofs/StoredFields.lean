import ResourceServer.Proofs.FieldRows
import ResourceServer.Proofs.LinkSets
import ResourceServer.Proofs.PartialLoading
import ResourceServer.Proofs.UniqueIdentities

/-! After any requests the fields of stored resources hold values that can be stored in them, and every resource has
an identity. -/

namespace ResourceServer

open ResourceServer.Number ResourceServer.Store ResourceServer.Mapping ResourceServer.Api

/-- Each value of a row can be stored in its field, and the identity is given. -/
structure EntityType.RowStores (type : EntityType) (row : Row) : Prop where
  fields : List.Forall₂ (fun field cell => (field : Field).type.stores cell) type.fields row
  identified : row.headD .null ≠ .null

def FieldsStored (schema : Schema) (database : Database) : Prop :=
  ∀ type ∈ schema.types, ∀ row ∈ fieldRows database type, type.RowStores row

theorem rowStores_iff {type : EntityType} {record : Record} :
    type.RowStores (fieldRow type record) ↔
      (∀ field ∈ type.fields, field.type.stores (record (columnName field.name))) ∧
        record (idName type) ≠ .null := by
  have fields : List.Forall₂ (fun field cell => (field : Field).type.stores cell) type.fields
      (fieldRow type record) ↔
        ∀ field ∈ type.fields, field.type.stores (record (columnName field.name)) := by
    unfold fieldRow
    rw [List.forall₂_map_right_iff, List.forall₂_same]
  exact ⟨fun stores => ⟨fields.mp stores.fields, stores.identified⟩,
    fun ⟨each, given⟩ => ⟨fields.mpr each, given⟩⟩

section

variable {schema : Schema} {before after : Database} {type : EntityType}

theorem FieldsStored.rewrites {records : List Record} (stored : FieldsStored schema before)
    (tables : schema.TablesDistinct) (known : type ∈ schema.types)
    (changed : Rewrites before after (tableName type) records)
    (each : ∀ record ∈ records, type.RowStores (fieldRow type record)) :
    FieldsStored schema after := by
  intro other known' row member
  by_cases same : other = type
  · subst same
    obtain ⟨record, inside, rfl⟩ := List.mem_map.mp member
    rw [records_same changed] at inside
    exact each record inside
  · rw [fieldRows_other changed tables known known' same] at member
    exact stored other known' row member

theorem FieldsStored.record (stored : FieldsStored schema before) (known : type ∈ schema.types)
    {record : Record} (member : record ∈ before.records (tableName type)) :
    type.RowStores (fieldRow type record) :=
  stored type known _ (List.mem_map_of_mem member)

theorem RowStores.assign (columns : schema.ColumnsDistinct) (known : type ∈ schema.types)
    {values : Keyed Value} (filled : Fills type.attributes values) {record : Record}
    (stores : type.RowStores (fieldRow type record)) :
    type.RowStores (fieldRow type (record.assign (assignments values))) := by
  rw [rowStores_iff] at stores ⊢
  constructor
  · intro field own
    refine Record.assign_cases (fun cell => field.type.stores cell) (stores.1 field own)
      fun assignment given named => ?_
    obtain ⟨field', own', named', stored⟩ := assignments_store filled assignment given
    obtain rfl := same_field columns known own (List.mem_cons_of_mem _ own') (named.symm.trans named')
    exact stored
  · rw [Record.assign_other]
    · exact stores.2
    · intro assignment given named
      obtain ⟨field, own, named', _⟩ := assignments_store filled assignment given
      exact attribute_apart columns known own (named'.symm.trans named)

theorem assigned_value {assignments : List (String × Cell)} {column : String}
    (named : ∃ assignment ∈ assignments, assignment.1 = column) (record : Record) :
    ∃ assignment ∈ assignments, assignment.1 = column ∧
      record.assign assignments column = assignment.2 := by
  induction assignments generalizing record with
  | nil =>
      obtain ⟨_, none, _⟩ := named
      cases none
  | cons first rest ih =>
      by_cases later : ∃ assignment ∈ rest, assignment.1 = column
      · obtain ⟨assignment, inside, same, value⟩ := ih later (record.set first.1 first.2)
        exact ⟨assignment, List.mem_cons_of_mem _ inside, same, value⟩
      · have here : first.1 = column := by
          obtain ⟨assignment, member, same⟩ := named
          rcases List.mem_cons.mp member with rfl | inside
          · exact same
          · exact absurd ⟨assignment, inside, same⟩ later
        refine ⟨first, List.mem_cons_self, here, ?_⟩
        have kept : (record.set first.1 first.2).assign rest column =
            record.set first.1 first.2 column :=
          Record.assign_other _ fun assignment inside same => later ⟨assignment, inside, same⟩
        exact kept.trans (here ▸ Record.set_same record first.1 first.2)

theorem created_fields (columns : schema.ColumnsDistinct) (known : type ∈ schema.types)
    {definitions : List ColumnDefinition} (laid : tableColumns schema type = .ok definitions)
    {values : Keyed Value} (filled : Fills type.fields values) {record : Record}
    (numbered : Numbered definitions (Record.blank.assign (assignments values)) record)
    {field : Field} (own : field ∈ type.fields) :
    field.type.stores (record (columnName field.name)) ∨
      field = type.identity ∧ field.type = .integer ∧
        Record.blank.assign (assignments values) (idName type) = .null := by
  rcases numbered (columnName field.name) with same | ⟨none, _, definition, member, named, serial⟩
  · refine .inl (same ▸ Record.assign_cases (fun cell => field.type.stores cell) ?_ ?_)
    · cases field.type <;> rfl
    · intro assignment given named
      obtain ⟨field', own', named', stored⟩ := assignments_store filled assignment given
      obtain rfl := same_field columns known own own' (named.symm.trans named')
      exact stored
  · obtain ⟨field', own', named', identity, whole⟩ := serial_column laid member serial
    obtain rfl := same_field columns known own own' (named.symm.trans named'.symm)
    have first : field = type.identity :=
      same_field columns known own List.mem_cons_self (congrArg columnName identity)
    refine .inr ⟨first, whole, ?_⟩
    rw [first] at none
    exact none

theorem given_identity (columns : schema.ColumnsDistinct) (known : type ∈ schema.types)
    {values : Keyed Value} (filled : Fills type.fields values) {value : Value}
    (given : (values.get? type.identity.name).filter (fun id => !id.isNull) = some value) :
    let written := values.filter fun entry => entry.1 ≠ type.identity.name || !entry.2.isNull
    type.identity.type.stores (Record.blank.assign (assignments written) (idName type)) ∧
      Record.blank.assign (assignments written) (idName type) ≠ .null := by
  intro written
  obtain ⟨found, some⟩ := Option.filter_eq_some_iff.mp given
  have among : (type.identity.name, value) ∈ written :=
    List.mem_filter.mpr ⟨Keyed.mem_of_lookup found, by simp [some]⟩
  have place : ∃ assignment ∈ assignments written, assignment.1 = idName type :=
    ⟨_, List.mem_map_of_mem among, rfl⟩
  obtain ⟨assignment, member, named, held⟩ := assigned_value place Record.blank
  obtain ⟨entry, inside, rfl⟩ := List.mem_map.mp member
  obtain ⟨inside, kept⟩ := List.mem_filter.mp inside
  obtain ⟨field, own, named', stores⟩ := filled entry inside
  obtain rfl := same_field columns known own List.mem_cons_self (by rw [named']; exact named)
  have held : Record.blank.assign (assignments written) (idName type) = cellOf entry.2 := held
  rw [held]
  refine ⟨stores, fun none => ?_⟩
  rw [← named'] at kept
  cases shown : entry.2 <;> rw [shown] at kept none <;> simp [Value.isNull, cellOf] at kept none

theorem numbered_identity (whole : type.identity.type = .integer) {held cell : Cell} {value : Value}
    (valued : valueOf type.identity.type held = .ok value)
    (found : idCell? type value.text = some cell) :
    type.identity.type.stores held ∧ held ≠ .null := by
  obtain ⟨again, read, rfl⟩ := Option.map_eq_some_iff.mp found
  unfold EntityType.readId? at read
  rw [whole] at valued read ⊢
  cases held with
  | null =>
      cases valued
      cases read
  | integer number =>
      cases valued
      obtain ⟨number', read, rfl⟩ := Option.map_eq_some_iff.mp read
      have spelled : readInteger? (toString number) = some number' := by assumption
      rw [readInteger_toString] at spelled
      split at spelled
      · rename_i storable
        exact ⟨storable, nofun⟩
      · cases spelled
  | _ => cases valued

theorem get_spelled {connection reached : Connection} {text : String} {resources : List Instance}
    (found : resources ≠ []) (run : execute (Mapping.get type [text]) connection = (.ok resources, reached)) :
    ∃ cell, idCell? type text = some cell := by
  cases spelled : idCell? type text with
  | some cell => exact ⟨cell, rfl⟩
  | none =>
      have nothing : Mapping.get type [text] = pure [] := by
        unfold Mapping.get idCells
        simp [spelled]
      rw [nothing] at run
      cases run
      exact absurd rfl found

theorem readBack_spelled {text : String} {resource : Instance} {connection reached : Connection}
    (run : execute (readBack type text) connection = (.ok resource, reached)) :
    ∃ cell, idCell? type text = some cell := by
  obtain ⟨resources, middle, found, run⟩ := execute_bind_ok run
  refine get_spelled (fun none => ?_) found
  rw [none] at run
  cases run

theorem insert_stores (tables : schema.TablesDistinct) (columns : schema.ColumnsDistinct)
    (known : type ∈ schema.types) {values : Keyed Value} (filled : Fills type.fields values) :
    Maintains (fun database => Laid schema database ∧ FieldsStored schema database)
      (Mapping.insert type values) := by
  refine ⟨fun {connection after resource} start run => ?_⟩
  unfold Mapping.insert at run
  obtain ⟨⟨⟩, checked, fine, run⟩ := execute_bind_ok run
  rw [execute_ofExcept] at fine
  obtain rfl := congrArg Prod.snd fine
  dsimp only at run
  split at run
  · cases run
  · rename_i identified
    obtain ⟨returned, written, inserted, run⟩ := execute_bind_ok run
    have filled' : Fills type.fields (values.filter fun entry =>
        entry.1 ≠ type.identity.name || !entry.2.isNull) :=
      fun entry member => filled entry (List.mem_filter.mp member).1
    obtain ⟨definitions, added, found, changed, numbered, returns⟩ :=
      insert_run (execute_insert_ok inserted)
    obtain ⟨record, _, one, last, rfl⟩ := List.forall₂_cons_left_iff.mp numbered
    cases last
    dsimp only at one changed found returns
    rw [zip_assignments] at one
    obtain ⟨definitions', found', planned⟩ := start.1.entities type known
    cases found.symm.trans found'
    -- The identity decides whether the new record stores what it holds.
    have finish (stores : type.identity.type.stores (record (idName type)))
        (given : record (idName type) ≠ .null) :
        Laid schema written.database ∧ FieldsStored schema written.database := by
      refine ⟨start.1.rewrites changed, start.2.rewrites tables known changed fun other member => ?_⟩
      rcases List.mem_append.mp member with old | new
      · exact start.2.record known old
      · obtain rfl := List.mem_singleton.mp new
        refine rowStores_iff.mpr ⟨fun field own => ?_, given⟩
        rcases created_fields columns known planned filled' one own with stored | ⟨rfl, _, _⟩
        · exact stored
        · exact stores
    split at run
    · rename_i value given
      rw [readBack_same run]
      obtain ⟨stores, some⟩ := given_identity columns known filled given
      rcases one (idName type) with same | ⟨none, _⟩
      · exact finish (same ▸ stores) (same ▸ some)
      · exact absurd none some
    · rename_i cell rest none
      have whole : type.identity.type = .integer := by
        by_contra other
        exact identified ⟨by rw [none]; rfl, other⟩
      have first : cell = record (idName type) := by
        have all := returns (columnName type.identity.name) (by rw [none]; rfl)
        exact (List.cons.inj all).1
      obtain ⟨text, middle, read, run⟩ := execute_bind_ok run
      rw [map_eq_pure_bind] at read
      obtain ⟨value, reached, valued, read⟩ := execute_bind_ok read
      rw [execute_ofExcept] at valued
      cases read
      obtain rfl := congrArg Prod.snd valued
      have valued := congrArg Prod.fst valued
      rw [readBack_same run]
      obtain ⟨again, found⟩ := readBack_spelled run
      obtain ⟨stores, some⟩ := numbered_identity whole valued found
      exact finish (first ▸ stores) (first ▸ some)
    · cases run

theorem update_stores (tables : schema.TablesDistinct) (columns : schema.ColumnsDistinct)
    (known : type ∈ schema.types) {values : Keyed Value} (filled : Fills type.attributes values)
    (id : String) :
    Maintains (fun database => Laid schema database ∧ FieldsStored schema database)
      (Mapping.update type id values) := by
  refine ⟨fun {connection after existed} start run => ?_⟩
  rcases update_assigns start.1.wide run with same | ⟨cell, _, changed⟩
  · rw [same]
    exact start
  · refine ⟨start.1.rewrites changed, start.2.rewrites tables known changed fun other member => ?_⟩
    obtain ⟨record, inside, rfl⟩ := List.mem_map.mp member
    have stores := start.2.record known inside
    split
    · exact RowStores.assign columns known filled stores
    · exact stores

end

theorem FieldsStored.alike {schema : Schema} {before after : Database}
    (same : FieldsAlike schema before after) (stored : FieldsStored schema before) :
    FieldsStored schema after :=
  fun type known row member => stored type known row (same type known ▸ member)

theorem delete_stores {schema : Schema} {type : EntityType} (formed : schema.Formed)
    (tables : schema.TablesDistinct) (keys : schema.KeysApart) (known : type ∈ schema.types) (id : String) :
    Maintains (fun database => Laid schema database ∧ FieldsStored schema database)
      (Mapping.delete schema type id) := by
  cases read : idCell? type id with
  | none =>
      unfold Mapping.delete
      rw [read]
      exact maintains_of_keeps (keeps_pure _)
  | some cell =>
      have invariant : LinkInvariant schema False (FieldsStored schema) :=
        fields_invariant formed tables keys FieldsStored.alike
      refine establishes_weaken (delete_leaves invariant known read) ?_ ?_
      · exact fun _ ⟨laid, stored⟩ => ⟨laid, stored, False.elim⟩
      · rintro _ _ ⟨unlinked, laid, stored, changed⟩
        exact ⟨laid.rewrites changed, stored.rewrites tables known changed fun record member =>
          stored.record known (List.mem_filter.mp member).1⟩

section

variable {api : Api} {holds : Database → Prop}

theorem writeLinkages_maintains {schema : Schema} {type : EntityType} (links : LinkInvariant schema False holds)
    (known : type ∈ schema.types) {linkages : List (Relationship × Linkage)}
    (own : ∀ entry ∈ linkages, entry.1 ∈ type.relationships) (owner : String) (allowed : Bool) :
    Maintains (fun database => Laid schema database ∧ holds database)
      (writeLinkages schema type owner linkages allowed) := by
  refine establishes_weaken (writeLinkages_ready links
    (fun entry member => ⟨known, own entry member, fun _ _ _ => trivial⟩ :
      ∀ entry ∈ linkages, Owned schema (fun _ _ => True) type entry.1 owner) allowed) ?_ ?_
  · exact fun _ start => ⟨start.1, start.2, False.elim⟩
  · exact fun _ _ ready => ⟨ready.laid, ready.held⟩

theorem writes_keep_each {allowed : Request → Prop} (links : LinkInvariant api.schema False holds)
    (create : ∀ type ∈ api.schema.types, ∀ values, Fills type.fields values →
      Maintains (fun database => Laid api.schema database ∧ holds database)
        (Mapping.insert type values))
    (change : ∀ type ∈ api.schema.types, ∀ values, Fills type.attributes values → ∀ id,
      Maintains (fun database => Laid api.schema database ∧ holds database)
        (Mapping.update type id values))
    (delete : ∀ type ∈ api.schema.types, ∀ id,
      Maintains (fun database => Laid api.schema database ∧ holds database)
        (Mapping.delete api.schema type id)) :
    WritesKeep api allowed fun database => Laid api.schema database ∧ holds database where
  store {endpoint request values linkages} known _ read := by
    obtain ⟨filled, own⟩ := readCreation_fills read
    refine establishes_bind (establishes_mapError _ (create _ known _ filled)) fun resource => ?_
    refine establishes_bind (writeLinkages_maintains links known own _ true) fun _ => ?_
    refine establishes_given fun url _ => ?_
    have assembled := assemble_keeps api.assembler api.schema (.single (some resource)) none none url []
    exact establishes_bind (maintains_of_keeps assembled : Maintains
      (fun database => Laid api.schema database ∧ holds database) _) fun _ =>
        establishes_pure fun _ held => held
  change {endpoint request id values linkages} known read := by
    obtain ⟨filled, own⟩ := readChange_fills read
    exact establishes_bind (establishes_mapError _ (change _ known _ filled id)) fun existed =>
      establishes_guard fun _ => writeLinkages_maintains links known own _ _
  delete known := delete _ known _
  links known own := maintains_ready (changeLinks_ready known links own _)

variable {database : Database}

theorem reachable_fields_stored (formed : api.schema.Formed) (tables : api.schema.TablesDistinct)
    (columns : api.schema.ColumnsDistinct) (keys : api.schema.KeysApart)
    (reachable : Reachable api (fun _ => True) database) : FieldsStored api.schema database := by
  have writes : WritesKeep api (fun _ => True)
      fun database => Laid api.schema database ∧ FieldsStored api.schema database :=
    writes_keep_each (fields_invariant formed tables keys FieldsStored.alike)
      (fun _ known _ filled => insert_stores tables columns known filled)
      (fun _ known _ filled => update_stores tables columns known filled)
      (fun _ known => delete_stores formed tables keys known)
  refine (reachable_holds writes (fun connection done => ?_) reachable).2
  refine ⟨registered_laid tables done, fun type _ row member => ?_⟩
  obtain ⟨record, inside, _⟩ := List.mem_map.mp member
  rw [vacant_records (registered_columns done).1] at inside
  cases inside

theorem Stocked.stored {schema : Schema} (stocked : Stocked schema database) : FieldsStored schema database := by
  intro type known row member
  obtain ⟨record, inside, rfl⟩ := List.mem_map.mp member
  exact rowStores_iff.mpr ⟨stocked.typed type known record inside, stocked.identified type known record inside⟩

theorem stocked_of_stored {schema : Schema} (housed : Housed schema database) (stored : FieldsStored schema database)
    (distinct : ∀ type ∈ schema.types,
      ((database.records (tableName type)).map fun record => record (idName type)).Nodup) :
    Stocked schema database where
  housed := housed
  typed _ known _ member := (rowStores_iff.mp (stored.record known member)).1
  identified _ known _ member := (rowStores_iff.mp (stored.record known member)).2
  distinct := distinct

/-- After any requests resources are kept in stock, where no two of a type are written with one identity. -/
theorem reachable_stocked (separate : api.schema.Separate)
    (reachable : Reachable api (fun _ => True) database) (unique : IdsUnique api.schema database) :
    Stocked api.schema database := by
  obtain ⟨formed, tables, columns, keys⟩ : _ ∧ _ ∧ _ ∧ _ :=
    ⟨separate.formed, separate.tables, separate.columns, separate.keys⟩
  have stored := reachable_fields_stored formed tables columns keys reachable
  have kept := (reachable_invariant (kept_invariant formed tables columns keys.fit) False.elim
    (fun _ done => vacant_kept done) reachable).2
  refine stocked_of_stored kept.housed stored fun type known => ?_
  refine List.pairwise_map.mpr ((List.pairwise_filterMap.mp (unique type known)).imp_of_mem
    fun {record other} member member' apart same => ?_)
  obtain ⟨resource, read⟩ := readRecord_ok (kept.typed type known record member)
  obtain ⟨resource', read'⟩ := readRecord_ok (kept.typed type known other member')
  obtain ⟨value, valued, text⟩ := readRow_id read
  obtain ⟨value', valued', text'⟩ := readRow_id read'
  have values : value = value' := Except.ok.inj (valued.symm.trans ((congrArg _ same).trans valued'))
  refine apart _ (writtenId_ok read) _ (writtenId_ok read') ?_
  rw [text, text', values]

end

end ResourceServer
