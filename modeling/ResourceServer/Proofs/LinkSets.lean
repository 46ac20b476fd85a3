import ResourceServer.Proofs.Identities
import ResourceServer.Proofs.Lookup

/-! The links of a relationship as a set of pairs of identities: what its storage holds, and what is loaded of
that. -/

namespace ResourceServer

open ResourceServer.Store ResourceServer.Mapping

/-- A schema that is accepted, whose tables and columns are told apart from each other and from the names under
which links are loaded, and whose identities are of exact types. -/
structure Schema.Separate (schema : Schema) : Prop where
  valid : ∃ types, Schema.ofTypes types = .ok schema
  tables : schema.TablesDistinct
  shared : schema.PairsShared
  pairs : schema.PairsDistinct
  columns : schema.ColumnsDistinct
  keys : schema.KeysApart
  reserved : ∀ type ∈ schema.types, tableName type ≠ "rel_owner" ∧ tableName type ≠ "rel_link"
  exact : ∀ type ∈ schema.types, type.identity.type.Exact

theorem separate_of_decided {schema : Schema} (types : List EntityType) (valid : Schema.ofTypes types = .ok schema)
    (decided : schema.TablesDistinct ∧ schema.PairsShared ∧ schema.PairsDistinct ∧ schema.ColumnsDistinct ∧
      schema.KeysApart ∧ (∀ type ∈ schema.types, tableName type ≠ "rel_owner" ∧ tableName type ≠ "rel_link") ∧
      ∀ type ∈ schema.types, type.identity.type.Exact) : schema.Separate :=
  have ⟨tables, shared, pairs, columns, keys, reserved, exact⟩ := decided
  ⟨⟨types, valid⟩, tables, shared, pairs, columns, keys, reserved, exact⟩

/-- A database with the tables of a schema, filled with values of the types of their fields, where every
resource has an identity that no other of its type has. -/
structure Stocked (schema : Schema) (database : Database) : Prop where
  housed : Housed schema database
  typed : ∀ type ∈ schema.types, ∀ record ∈ database.records (tableName type),
    ∀ field ∈ type.fields, field.type.stores (record (columnName field.name))
  identified : ∀ type ∈ schema.types, ∀ record ∈ database.records (tableName type),
    record (idName type) ≠ .null
  distinct : ∀ type ∈ schema.types,
    ((database.records (tableName type)).map fun record => record (idName type)).Nodup

/-- The columns that a relationship keeps its links in hold null or values of the types of the identities that
they refer to. -/
def KeysTyped (database : Database) (type target : EntityType) : Storage → Prop
  | .ownerKey column => ∀ record ∈ database.records (tableName type),
    (keyType target).takes (record column)
  | .targetKey column => ∀ record ∈ database.records (tableName target),
    (keyType type).takes (record column)
  | .joinTable pairs ownerColumn targetColumn => ∀ pair ∈ database.records pairs,
    (keyType type).takes (pair ownerColumn) ∧ (keyType target).takes (pair targetColumn)

instance (database : Database) (type target : EntityType) :
    (storage : Storage) → Decidable (KeysTyped database type target storage)
  | .ownerKey _ | .targetKey _ | .joinTable .. => inferInstanceAs (Decidable (∀ _ ∈ _, _))

def Holds (database : Database) (type target : EntityType) (storage : Storage)
    (owner other : Cell) : Prop :=
  match storage with
  | .ownerKey column =>
    ∃ record ∈ database.records (tableName type), record (idName type) = owner ∧ record column = other
  | .targetKey column =>
    ∃ record ∈ database.records (tableName target), record (idName target) = other ∧
      record column = owner
  | .joinTable pairs ownerColumn targetColumn =>
    ∃ pair ∈ database.records pairs, pair ownerColumn = owner ∧ pair targetColumn = other

instance (database : Database) (type target : EntityType) (owner other : Cell) :
    (storage : Storage) → Decidable (Holds database type target storage owner other)
  | .ownerKey _ | .targetKey _ | .joinTable .. => inferInstanceAs (Decidable (∃ _ ∈ _, _))

/-- A stored resource of a type is written with an identity. -/
def IsStored (database : Database) (type : EntityType) (id : String) : Prop :=
  ∃ record ∈ database.records (tableName type), ∃ resource,
    readRecord type record = .ok resource ∧ resource.id = id

instance (database : Database) (type : EntityType) (id : String) :
    Decidable (IsStored database type id) :=
  decidable_of_iff (∃ record ∈ database.records (tableName type),
      (readRecord type record).map Instance.id = .ok id) <| by
    refine exists_congr fun record => and_congr_right fun _ => ⟨map_ok, ?_⟩
    rintro ⟨resource, read, rfl⟩
    rw [read]
    rfl

/-- The identities of the targets that are loaded for an owner. -/
def loadedTargets (schema : Schema) (type : EntityType) (relationship : Relationship)
    (connection : Connection) (owner : String) : Except MappingError (List String) :=
  (execute (loadRelation schema type relationship [owner]) connection).1.map fun links =>
    (links.of owner).map Instance.id

section

variable {schema : Schema} {database : Database} {type target : EntityType}
  {relationship : Relationship}

theorem Schema.Separate.formed (separate : schema.Separate) : schema.Formed :=
  separate.valid.elim fun _ accepted => ofTypes_formed accepted

theorem Schema.Separate.keyed (separate : schema.Separate) : schema.KeysNamed :=
  separate.valid.elim fun _ accepted => ofTypes_keys accepted

theorem Schema.Relates.known' (relates : schema.Relates type relationship target) :
    target ∈ schema.types :=
  List.mem_of_find?_eq_some relates.leads

theorem Schema.Relates.found (relates : schema.Relates type relationship target)
    (formed : schema.Formed) :
    Mapping.findRelationship schema type relationship.name = .ok (relationship, target) := by
  obtain ⟨target', _, leads, found⟩ := formed.findRelationship relates.known relates.own
  cases leads.symm.trans relates.leads
  exact found

theorem Housed.has_shape (housed : Housed schema database) (accepted : ∃ types, Schema.ofTypes types = .ok schema)
    (tables : schema.TablesDistinct) (shared : schema.PairsShared) : Shaped schema database := by
  obtain ⟨types, accepted⟩ := accepted
  constructor
  · intro type known
    obtain ⟨table, _, found, wide, laid, _⟩ := housed.entity tables (ofTypes_keys accepted) known
    exact ⟨table, found, laid, wide⟩
  · intro type known relationship own pairs ownerColumn targetColumn storage
    obtain ⟨table, _, found, wide, owners, targets, _⟩ :=
      housed.pairs (ofTypes_formed accepted) tables shared known own storage
    exact ⟨table, found, owners, targets, wide⟩

theorem Housed.shaped (housed : Housed schema database) (separate : schema.Separate) :
    Shaped schema database :=
  housed.has_shape separate.valid separate.tables separate.shared

theorem Stocked.record_eq (stocked : Stocked schema database) (known : type ∈ schema.types)
    {record other : Record} (member : record ∈ database.records (tableName type))
    (member' : other ∈ database.records (tableName type))
    (same : record (idName type) = other (idName type)) : record = other :=
  List.inj_on_of_nodup_map (stocked.distinct type known) member member' same

theorem Stocked.readable (stocked : Stocked schema database) (known : type ∈ schema.types)
    {record : Record} (member : record ∈ database.records (tableName type)) :
    ∃ resource, readRecord type record = .ok resource :=
  readRecord_ok fun field own => FieldType.stores_takes (stocked.typed type known record member field own)

/-- The identity of a stored resource is named by the resource's own text. -/
theorem Stocked.names (stocked : Stocked schema database) (separate : schema.Separate)
    (known : type ∈ schema.types) {record : Record}
    (member : record ∈ database.records (tableName type)) {resource : Instance}
    (read : readRecord type record = .ok resource) :
    type.Names resource.id (record (idName type)) := by
  obtain ⟨value, valued, same⟩ := readRow_id read
  rw [same]
  exact .of_stored (separate.exact type known)
    (stocked.typed type known record member type.identity List.mem_cons_self)
    (stocked.identified type known record member) valued

theorem Stocked.isStored_iff (stocked : Stocked schema database) (separate : schema.Separate)
    (known : type ∈ schema.types) {id : String} :
    IsStored database type id ↔
      ∃ record ∈ database.records (tableName type), type.Names id (record (idName type)) := by
  constructor
  · rintro ⟨record, member, resource, read, rfl⟩
    exact ⟨record, member, stocked.names separate known member read⟩
  · rintro ⟨record, member, named⟩
    obtain ⟨resource, read⟩ := stocked.readable known member
    exact ⟨record, member, resource, read,
      (stocked.names separate known member read).text_eq named⟩

theorem identity_exact (stocked : Stocked schema database) (separate : schema.Separate)
    (known : type ∈ schema.types) {record : Record}
    (member : record ∈ database.records (tableName type)) :
    (record (idName type)).type? ≠ some .decimal :=
  takes_exact (separate.exact type known)
    (FieldType.stores_takes (stocked.typed type known record member type.identity List.mem_cons_self))

theorem mem_ownerCells (stocked : Stocked schema database) (separate : schema.Separate)
    (relates : schema.Relates type relationship target)
    (keys : KeysTyped database type target relationship.storage) {other : Record}
    (member : other ∈ database.records (tableName target)) {cell : Cell} :
    cell ∈ ownerCells database type target relationship.storage other ↔
      Holds database type target relationship.storage cell (other (idName target)) := by
  have identity := identity_exact stocked separate relates.known' member
  have given := stocked.identified target relates.known' other member
  unfold ownerCells Holds
  cases storage : relationship.storage with
  | ownerKey column =>
      rw [storage] at keys
      dsimp only
      rw [List.mem_map]
      constructor
      · rintro ⟨owner, kept, rfl⟩
        obtain ⟨inside, agrees⟩ := List.mem_filter.mp kept
        have key := takes_exact (separate.exact target relates.known') (keys owner inside)
        exact ⟨owner, inside, rfl, ((Cell.agrees_exact key identity).mp agrees).1⟩
      · rintro ⟨owner, inside, rfl, same⟩
        refine ⟨owner, List.mem_filter.mpr ⟨inside, ?_⟩, rfl⟩
        rw [same]
        exact (Cell.agrees_exact identity identity).mpr ⟨rfl, given⟩
  | targetKey column =>
      dsimp only
      rw [List.mem_singleton]
      constructor
      · rintro rfl
        exact ⟨other, member, rfl, rfl⟩
      · rintro ⟨record, inside, same, rfl⟩
        rw [stocked.record_eq relates.known' inside member same]
  | joinTable pairs ownerColumn targetColumn =>
      rw [storage] at keys
      dsimp only
      rw [List.mem_map]
      constructor
      · rintro ⟨pair, kept, rfl⟩
        obtain ⟨inside, agrees⟩ := List.mem_filter.mp kept
        have key := takes_exact (separate.exact target relates.known') (keys pair inside).2
        exact ⟨pair, inside, rfl, ((Cell.agrees_exact key identity).mp agrees).1⟩
      · rintro ⟨pair, inside, rfl, same⟩
        refine ⟨pair, List.mem_filter.mpr ⟨inside, ?_⟩, rfl⟩
        rw [same]
        exact (Cell.agrees_exact identity identity).mpr ⟨rfl, given⟩

theorem holds_kind (stocked : Stocked schema database)
    (known : type ∈ schema.types)
    (keys : KeysTyped database type target relationship.storage) {owner other : Cell}
    (held : Holds database type target relationship.storage owner other) :
    (keyType type).takes owner := by
  unfold Holds at held
  cases storage : relationship.storage with
  | ownerKey column =>
      rw [storage] at held
      obtain ⟨record, inside, rfl, _⟩ := held
      exact FieldType.stores_takes
        (stocked.typed type known record inside type.identity List.mem_cons_self)
  | targetKey column =>
      rw [storage] at held keys
      obtain ⟨record, inside, _, rfl⟩ := held
      exact keys record inside
  | joinTable pairs ownerColumn targetColumn =>
      rw [storage] at held keys
      obtain ⟨pair, inside, rfl, _⟩ := held
      exact (keys pair inside).1

theorem mem_loadedRows {storage : Storage} {owners : List Cell} {row : Row} :
    row ∈ loadedRows database type target storage owners ↔
      ∃ other ∈ database.records (tableName target),
        ∃ cell ∈ ownerCells database type target storage other,
          row = cell :: fieldRow target other ∧ owners.any cell.agrees = true := by
  unfold loadedRows linkRows
  rw [(stableSort_perm _ _).mem_iff, List.mem_filter]
  simp only [List.mem_flatMap, List.mem_map]
  constructor
  · rintro ⟨⟨other, member, cell, stored, rfl⟩, agrees⟩
    exact ⟨other, member, cell, stored, rfl, agrees⟩
  · rintro ⟨other, member, cell, stored, rfl, agrees⟩
    exact ⟨⟨other, member, cell, stored, rfl⟩, agrees⟩

theorem readLink_ok {cell : Cell} {value : Value} {other : Record} {resource : Instance}
    (valued : valueOf type.identity.type cell = .ok value)
    (read : readRecord target other = .ok resource) :
    readLink type target (cell :: fieldRow target other) = .ok (value.text, resource) :=
  bind_of_ok valued (bind_of_ok read rfl)

theorem owner_takes (typed : FieldsTyped schema database)
    (relates : schema.Relates type relationship target)
    (keys : KeysTyped database type target relationship.storage) {other : Record} {cell : Cell}
    (stored : cell ∈ ownerCells database type target relationship.storage other)
    (member : other ∈ database.records (tableName target)) : (keyType type).takes cell := by
  unfold KeysTyped at keys
  unfold ownerCells at stored
  cases storage : relationship.storage with
  | ownerKey column =>
      rw [storage] at stored
      obtain ⟨owner, kept, rfl⟩ := List.mem_map.mp stored
      exact typed.identities relates.known owner (List.mem_filter.mp kept).1
  | targetKey column =>
      rw [storage] at stored keys
      rw [List.mem_singleton.mp stored]
      exact keys other member
  | joinTable pairs ownerColumn targetColumn =>
      rw [storage] at stored keys
      obtain ⟨pair, kept, rfl⟩ := List.mem_map.mp stored
      exact (keys pair (List.mem_filter.mp kept).1).1

theorem links_readable (typed : FieldsTyped schema database)
    (relates : schema.Relates type relationship target)
    (keys : KeysTyped database type target relationship.storage) (owners : List Cell) :
    ∃ links, (loadedRows database type target relationship.storage owners).mapM
      (readLink type target) = .ok links := by
  refine mapM_succeeds fun row loaded => ?_
  obtain ⟨other, member, cell, stored, rfl, _⟩ := mem_loadedRows.mp loaded
  obtain ⟨value, valued⟩ := valueOf_ok (owner_takes typed relates keys stored member)
  obtain ⟨resource, read⟩ := readRecord_ok (typed target relates.known' other member)
  exact ⟨_, readLink_ok valued read⟩

/-- The targets that are loaded for an owner are the stored resources that it is linked to, if the owner is given as
it is written. -/
theorem loadedTargets_ok (stocked : Stocked schema database) (separate : schema.Separate)
    (relates : schema.Relates type relationship target)
    (keys : KeysTyped database type target relationship.storage) {connection : Connection}
    (here : connection.database = database) (owner : String) :
    ∃ ids, loadedTargets schema type relationship connection owner = .ok ids ∧
      ∀ id, id ∈ ids ↔ ∃ cell, type.Names owner cell ∧
        ∃ other ∈ database.records (tableName target), target.Names id (other (idName target)) ∧
          Holds database type target relationship.storage cell (other (idName target)) := by
  have loaded := execute_loadRelation (stocked.housed.shaped separate)
    (separate.reserved target relates.known') relates.known relates.own
    (relates.found separate.formed) here [owner]
  unfold idCells at loaded
  rw [List.filterMap_cons, List.filterMap_nil] at loaded
  cases spelled : idCell? type owner with
  | none =>
      rw [spelled] at loaded
      refine ⟨[], ?_, fun id => ⟨nofun, ?_⟩⟩
      · unfold loadedTargets
        rw [loaded]
        unfold loadedRows
        simp only [List.any_nil, List.filter_false]
        rfl
      · rintro ⟨cell, named, _⟩
        cases spelled.symm.trans named.spelled
  | some cell =>
      rw [spelled] at loaded
      obtain ⟨value, read, rfl⟩ := Option.map_eq_some_iff.mp spelled
      obtain ⟨kind, valued⟩ := FieldType.read_stored read
      generalize cellOf value = cell at *
      have exact := takes_exact (separate.exact type relates.known) (.inr kind)
      have given : cell ≠ .null := by
        rintro rfl
        cases kind
      have rows {row : Row} : row ∈ loadedRows database type target relationship.storage [cell] ↔
          ∃ other ∈ database.records (tableName target),
            row = cell :: fieldRow target other ∧
              Holds database type target relationship.storage cell (other (idName target)) := by
        rw [mem_loadedRows]
        constructor
        · rintro ⟨other, member, stored, among, rfl, agrees⟩
          have held := (mem_ownerCells stocked separate relates keys member).mp among
          have same : stored = cell := by
            have kind' := takes_exact (separate.exact type relates.known)
              (holds_kind stocked relates.known keys held)
            exact ((Cell.agrees_exact kind' exact).mp (by simpa using agrees)).1
          subst same
          exact ⟨other, member, rfl, held⟩
        · rintro ⟨other, member, rfl, held⟩
          refine ⟨other, member, cell, (mem_ownerCells stocked separate relates keys member).mpr held,
            rfl, ?_⟩
          simpa using (Cell.agrees_exact exact exact).mpr ⟨rfl, given⟩
      have readable : ∃ links, (loadedRows database type target relationship.storage [cell]).mapM
          (readLink type target) = .ok links := by
        refine mapM_succeeds fun row member => ?_
        obtain ⟨other, inside, rfl, _⟩ := rows.mp member
        obtain ⟨resource, read⟩ := stocked.readable relates.known' inside
        exact ⟨_, readLink_ok valued read⟩
      obtain ⟨links, read⟩ := readable
      have all := mapM_forall₂ read
      refine ⟨(Links.of links owner).map Instance.id, ?_, fun id => ?_⟩
      · unfold loadedTargets
        rw [loaded, read]
        rfl
      · unfold Links.of
        simp only [List.mem_map, List.mem_filterMap, Option.ite_none_right_eq_some, Option.some.injEq]
        constructor
        · rintro ⟨resource, ⟨link, among, same, rfl⟩, rfl⟩
          obtain ⟨row, member, made⟩ := mem_of_forall₂ all.flip among
          obtain ⟨other, inside, rfl, held⟩ := rows.mp member
          obtain ⟨resource, reads⟩ := stocked.readable relates.known' inside
          cases (readLink_ok valued reads).symm.trans made
          exact ⟨cell, ⟨spelled, value, valued, same⟩, other, inside,
            stocked.names separate relates.known' inside reads, held⟩
        · rintro ⟨cell', named, other, inside, names, held⟩
          cases spelled.symm.trans named.spelled
          obtain ⟨value', valued', written⟩ := named.valued
          cases valued.symm.trans valued'
          obtain ⟨resource, reads⟩ := stocked.readable relates.known' inside
          obtain ⟨link, among, made⟩ := mem_of_forall₂ all (rows.mpr ⟨other, inside, rfl, held⟩)
          cases (readLink_ok valued reads).symm.trans made
          exact ⟨resource, ⟨_, among, written, rfl⟩,
            (stocked.names separate relates.known' inside reads).text_eq names⟩

end

end ResourceServer
