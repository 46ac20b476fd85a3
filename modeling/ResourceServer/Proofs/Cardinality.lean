import ResourceServer.Proofs.Filtering
import ResourceServer.Proofs.LinkSteps
import ResourceServer.Proofs.Occurrences

/-! A to-one relationship that keeps its links in a place of its own leads each owner to one target at most, and
changes keep it so. -/

namespace ResourceServer

open ResourceServer.Store ResourceServer.Mapping ResourceServer.Api

/-- The table of a type keeps identities unique by themselves, and not only together with more fields. -/
def EntityType.KeyedById (type : EntityType) : Prop :=
  type.extraKey = [] ∨ type.identity.unique = true

instance (type : EntityType) : Decidable type.KeyedById :=
  inferInstanceAs (Decidable (_ ∨ _))

/-- Resources of a type are told apart by their identities: its table keeps them unique, and they are not decimals,
of which the two zeros agree. -/
def EntityType.ToldApart (type : EntityType) : Prop :=
  type.identity.type ≠ .decimal ∧ type.KeyedById

instance (type : EntityType) : Decidable type.ToldApart :=
  inferInstanceAs (Decidable (_ ∧ _))

def Schema.KeptAlone (schema : Schema) (type : EntityType) (relationship : Relationship)
    (target : EntityType) : Prop :=
  ∀ other via other', schema.Relates other via other' →
    via.storage.place other other' = relationship.storage.place type target →
      other = type ∧ via = relationship

/-- A to-one relationship to resources that are told apart. Where owners have the key, they are told apart as
well; elsewhere no other relationship keeps its links in the same place. -/
structure Schema.LeadsToOne (schema : Schema) (type : EntityType) (relationship : Relationship)
    (target : EntityType) : Prop where
  relates : schema.Relates type relationship target
  toOne : relationship.isToMany = false
  targets : target.ToldApart
  owners : match relationship.storage with
    | .ownerKey _ => type.ToldApart
    | _ => schema.KeptAlone type relationship target

def OwnersOnce (database : Database) (type target : EntityType) : Storage → Prop
  | .ownerKey _ => Once (inColumn (idName type) (database.records (tableName type)))
  | .targetKey column => Once (inColumn column (database.records (tableName target)))
  | .joinTable pairs ownerColumn _ => Once (inColumn ownerColumn (database.records pairs))

/-- A housed database in which all columns hold values of their types, and in which a relationship names each owner
once. -/
structure Sole (schema : Schema) (type : EntityType) (relationship : Relationship)
    (target : EntityType) (database : Database) : Prop where
  housed : Housed schema database
  typed : FieldsTyped schema database
  references : ReferencesTyped schema database
  once : OwnersOnce database type target relationship.storage

section

variable {schema : Schema} {database before after : Database} {type target : EntityType}
  {relationship : Relationship}

theorem few_iff {α : Type} {items : List α} :
    items.length ≤ 1 ↔ items.Pairwise fun _ _ => False := by
  match items with
  | [] => simp
  | [_] => simp
  | first :: second :: rest =>
      refine iff_of_false (by simp) fun pairs => ?_
      exact (List.pairwise_cons.mp pairs).1 second List.mem_cons_self

theorem Housed.identity_unique (housed : Housed schema database) (distinct : schema.TablesDistinct)
    (known : type ∈ schema.types) (keyed : type.KeyedById) :
    KeyUnique [idName type] (database.records (tableName type)) := by
  obtain ⟨table, found, _, _, unique⟩ := housed.planned distinct known
  have obeyed := (checkUnique_records unique).mp (housed.obeyed _ table found)
  rw [records_of_table found]
  refine obeyed _ ?_
  rcases keyed with plain | own
  · unfold EntityType.keys EntityType.primaryKey
    rw [plain]
    exact List.mem_cons_self
  · refine List.mem_cons_of_mem _ (List.mem_map.mpr ⟨type.identity, ?_, rfl⟩)
    exact List.mem_filter.mpr ⟨List.mem_cons_self, own⟩

theorem Housed.identities (housed : Housed schema database) (typed : FieldsTyped schema database)
    (distinct : schema.TablesDistinct) (known : type ∈ schema.types) (apart : type.ToldApart) :
    Once (inColumn (idName type) (database.records (tableName type))) :=
  KeyUnique.once (housed.identity_unique distinct known apart.2) fun record member =>
    takes_whole apart.1 (typed.identities known record member)

theorem agreeing_kind {kind : ColumnType} {cell other : Cell} (taken : kind.takes cell)
    (agree : cell.agrees other) : cell.type? = some kind := by
  refine taken.resolve_left ?_
  rintro rfl
  cases (Cell.agrees_null other).symm.trans (Cell.agrees_symm agree)

theorem Once.apart {column : String} {records : List Record} {kind : ColumnType}
    (once : Once (inColumn column records)) (typed : ∀ record ∈ records, kind.takes (record column)) :
    records.Pairwise fun left right => ∀ value, kind.takes value →
      ¬((left column).agrees value ∧ (right column).agrees value) := by
  unfold Once inColumn at once
  rw [List.pairwise_map] at once
  refine once.imp_of_mem fun {left right} _ member apart value taken both => ?_
  have kind := agreeing_kind taken (Cell.agrees_symm both.1)
  have agree := Cell.agrees_trans both.1 (Cell.agrees_symm both.2)
    (kind.trans (agreeing_kind (typed right member) both.2).symm)
  cases apart.symm.trans agree

theorem Once.few {column : String} {records : List Record} {kind : ColumnType}
    (once : Once (inColumn column records)) (typed : ∀ record ∈ records, kind.takes (record column))
    {value : Cell} (taken : kind.takes value) :
    (records.filter fun record => (record column).agrees value).length ≤ 1 := by
  refine few_iff.mpr (List.pairwise_filter.mpr ((once.apart typed).imp ?_))
  exact fun apart here there => apart value taken ⟨here, there⟩

theorem Written.through (alone : schema.KeptAlone type relationship target)
    (relates : schema.Relates type relationship target) {column : String}
    (storage : relationship.storage = .targetKey column) {meets : Record → Bool} {cell : Cell}
    (written : Written schema before (tableName target) column meets cell) :
    cell = .null ∨ (relationship.isToMany = false →
      Freed (tableName target) column cell before ∧
        ∃ identity, identity.type? = some (keyType target) ∧
          meets = fun record => (record (idName target)).agrees identity) := by
  cases written with
  | null => exact .inl rfl
  | ownerKey relates' storage' here _ =>
      obtain ⟨rfl, rfl⟩ := alone _ _ _ relates' (by
        rw [storage, storage']
        exact congrArg (Place.column · column) here.symm)
      cases storage.symm.trans storage'
  | targetKey relates' storage' here kind single =>
      obtain ⟨rfl, rfl⟩ := alone _ _ _ relates' (by
        rw [storage, storage']
        exact congrArg (Place.column · column) here.symm)
      cases relates'.leads.symm.trans relates.leads
      exact .inr single

theorem Written.pairs (tables : schema.TablesDistinct) {pairs column : String}
    (used : Pairs schema pairs) {meets : Record → Bool} {cell : Cell}
    (written : Written schema before pairs column meets cell) : cell = .null := by
  cases written with
  | null => rfl
  | ownerKey relates _ here => exact absurd here.symm (tables.apart _ relates.known _ used)
  | targetKey relates _ here => exact absurd here.symm (tables.apart _ relates.known' _ used)

theorem Joined.used {pairs ownerColumn targetColumn : String} {added : List Record}
    (joined : Joined schema before pairs added type target relationship ownerColumn targetColumn) :
    Pairs schema pairs :=
  ⟨type, joined.relates.known, relationship, joined.relates.own, ownerColumn, targetColumn,
    joined.storage⟩

theorem Joined.through (alone : schema.KeptAlone type relationship target)
    {pairs ownerColumn targetColumn : String}
    (storage : relationship.storage = .joinTable pairs ownerColumn targetColumn)
    {added : List Record} {type' target' : EntityType} {via : Relationship}
    {ownerColumn' targetColumn' : String}
    (joined : Joined schema before pairs added type' target' via ownerColumn' targetColumn') :
    via = relationship ∧ ownerColumn = ownerColumn' ∧ targetColumn = targetColumn' := by
  obtain ⟨rfl, rfl⟩ := alone _ _ _ joined.relates (by rw [storage, joined.storage]; rfl)
  cases joined.storage.symm.trans storage
  exact ⟨rfl, rfl, rfl⟩

theorem Sole.once_kept (sole : Sole schema type relationship target before)
    (changes : Changes schema False before after) (housed : Housed schema after)
    (typed : FieldsTyped schema after) (tables : schema.TablesDistinct)
    (apart : schema.PairsDistinct) (keys : schema.KeysApart)
    (one : schema.LeadsToOne type relationship target) :
    OwnersOnce after type target relationship.storage := by
  obtain ⟨relates, toOne, targets, owners⟩ := one
  have start := sole.once
  unfold OwnersOnce at start ⊢
  cases storage : relationship.storage with
  | ownerKey column =>
      rw [storage] at owners
      exact housed.identities typed tables relates.known owners
  | targetKey column =>
      rw [storage] at start owners
      have refers := Refers.targetKey relates.known relates.own storage relates.leads
      refine (changes.recolumned keys refers).once (fun meets cell written => ?_)
        (fun joined => absurd rfl (tables.apart target relates.known' _ joined.used)) start
      refine (written.through owners relates storage).imp_right fun single => ?_
      obtain ⟨freed, identity, kind, rfl⟩ := single toOne
      have identities := sole.housed.identities sole.typed tables relates.known' targets
      refine ⟨freed, (identities.apart (sole.typed.identities relates.known')).imp fun apart => ?_⟩
      exact apart identity (.inr kind)
  | joinTable pairs ownerColumn targetColumn =>
      rw [storage] at start owners
      have used : Pairs schema pairs :=
        ⟨type, relates.known, relationship, relates.own, ownerColumn, targetColumn, storage⟩
      have distinct := apart type relates.known relationship relates.own _ _ _ storage
      refine (changes.recolumned keys (.ownerPair relates.known relates.own storage)).once
        (fun meets cell written => .inl (written.pairs tables used)) (fun joined => ?_) start
      obtain ⟨rfl, rfl, rfl⟩ := joined.through owners storage
      constructor
      · -- A to-one relationship adds one pair at most.
        unfold Once inColumn
        rw [List.pairwise_map]
        exact (few_iff.mp (joined.single toOne)).imp False.elim
      · intro record member
        obtain ⟨owner, other, rfl, _, _, fresh⟩ := joined.each record member
        have same : Record.blank.assign [(ownerColumn, owner), (targetColumn, other)] ownerColumn =
            owner := pairRecord_owner distinct (owner, other)
        rw [same]
        exact fresh toOne

theorem vacant_wide (vacant : database.Vacant) : database.Wide := by
  intro name table found row member
  rw [vacant name table found] at member
  cases member

theorem vacant_obeyed (vacant : database.Vacant) : database.Obeyed := by
  intro name table found
  unfold Table.checkUnique
  rw [vacant name table found]
  have none_repeated : table.uniqueKeys.find? (fun key =>
      Table.hasRepeats ([].filterMap (Table.keyOf? key))) = none :=
    List.find?_eq_none.mpr fun _ _ => by simp [Table.hasRepeats]
  rw [none_repeated]

theorem vacant_sole {connection : Connection}
    (done : execute (register schema) ⟨Database.empty, none, []⟩ = (.ok (), connection)) :
    Sole schema type relationship target connection.database := by
  have vacant := (registered_columns done).1
  have none := vacant_records vacant
  refine ⟨⟨⟨connection, done, rfl⟩, vacant_wide vacant, vacant_obeyed vacant⟩, vacant_typed vacant,
    fun table column target _ record member => ?_, ?_⟩
  · rw [none] at member
    cases member
  · unfold OwnersOnce
    split <;> rw [none] <;> exact .nil

theorem sole_invariant (formed : schema.Formed) (tables : schema.TablesDistinct)
    (columns : schema.ColumnsDistinct) (apart : schema.PairsDistinct) (keys : schema.KeysApart)
    (agree : schema.KeysAgree) (one : schema.LeadsToOne type relationship target) :
    Invariant schema False (Sole schema type relationship target) where
  formed := formed
  tables := tables
  columns := columns
  keys := False.elim
  kept _ changes filled sole := by
    obtain ⟨name, records, changed⟩ := changes.rewrites
    have housed := sole.housed.refills filled changed
    have typed := changes.typed tables columns keys.fit sole.typed
    exact ⟨housed, typed, changes.references_typed keys agree.types sole.references,
      sole.once_kept changes housed typed tables apart keys one⟩

theorem Once.joined {others holders : List Record} {own tied held : String}
    (once : Once (inColumn held holders))
    (apart : others.Pairwise fun left right => ∀ holder ∈ holders,
      ¬((left own).agrees (holder tied) ∧ (right own).agrees (holder tied))) :
    Once (others.flatMap fun other =>
      (holders.filter fun holder => (holder tied).agrees (other own)).map fun holder =>
        holder held) := by
  unfold Once
  rw [List.pairwise_flatMap]
  refine ⟨fun other _ => once.sublist (List.filter_sublist.map _), apart.imp ?_⟩
  intro left right apart cell member cell' member'
  obtain ⟨holder, kept, rfl⟩ := List.mem_map.mp member
  obtain ⟨holder', kept', rfl⟩ := List.mem_map.mp member'
  obtain ⟨inside, agrees⟩ := List.mem_filter.mp kept
  obtain ⟨inside', agrees'⟩ := List.mem_filter.mp kept'
  by_contra agree
  obtain rfl := once.record_eq inside inside' (by simpa using agree)
  exact apart holder inside ⟨Cell.agrees_symm agrees, Cell.agrees_symm agrees'⟩

def linkOwner (row : Row) : Cell :=
  row.headD .null

theorem linkRows_owners {storage : Storage} :
    (linkRows database type target storage).map linkOwner =
      (database.records (tableName target)).flatMap (ownerCells database type target storage) := by
  unfold linkRows
  rw [List.map_flatMap]
  refine List.flatMap_congr fun other _ => ?_
  rw [List.map_map]
  exact List.map_id _

theorem Sole.owners (sole : Sole schema type relationship target database)
    (tables : schema.TablesDistinct) (one : schema.LeadsToOne type relationship target) :
    Once ((linkRows database type target relationship.storage).map linkOwner) := by
  have relates := one.relates
  have once := sole.once
  have keys := sole.references.keys relates
  have identities := sole.housed.identities sole.typed tables relates.known' one.targets
  have apart := identities.apart (sole.typed.identities relates.known')
  rw [linkRows_owners]
  unfold OwnersOnce at once
  unfold KeysTyped at keys
  unfold ownerCells
  cases storage : relationship.storage with
  | ownerKey column =>
      rw [storage] at once keys
      exact once.joined (apart.imp fun both holder member => both _ (keys holder member))
  | targetKey column =>
      rw [storage] at once
      rw [← List.map_eq_flatMap]
      exact once
  | joinTable pairs ownerColumn targetColumn =>
      rw [storage] at once keys
      exact once.joined (apart.imp fun both holder member => both _ (keys holder member).2)

theorem Sole.loaded_owners (sole : Sole schema type relationship target database)
    (tables : schema.TablesDistinct) (one : schema.LeadsToOne type relationship target)
    (owners : List Cell) :
    (loadedRows database type target relationship.storage owners).Pairwise fun left right =>
      (linkOwner left).agrees (linkOwner right) = false := by
  refine ((stableSort_perm _ _).pairwise_iff Cell.agrees_false_symm).mpr ?_
  exact (List.pairwise_map.mp (sole.owners tables one)).sublist List.filter_sublist

theorem Sole.readable (sole : Sole schema type relationship target database)
    (relates : schema.Relates type relationship target) (owners : List Cell) :
    ∃ links, (loadedRows database type target relationship.storage owners).mapM
      (readLink type target) = .ok links :=
  links_readable sole.typed relates (sole.references.keys relates) owners

theorem readLink_owner {row : Row} {link : String × Instance}
    (read : readLink type target row = .ok link) :
    ∃ value, valueOf type.identity.type (linkOwner row) = .ok value ∧ link.1 = value.text := by
  cases row with
  | nil => cases read
  | cons owner row =>
      obtain ⟨value, valued, read⟩ := bind_ok read
      obtain ⟨resource, _, same⟩ := bind_ok read
      cases same
      exact ⟨value, valued, rfl⟩

theorem Sole.loaded_for (sole : Sole schema type relationship target database)
    (relates : schema.Relates type relationship target) {owners : List String} {row : Row}
    (loaded : row ∈ loadedRows database type target relationship.storage (idCells type owners)) :
    (linkOwner row).type? = some (keyType type) ∧
      ∃ owner ∈ owners, ∃ value, type.readId? owner = some value ∧
        (linkOwner row).agrees (cellOf value) := by
  obtain ⟨other, member, cell, stored, rfl, asked⟩ := mem_loadedRows.mp loaded
  obtain ⟨asks, among, agrees⟩ := List.any_eq_true.mp asked
  obtain ⟨owner, given, spelled⟩ := List.mem_filterMap.mp among
  obtain ⟨value, read, rfl⟩ := Option.map_eq_some_iff.mp spelled
  have kind := owner_takes sole.typed relates (sole.references.keys relates) stored member
  exact ⟨agreeing_kind kind agrees, owner, given, value, read, agrees⟩

theorem Sole.loaded_few (sole : Sole schema type relationship target database)
    (tables : schema.TablesDistinct) (one : schema.LeadsToOne type relationship target)
    (owner : String) :
    (loadedRows database type target relationship.storage (idCells type [owner])).length ≤ 1 := by
  rw [few_iff]
  refine (sole.loaded_owners tables one _).imp_of_mem fun {left right} loaded loaded' apart => ?_
  obtain ⟨_, asked, given, value, read, agrees⟩ := sole.loaded_for one.relates loaded
  obtain ⟨kind, asked', given', value', read', agrees'⟩ := sole.loaded_for one.relates loaded'
  obtain rfl := List.mem_singleton.mp given
  obtain rfl := List.mem_singleton.mp given'
  cases read.symm.trans read'
  have agree := Cell.agrees_trans agrees (Cell.agrees_symm agrees')
    ((FieldType.read_stored read).1.trans kind.symm)
  cases apart.symm.trans agree

theorem Sole.links_apart (sole : Sole schema type relationship target database)
    (tables : schema.TablesDistinct) (one : schema.LeadsToOne type relationship target)
    (exact : type.identity.type.Exact) {owners : List String} {links : Links}
    (read : (loadedRows database type target relationship.storage (idCells type owners)).mapM
      (readLink type target) = .ok links) : links.Pairwise fun left right => left.1 ≠ right.1 := by
  -- The owner of a link is the value that its text spells.
  have spelled {row : Row} {link : String × Instance}
      (loaded : row ∈ loadedRows database type target relationship.storage (idCells type owners))
      (made : readLink type target row = .ok link) :
      (type.readId? link.1).map cellOf = some (linkOwner row) ∧ linkOwner row ≠ .null := by
    obtain ⟨kind, _, _, value, asked, agrees⟩ := sole.loaded_for one.relates loaded
    obtain ⟨kind', stored⟩ := FieldType.read_stored asked
    obtain ⟨same, given⟩ := (Cell.agrees_exact (takes_exact exact (.inr kind))
      (takes_exact exact (.inr kind'))).mp agrees
    obtain ⟨value', valued, text⟩ := readLink_owner made
    rw [same] at valued
    cases stored.symm.trans valued
    refine ⟨?_, given⟩
    have reread : type.readId? value.text = some value :=
      FieldType.read_text exact.notDuration asked
    rw [text, reread, same]
    rfl
  have pairs := (sole.loaded_owners tables one (idCells type owners)).imp_of_mem
    fun loaded loaded' apart => And.intro (And.intro loaded loaded') apart
  refine pairwise_of_forall₂ (mapM_forall₂ read) pairs
    fun {left link right link'} made made' ⟨⟨loaded, loaded'⟩, apart⟩ same => ?_
  obtain ⟨here, given⟩ := spelled loaded made
  obtain ⟨there, _⟩ := spelled loaded' made'
  rw [same] at here
  have owners := Option.some.inj (here.symm.trans there)
  obtain ⟨kind, _⟩ := sole.loaded_for one.relates loaded
  have whole := takes_exact exact (.inr kind)
  have agree := (Cell.agrees_exact whole (owners ▸ whole)).mpr ⟨owners, given⟩
  cases apart.symm.trans agree

/-- One owner has one loaded link at most, if links are told apart by the texts of their owners. -/
theorem links_few {links : Links} (apart : links.Pairwise fun left right => left.1 ≠ right.1)
    (owner : String) : (links.of owner).length ≤ 1 := by
  rw [few_iff]
  unfold Links.of
  refine List.pairwise_filterMap.mpr (apart.imp fun {left right} differ _ one _ other => ?_)
  obtain ⟨here, _⟩ := Option.ite_none_right_eq_some.mp one
  obtain ⟨there, _⟩ := Option.ite_none_right_eq_some.mp other
  exact differ (here.trans there.symm)

end

end ResourceServer
