import ResourceServer.Proofs.Integrity
import ResourceServer.Proofs.LinkActions
import ResourceServer.Proofs.Occurrences

/-! Changes of links do to the loaded links what they say, whatever the storage, and to nothing else. -/

namespace ResourceServer

open ResourceServer.Store ResourceServer.Mapping

namespace LinkChange

variable {α β : Type}

inductive Rel (related : α → β → Prop) : LinkChange α → LinkChange β → Prop
  | set {target : Option α} {target' : Option β} (one : Option.Rel related target target') :
      Rel related (.set target) (.set target')
  | add {targets : List α} {targets' : List β} (all : List.Forall₂ related targets targets') :
      Rel related (.add targets) (.add targets')
  | remove {targets : List α} {targets' : List β} (all : List.Forall₂ related targets targets') :
      Rel related (.remove targets) (.remove targets')

theorem links_from {single : Prop} {owner other target : α} {before : α → α → Prop}
    {change : LinkChange α} (linked : change.links single owner before other target) :
    before other target ∨ target ∈ change.targets := by
  cases change with
  | set chosen =>
      rcases linked with ⟨_, same⟩ | ⟨_, held, _⟩
      · exact .inr (Option.mem_toList.mpr same)
      · exact .inl held
  | add more =>
      rcases linked with ⟨rfl, held | member⟩ | ⟨_, held, _⟩
      · exact .inl held
      · exact .inr member
      · exact .inl held
  | remove fewer => exact .inl linked.1

theorem mem_iff_of_forall₂ {related : α → β → Prop} {items : List α} {others : List β}
    (all : List.Forall₂ related items others) {item : α} {other : β}
    (left : ∀ item', related item' other → item' = item)
    (right : ∀ other', related item other' → other' = other) : item ∈ items ↔ other ∈ others := by
  constructor
  · intro member
    obtain ⟨other', inside, one⟩ := mem_of_forall₂ all member
    exact right other' one ▸ inside
  · intro member
    obtain ⟨item', inside, one⟩ := mem_of_forall₂ all.flip member
    exact left item' one ▸ inside

theorem mem_iff_of_rel {related : α → β → Prop} {chosen : Option α} {chosen' : Option β}
    (one : Option.Rel related chosen chosen') {item : α} {other : β}
    (left : ∀ item', related item' other → item' = item)
    (right : ∀ other', related item other' → other' = other) : item ∈ chosen ↔ other ∈ chosen' := by
  cases one with
  | none => simp
  | some related =>
      simp only [Option.mem_some_iff]
      constructor
      · rintro rfl
        exact right _ related
      · rintro rfl
        exact left _ related

theorem links_iff {related : α → β → Prop} {change : LinkChange α} {change' : LinkChange β}
    (rel : change.Rel related change') {single : Prop} {owner other target : α}
    {owner' other' target' : β} {before : α → α → Prop} {before' : β → β → Prop}
    (owned : other = owner ↔ other' = owner') (held : before other target ↔ before' other' target')
    (left : ∀ item, related item target' → item = target)
    (right : ∀ item, related target item → item = target') :
    change.links single owner before other target ↔
      change'.links single owner' before' other' target' := by
  cases rel with
  | set one =>
      unfold links
      dsimp only
      rw [ne_eq, ne_eq, owned, held, mem_iff_of_rel one left right]
  | add all =>
      unfold links
      dsimp only
      rw [mem_iff_of_forall₂ all left right]
      by_cases same : other = owner
      · have same' := owned.mp same
        subst same same'
        simp [held]
      · simp [same, mt owned.mpr same, held]
  | remove all =>
      unfold links
      dsimp only
      rw [owned, held, mem_iff_of_forall₂ all left right]

end LinkChange

theorem forall₂_choose {α β : Type} {related : α → β → Prop} {holds : β → Prop} {items : List α}
    (each : ∀ item ∈ items, ∃ other, related item other ∧ holds other) :
    ∃ others, List.Forall₂ related items others ∧ ∀ other ∈ others, holds other := by
  induction items with
  | nil => exact ⟨[], .nil, nofun⟩
  | cons item rest ih =>
      obtain ⟨other, one, holds⟩ := each item List.mem_cons_self
      obtain ⟨others, all, hold⟩ := ih fun item' member => each item' (List.mem_cons_of_mem _ member)
      refine ⟨other :: others, .cons one all, fun other' member => ?_⟩
      rcases List.mem_cons.mp member with rfl | inside
      · exact holds
      · exact hold other' inside

theorem LinkChange.choose {α β : Type} {related : α → β → Prop} {holds : β → Prop}
    {change : LinkChange α}
    (each : ∀ item ∈ change.targets, ∃ other, related item other ∧ holds other) :
    ∃ change' : LinkChange β, change.Rel related change' ∧ ∀ other ∈ change'.targets, holds other := by
  cases change with
  | set chosen =>
      cases chosen with
      | none => exact ⟨.set none, .set .none, nofun⟩
      | some item =>
          obtain ⟨other, one, hold⟩ := each item List.mem_cons_self
          refine ⟨.set (some other), .set (.some one), fun other' member => ?_⟩
          rw [List.mem_singleton.mp member]
          exact hold
  | add targets =>
      obtain ⟨others, all, hold⟩ := forall₂_choose each
      exact ⟨.add others, .add all, hold⟩
  | remove targets =>
      obtain ⟨others, all, hold⟩ := forall₂_choose each
      exact ⟨.remove others, .remove all, hold⟩

section

variable {schema : Schema} {connection : Connection} {type target : EntityType}
  {relationship : Relationship}

theorem change_done (linkable : Linkable schema connection.database type relationship target)
    {change : LinkChange String} (supported : change.Supported relationship) {owner : String}
    {cell : Cell} (named : type.Names owner cell)
    (present : ∃ record ∈ connection.database.records (tableName type), record (idName type) = cell)
    {cells : LinkChange Cell} (names : change.Rel target.Names cells)
    (presents : ∀ id ∈ cells.targets, ∃ record ∈ connection.database.records (tableName target),
      record (idName target) = id) :
    ∃ after, execute (change.action schema type relationship owner) connection = (.ok (), after) ∧
      Changed schema type target relationship.storage connection.database after.database
        (cells.links relationship.storage.Single cell
          (Holds connection.database type target relationship.storage)) := by
  cases names with
  | set one =>
      exact setToOne_done linkable supported named present one fun id same =>
        presents id (Option.mem_toList.mpr same)
  | add all => exact addToMany_done linkable supported named all presents
  | remove all => exact removeFromMany_done linkable supported named all

end

/-! What is loaded through other relationships. -/

section

variable {schema : Schema} {before after : Database} {place : Place} {type target : EntityType}
  {relationship : Relationship}

theorem forall₂_filter_map {α β γ : Type} {relation : α → β → Prop} {test : α → Bool}
    {test' : β → Bool} {value : α → γ} {value' : β → γ} {items : List α} {others : List β}
    (all : List.Forall₂ relation items others)
    (tests : ∀ item other, relation item other → test' other = test item)
    (values : ∀ item other, relation item other → value' other = value item) :
    (others.filter test').map value' = (items.filter test).map value := by
  induction all with
  | nil => rfl
  | cons one _ ih =>
      rw [List.filter_cons, List.filter_cons, tests _ _ one]
      split
      · rw [List.map_cons, List.map_cons, ih, values _ _ one]
      · exact ih

theorem forall₂_flatMap {α β γ : Type} {relation : α → β → Prop} {make : α → List γ}
    {make' : β → List γ} {items : List α} {others : List β} (all : List.Forall₂ relation items others)
    (same : ∀ item other, relation item other → make' other = make item) :
    others.flatMap make' = items.flatMap make := by
  induction all with
  | nil => rfl
  | cons one _ ih => rw [List.flatMap_cons, List.flatMap_cons, same _ _ one, ih]

theorem linkRows_same
    (free : ∀ holder ∈ schema.types, place ≠ .pairs (tableName holder) ∧
      ∀ field ∈ holder.fields, place ≠ .column (tableName holder) (columnName field.name))
    (outside : ∀ pairs, Pairs schema pairs → ∀ column, place ≠ .column pairs column)
    (refilled : Refilled schema place before after)
    (relates : schema.Relates type relationship target)
    (elsewhere : relationship.storage.place type target ≠ place) :
    linkRows after type target relationship.storage =
      linkRows before type target relationship.storage := by
  refine forall₂_flatMap (refilled.confined _ (free target relates.known').1)
    fun old new alike => ?_
  have fields : fieldRow target new = fieldRow target old :=
    List.map_congr_left fun field own => alike _ ((free target relates.known').2 field own)
  have identity : new (idName target) = old (idName target) :=
    alike _ ((free target relates.known').2 target.identity List.mem_cons_self)
  have cells : ownerCells after type target relationship.storage new =
      ownerCells before type target relationship.storage old := by
    cases storage : relationship.storage with
    | ownerKey column =>
        rw [storage] at elsewhere
        refine forall₂_filter_map (refilled.confined _ (free type relates.known).1)
          (fun owner owner' same => ?_) fun owner owner' same => ?_
        · rw [same column (Ne.symm elsewhere), identity]
        · exact same _ ((free type relates.known).2 type.identity List.mem_cons_self)
    | targetKey column =>
        rw [storage] at elsewhere
        exact congrArg (fun cell => [cell]) (alike column (Ne.symm elsewhere))
    | joinTable pairs ownerColumn targetColumn =>
        rw [storage] at elsewhere
        have apart := outside pairs
          ⟨type, relates.known, relationship, relates.own, _, _, storage⟩
        refine forall₂_filter_map (refilled.confined pairs (Ne.symm elsewhere))
          (fun pair pair' same => ?_) fun pair pair' same => ?_
        · rw [same targetColumn (apart targetColumn), identity]
        · exact same ownerColumn (apart ownerColumn)
  rw [cells, fields]

theorem place_outside (separate : schema.Separate)
    (relates : schema.Relates type relationship target) {pairs : String} (used : Pairs schema pairs)
    (column : String) : relationship.storage.place type target ≠ .column pairs column := by
  cases relationship.storage with
  | ownerKey _ =>
      intro same
      exact separate.tables.apart type relates.known pairs used (Place.column.inj same).1
  | targetKey _ =>
      intro same
      exact separate.tables.apart target relates.known' pairs used (Place.column.inj same).1
  | joinTable _ _ _ => nofun

end

def Loads (schema : Schema) (type : EntityType) (relationship : Relationship)
    (connection : Connection) (owner target : String) : Prop :=
  ∃ ids, loadedTargets schema type relationship connection owner = .ok ids ∧ target ∈ ids

section

variable {schema : Schema} {connection after : Connection} {type target : EntityType}
  {relationship : Relationship}

theorem loads_written (linkable : Linkable schema connection.database type relationship target) (owner : String) :
    (∃ ids, loadedTargets schema type relationship connection owner = .ok ids) ∧
      ∀ id, Loads schema type relationship connection owner id ↔ ∃ cell, type.Names owner cell ∧
        ∃ other ∈ connection.database.records (tableName target),
          target.Names id (other (idName target)) ∧
            Holds connection.database type target relationship.storage cell (other (idName target)) := by
  obtain ⟨ids, loaded, members⟩ := loadedTargets_ok linkable.stocked linkable.separate
    linkable.relates linkable.keys rfl owner
  refine ⟨⟨ids, loaded⟩, fun id => ?_⟩
  rw [← members id]
  constructor
  · rintro ⟨ids', loaded', member⟩
    cases loaded.symm.trans loaded'
    exact member
  · intro member
    exact ⟨ids, loaded, member⟩

theorem loads_iff (linkable : Linkable schema connection.database type relationship target)
    {owner : String} {cell : Cell} (named : type.Names owner cell) :
    (∃ ids, loadedTargets schema type relationship connection owner = .ok ids) ∧
      ∀ id, Loads schema type relationship connection owner id ↔
        ∃ other ∈ connection.database.records (tableName target),
          target.Names id (other (idName target)) ∧
            Holds connection.database type target relationship.storage cell
              (other (idName target)) := by
  obtain ⟨loaded, members⟩ := loads_written linkable owner
  refine ⟨loaded, fun id => (members id).trans ⟨?_, fun found => ⟨cell, named, found⟩⟩⟩
  rintro ⟨cell', named', found⟩
  exact named.cell_eq named' ▸ found

theorem loads_changed (linkable : Linkable schema connection.database type relationship target)
    {change : LinkChange String} {owner : String} {cell : Cell} (named : type.Names owner cell)
    {cells : LinkChange Cell} (names : change.Rel target.Names cells)
    (presents : ∀ id ∈ change.targets, IsStored connection.database target id)
    (changed : Changed schema type target relationship.storage connection.database after.database
      (cells.links relationship.storage.Single cell
        (Holds connection.database type target relationship.storage)))
    {other : String} (stored : IsStored connection.database type other) :
    (∃ ids, loadedTargets schema type relationship after other = .ok ids) ∧
      ∀ id, Loads schema type relationship after other id ↔
        change.links relationship.storage.Single owner
          (Loads schema type relationship connection) other id := by
  have ⟨separate, stocked, relates, _⟩ := linkable
  have linkable' := linkable.changed changed
  obtain ⟨record, inside, names'⟩ := (stocked.isStored_iff separate relates.known).mp stored
  obtain ⟨_, before⟩ := loads_iff linkable names'
  obtain ⟨loaded, later⟩ := loads_iff linkable' names'
  have fields := changed.refilled.fields (place_free separate relates relates.known')
  have owned : other = owner ↔ record (idName type) = cell :=
    ⟨fun same => names'.cell_eq (same ▸ named), fun same => names'.text_eq (same ▸ named)⟩
  refine ⟨loaded, fun id => (later id).trans ?_⟩
  -- A text that no stored target has is linked neither before nor after.
  have step {target' : Record} (member : target' ∈ connection.database.records (tableName target))
      (written : target.Names id (target' (idName target))) :
      change.links relationship.storage.Single owner (Loads schema type relationship connection)
          other id ↔
        Holds after.database type target relationship.storage (record (idName type))
          (target' (idName target)) := by
    rw [changed.holds _ _ names'.given written.given]
    refine LinkChange.links_iff names owned ?_ (fun text one => one.text_eq written)
      fun cell one => one.cell_eq written
    rw [before id]
    constructor
    · rintro ⟨found, _, same, held⟩
      exact same.cell_eq written ▸ held
    · intro held
      exact ⟨target', member, written, held⟩
  constructor
  · rintro ⟨target', member, written, held⟩
    obtain ⟨old, member', same⟩ := mem_of_forall₂ fields.flip member
    have identity : target' (idName target) = old (idName target) :=
      same target.identity List.mem_cons_self
    rw [identity] at written held
    exact (step member' written).mpr held
  · intro linked
    have stored' : IsStored connection.database target id := by
      rcases LinkChange.links_from linked with held | member
      · obtain ⟨found, member, written, _⟩ := (before id).mp held
        exact (stocked.isStored_iff separate relates.known').mpr ⟨found, member, written⟩
      · exact presents id member
    obtain ⟨old, member, written⟩ := (stocked.isStored_iff separate relates.known').mp stored'
    obtain ⟨target', member', same⟩ := mem_of_forall₂ fields member
    have identity : target' (idName target) = old (idName target) :=
      same target.identity List.mem_cons_self
    have held := (step member written).mp linked
    rw [← identity] at written held
    exact ⟨target', member', written, held⟩

theorem isStored_changed (linkable : Linkable schema connection.database type relationship target)
    {links : Cell → Cell → Prop}
    (changed : Changed schema type target relationship.storage connection.database after.database
      links) {holder : EntityType} (known : holder ∈ schema.types) {id : String} :
    IsStored after.database holder id ↔ IsStored connection.database holder id := by
  have ⟨separate, stocked, relates, _⟩ := linkable
  have fields := changed.refilled.fields (place_free separate relates known)
  rw [(linkable.changed changed).stocked.isStored_iff separate known,
    stocked.isStored_iff separate known]
  constructor
  · rintro ⟨record, inside, named⟩
    obtain ⟨old, member, same⟩ := mem_of_forall₂ fields.flip inside
    have identity : record (idName holder) = old (idName holder) :=
      same holder.identity List.mem_cons_self
    exact ⟨old, member, identity ▸ named⟩
  · rintro ⟨old, inside, named⟩
    obtain ⟨record, member, same⟩ := mem_of_forall₂ fields inside
    have identity : record (idName holder) = old (idName holder) :=
      same holder.identity List.mem_cons_self
    exact ⟨record, member, identity ▸ named⟩

theorem change_loads (linkable : Linkable schema connection.database type relationship target)
    {change : LinkChange String} (supported : change.Supported relationship) {owner : String}
    (stored : IsStored connection.database type owner)
    (known : ∀ id ∈ change.targets, IsStored connection.database target id) :
    ∃ after links, execute (change.action schema type relationship owner) connection =
        (.ok (), after) ∧
      Changed schema type target relationship.storage connection.database after.database links ∧
      ∀ other, IsStored connection.database type other →
        (∃ ids, loadedTargets schema type relationship connection other = .ok ids) ∧
        (∃ ids, loadedTargets schema type relationship after other = .ok ids) ∧
        ∀ id, Loads schema type relationship after other id ↔
          change.links relationship.storage.Single owner
            (Loads schema type relationship connection) other id := by
  have ⟨separate, stocked, relates, _⟩ := linkable
  obtain ⟨record, inside, named⟩ := (stocked.isStored_iff separate relates.known).mp stored
  have each : ∀ id ∈ change.targets, ∃ cell, target.Names id cell ∧
      ∃ record ∈ connection.database.records (tableName target), record (idName target) = cell := by
    intro id member
    obtain ⟨record, inside, named⟩ :=
      (stocked.isStored_iff separate relates.known').mp (known id member)
    exact ⟨_, named, record, inside, rfl⟩
  obtain ⟨cells, names, presents⟩ := LinkChange.choose each
  obtain ⟨after, done, changed⟩ :=
    change_done linkable supported named ⟨record, inside, rfl⟩ names presents
  refine ⟨after, _, done, changed, fun other stored' => ?_⟩
  obtain ⟨_, _, named'⟩ := (stocked.isStored_iff separate relates.known).mp stored'
  exact ⟨(loads_iff linkable named').1, loads_changed linkable named names known changed stored'⟩

theorem Changed.references_typed (separate : schema.Separate) (agree : schema.KeyTypesAgree)
    (relates : schema.Relates type relationship target) {before after : Database} {links : Cell → Cell → Prop}
    (changed : Changed schema type target relationship.storage before after links)
    (typed : ReferencesTyped schema before) : ReferencesTyped schema after := by
  intro table column other refers record member
  have ⟨known, own, leads⟩ := relates
  have keys := changed.keys
  have same {other' : EntityType} (refers' : Refers schema table column other')
      (taken : (keyType other').takes (record column)) : (keyType other).takes (record column) :=
    agree _ _ _ _ refers' refers ▸ taken
  by_cases paired : relationship.storage.place type target = .pairs table
  · obtain ⟨ownerColumn, targetColumn, storage⟩ := pairs_place paired
    rw [storage] at keys
    obtain ⟨owners, targets⟩ := keys record member
    have entity {holder : EntityType} (known' : holder ∈ schema.types) : tableName holder ≠ table :=
      separate.tables.apart holder known' table ⟨type, known, relationship, own, _, _, storage⟩
    have shared {owner : EntityType} {relationship' : Relationship} (known' : owner ∈ schema.types)
        (own' : relationship' ∈ owner.relationships) {ownerColumn' targetColumn' : String}
        (storage' : relationship'.storage = .joinTable table ownerColumn' targetColumn') :=
      separate.shared type known relationship own owner known' relationship' own' _ _ _ _ _ storage storage'
    have either : column = ownerColumn ∨ column = targetColumn := by
      cases refers with
      | ownerKey known' _ _ _ => exact absurd rfl (entity known')
      | targetKey _ _ _ leads' => exact absurd rfl (entity (List.mem_of_find?_eq_some leads'))
      | ownerPair known' own' storage' => exact (shared known' own' storage').imp (·.1.symm) (·.2.symm)
      | targetPair known' own' storage' _ => exact (shared known' own' storage').symm.imp (·.1.symm) (·.2.symm)
    rcases either with rfl | rfl
    · exact same (.ownerPair known own storage) owners
    · exact same (.targetPair known own storage leads) targets
  · obtain ⟨old, inside, alike⟩ := mem_of_forall₂ (changed.refilled.confined table paired).flip member
    by_cases here : relationship.storage.place type target = .column table column
    · cases storage : relationship.storage with
      | ownerKey key =>
          rw [storage] at keys here
          cases here
          exact same (.ownerKey known own storage leads) (keys record member)
      | targetKey key =>
          rw [storage] at keys here
          cases here
          exact same (.targetKey known own storage leads) (keys record member)
      | joinTable _ _ _ =>
          rw [storage] at here
          cases here
    · rw [alike column here]
      exact typed table column other refers old inside

/-- Linkage does not depend on storage, where relationships that share a column agree on the type of the identities
in it. A supported change of the links of a stored owner to stored targets succeeds; afterwards the targets of every
owner are those that the change says, where with a key of the target a newly linked target leaves its previous owner.
Links that are kept in another place and the fields of all resources are as before, and so are all values outside the
place of the links. -/
theorem linkage_independent_of_storage (separate : schema.Separate) (agree : schema.KeyTypesAgree)
    (stocked : Stocked schema connection.database) (filled : Filled schema connection.database)
    (relates : schema.Relates type relationship target)
    {change : LinkChange String} (supported : change.Supported relationship) {owner : String}
    (stored : IsStored connection.database type owner)
    (known : ∀ id ∈ change.targets, IsStored connection.database target id) :
    ∃ after, execute (change.action schema type relationship owner) connection = (.ok (), after) ∧
      (∀ other, IsStored connection.database type other →
        (∃ ids, loadedTargets schema type relationship connection other = .ok ids) ∧
        (∃ ids, loadedTargets schema type relationship after other = .ok ids) ∧
        ∀ id, Loads schema type relationship after other id ↔
          change.links relationship.storage.Single owner
            (Loads schema type relationship connection) other id) ∧
      (∀ type' relationship' target', schema.Relates type' relationship' target' →
        relationship'.storage.place type' target' ≠ relationship.storage.place type target →
          ∀ owners, (execute (loadRelation schema type' relationship' owners) after).1 =
            (execute (loadRelation schema type' relationship' owners) connection).1) ∧
      (∀ holder ∈ schema.types,
        (after.database.records (tableName holder)).map (fieldRow holder) =
          (connection.database.records (tableName holder)).map (fieldRow holder)) ∧
      Confined (relationship.storage.place type target) connection.database after.database ∧
      Stocked schema after.database ∧
      ReferencesTyped schema after.database := by
  have typed := filled.references separate agree stocked
  have linkable : Linkable schema connection.database type relationship target :=
    ⟨separate, stocked, relates, typed.keys relates⟩
  obtain ⟨after, links, done, changed, loads⟩ := change_loads linkable supported stored known
  have linkable' := linkable.changed changed
  have free {holder : EntityType} (known : holder ∈ schema.types) :=
    place_free separate relates known
  refine ⟨after, done, loads, fun type' relationship' target' relates' elsewhere owners => ?_,
    fun holder known => ?_, changed.refilled.confined, linkable'.stocked,
    changed.references_typed separate agree relates typed⟩
  · have found := relates'.found separate.formed
    have apart := separate.reserved target' relates'.known'
    rw [execute_loadRelation (linkable'.stocked.housed.shaped separate) apart relates'.known relates'.own found rfl,
      execute_loadRelation (stocked.housed.shaped separate) apart relates'.known relates'.own found rfl]
    have rows := linkRows_same (fun _ known => free known)
      (fun pairs used => place_outside separate relates used) changed.refilled relates' elsewhere
    unfold loadedRows
    rw [rows]
  · exact forall₂_map_eq (changed.refilled.fields (free known)) fun _ _ same =>
      List.map_congr_left fun field own => same field own

end

/-! An author takes over a book. -/

namespace Shelf

def books : Relationship :=
  ⟨"books", .toMany, "book", true, .targetKey "author_id"⟩

theorem separate : schema.Separate where
  valid := ⟨[author, book], rfl⟩
  tables := tablesDistinct
  shared := pairsShared
  pairs := by decide
  columns := columnsDistinct
  keys := keysApart
  reserved := by decide
  exact := by
    intro type known
    simp only [schema, List.mem_cons, List.not_mem_nil, or_false] at known
    rcases known with rfl | rfl <;> exact ⟨by decide, by decide⟩

def connection : Connection :=
  ⟨tables, none, []⟩

theorem stocked : Stocked schema connection.database where
  housed := by
    have fine : ∀ table ∈ tables.tables, (∀ row ∈ table.rows, row.length = table.columns.length) ∧
        table.checkUnique table.rows = .ok () := by decide
    exact ⟨⟨registeredTables api, registers, form?_same (by decide +kernel)⟩,
      fun _ table found => (fine table (List.mem_of_find?_eq_some found)).1,
      fun _ table found => (fine table (List.mem_of_find?_eq_some found)).2⟩
  typed := by decide +kernel
  identified := by decide +kernel
  distinct := by decide +kernel

theorem relates : schema.Relates author books book :=
  ⟨List.mem_cons_self, List.mem_cons_self, rfl⟩

theorem keyTypesAgree : schema.KeyTypesAgree :=
  keysAgree.types

theorem filled : Filled schema connection.database :=
  ⟨stocked.housed.registered, by decide⟩

end Shelf

theorem book_joins_author :
    Shelf.schema.Separate ∧ Shelf.schema.KeyTypesAgree ∧
      Stocked Shelf.schema Shelf.connection.database ∧ Filled Shelf.schema Shelf.connection.database ∧
      Shelf.schema.Relates Shelf.author Shelf.books Shelf.book ∧
      (LinkChange.add ["2"]).Supported Shelf.books ∧
      IsStored Shelf.connection.database Shelf.author "1" ∧
      (∀ id ∈ (LinkChange.add ["2"]).targets,
        IsStored Shelf.connection.database Shelf.book id) ∧
      ∃ after, execute (addToMany Shelf.schema Shelf.author Shelf.books "1" ["2"])
          Shelf.connection = (.ok (), after) ∧
        Loads Shelf.schema Shelf.author Shelf.books after "1" "2" := by
  have supported : (LinkChange.add ["2"]).Supported Shelf.books := nofun
  have owner : IsStored Shelf.connection.database Shelf.author "1" := by decide +kernel
  have known : ∀ id ∈ (LinkChange.add ["2"]).targets,
      IsStored Shelf.connection.database Shelf.book id := by decide +kernel
  refine ⟨Shelf.separate, Shelf.keyTypesAgree, Shelf.stocked, Shelf.filled, Shelf.relates, supported, owner,
    known, ?_⟩
  obtain ⟨after, done, loads, _⟩ := linkage_independent_of_storage Shelf.separate Shelf.keyTypesAgree
    Shelf.stocked Shelf.filled Shelf.relates supported owner known
  refine ⟨after, done, ?_⟩
  exact ((loads "1" owner).2.2 "2").mpr (.inl ⟨rfl, .inr List.mem_cons_self⟩)

/-- Where notes and days share a column, a day is taken for the note of the same text, and is not linked. -/
theorem note_keeps_day_out :
    Diary.schema.Separate ∧ Stocked Diary.schema Diary.connection.database ∧
      Filled Diary.schema Diary.connection.database ∧ Diary.schema.Relates Diary.post Diary.days Diary.day ∧
      (LinkChange.add ["2020-01-01"]).Supported Diary.days ∧
      IsStored Diary.connection.database Diary.post "p" ∧
      (∀ id ∈ (LinkChange.add ["2020-01-01"]).targets, IsStored Diary.connection.database Diary.day id) ∧
      ∃ after, execute (addToMany Diary.schema Diary.post Diary.days "p" ["2020-01-01"]) Diary.connection =
          (.ok (), after) ∧
        loadedTargets Diary.schema Diary.post Diary.days after "p" = .ok [] := by
  have added : (execute (addToMany Diary.schema Diary.post Diary.days "p" ["2020-01-01"]) Diary.connection).1 =
      .ok () := by decide
  exact ⟨Diary.separate, Diary.stocked, Diary.filled, Diary.relates, nofun, by decide +kernel, by decide +kernel,
    _, execute_outcome added, by decide +kernel⟩

end ResourceServer
