import ResourceServer.Proofs.LinkSteps
import ResourceServer.Proofs.Identities

/-! What changes of links do to the set of links that a storage holds. -/

namespace ResourceServer

open ResourceServer.Store ResourceServer.Mapping

/-- A change of the targets that one owner is linked to. -/
inductive LinkChange (α : Type)
  | set (target : Option α)
  | add (targets : List α)
  | remove (targets : List α)

namespace LinkChange

variable {α : Type}

def targets : LinkChange α → List α
  | .set target => target.toList
  | .add targets => targets
  | .remove targets => targets

def action (schema : Schema) (type : EntityType) (relationship : Relationship) (owner : String) :
    LinkChange String → MappingAction Unit
  | .set target => setToOne schema type relationship owner target
  | .add targets => addToMany schema type relationship owner targets
  | .remove targets => removeFromMany schema type relationship owner targets

/-- To-one relationships are set; a key of the owner has no room to add and remove links. -/
def Supported (relationship : Relationship) : LinkChange α → Prop
  | .set _ => relationship.isToMany = false
  | .add _ => ∀ column, relationship.storage ≠ .ownerKey column
  | .remove _ => ∀ column, relationship.storage ≠ .ownerKey column

/-- The links after a change. A target that is single leaves its other owners once it is linked to a new one. -/
def links (single : Prop) (owner : α) (before : α → α → Prop) (change : LinkChange α)
    (other target : α) : Prop :=
  match change with
  | .set chosen =>
    other = owner ∧ target ∈ chosen ∨ other ≠ owner ∧ before other target ∧ ¬(single ∧ target ∈ chosen)
  | .add more =>
    other = owner ∧ (before owner target ∨ target ∈ more) ∨
      other ≠ owner ∧ before other target ∧ ¬(single ∧ target ∈ more)
  | .remove fewer => before other target ∧ ¬(other = owner ∧ target ∈ fewer)

end LinkChange

/-- Links in a key of the target are to single targets. -/
def Storage.Single : Storage → Prop
  | .targetKey _ => True
  | _ => False

def HeldIn (records : List Record) (first second : String) (one other : Cell) : Prop :=
  ∃ record ∈ records, record first = one ∧ record second = other

section

variable {records : List Record} {first second : String} {one other value : Cell}
  {meets : Record → Bool}

theorem heldIn_set (apart : first ≠ second) :
    HeldIn (records.map fun record => if meets record then record.set second value else record)
        first second one other ↔
      ∃ record ∈ records, record first = one ∧
        (if meets record then value else record second) = other := by
  unfold HeldIn
  simp only [List.mem_map, exists_exists_and_eq_and]
  refine exists_congr fun record => and_congr_right fun _ => ?_
  split
  · rw [Record.set_other value apart, Record.set_same]
  · rfl

theorem heldIn_filter :
    HeldIn (records.filter meets) first second one other ↔
      ∃ record ∈ records, meets record = true ∧ record first = one ∧ record second = other := by
  unfold HeldIn
  simp only [List.mem_filter, and_assoc]

theorem heldIn_pairs (apart : first ≠ second) {cells : List Cell} :
    HeldIn (records ++ cells.map fun cell => pairRecord first second (value, cell)) first second
        one other ↔
      HeldIn records first second one other ∨ one = value ∧ other ∈ cells := by
  unfold HeldIn
  simp only [List.mem_append, List.mem_map, or_and_right, exists_or]
  refine or_congr_right ⟨?_, ?_⟩
  · rintro ⟨record, ⟨cell, member, rfl⟩, rfl, rfl⟩
    rw [pairRecord_owner apart, pairRecord_target]
    exact ⟨rfl, member⟩
  · rintro ⟨rfl, member⟩
    exact ⟨_, ⟨other, member, rfl⟩, pairRecord_owner apart _, pairRecord_target _ _ _⟩

end

/-- A change has been made: only the place of the links is different, which holds the changed links. -/
structure Changed (schema : Schema) (type target : EntityType) (storage : Storage)
    (before after : Database) (links : Cell → Cell → Prop) : Prop where
  refilled : Refilled schema (storage.place type target) before after
  keys : KeysTyped after type target storage
  holds : ∀ owner other, owner ≠ .null → other ≠ .null →
    (Holds after type target storage owner other ↔ links owner other)

/-- A table of a type has a key column beside the columns of its fields. -/
structure KeyColumn (database : Database) (holder : EntityType) (column : String) : Prop where
  has : ∀ table, database.table? (tableName holder) = some table → table.Has column
  free : ∀ field ∈ holder.fields, columnName field.name ≠ column

theorem KeyColumn.apart {database : Database} {holder : EntityType} {column : String}
    (key : KeyColumn database holder column) : idName holder ≠ column :=
  key.free holder.identity List.mem_cons_self

section

variable {schema : Schema} {database : Database} {type target : EntityType}
  {relationship : Relationship} {column : String}

theorem ownerKey_place (housed : Housed schema database) (separate : schema.Separate)
    (relates : schema.Relates type relationship target)
    (storage : relationship.storage = .ownerKey column) : KeyColumn database type column := by
  constructor
  · intro table found
    obtain ⟨table', _, found', _, laid, _⟩ :=
      housed.entity separate.tables separate.keyed relates.known
    cases found.symm.trans found'
    obtain ⟨_, leads, _⟩ := findRelationship_ok (relates.found separate.formed)
    exact ownerKey_column laid relates.own storage leads
  · exact separate.keys _ _ _ (.ownerKey relates.known relates.own storage relates.leads) type
      relates.known rfl

theorem targetKey_place (housed : Housed schema database) (separate : schema.Separate)
    (relates : schema.Relates type relationship target)
    (storage : relationship.storage = .targetKey column) : KeyColumn database target column := by
  constructor
  · intro table found
    obtain ⟨table', _, found', _, laid, _⟩ :=
      housed.entity separate.tables separate.keyed relates.known'
    cases found.symm.trans found'
    obtain ⟨_, leads, _, same⟩ := findRelationship_ok (relates.found separate.formed)
    exact targetKey_column laid relates.known relates.own storage same
  · exact separate.keys _ _ _ (.targetKey relates.known relates.own storage relates.leads) target
      relates.known' rfl

end

section

variable {schema : Schema} {connection : Connection}

theorem setKey_done (housed : Housed schema connection.database) (separate : schema.Separate)
    {holder : EntityType} (known : holder ∈ schema.types) {column : String} {value : Cell}
    {filter : Clause} {meets : Record → Bool}
    (key : KeyColumn connection.database holder column) {kind : ColumnType}
    (typed : ∀ record ∈ connection.database.records (tableName holder), kind.takes (record column))
    (taken : kind.takes value)
    (decides : Decides connection.database [filter] (tableName holder) meets) :
    ∃ after, execute (setColumn (tableName holder) column value filter) connection = (.ok (), after) ∧
      Refilled schema (.column (tableName holder) column) connection.database after.database ∧
      (∀ record ∈ after.database.records (tableName holder), kind.takes (record column)) ∧
      ∀ id held, HeldIn (after.database.records (tableName holder)) (idName holder) column id held ↔
        ∃ record ∈ connection.database.records (tableName holder), record (idName holder) = id ∧
          (if meets record then value else record column) = held := by
  obtain ⟨after, done, changed, refilled⟩ :=
    setColumn_done housed separate known value key.has key.free decides
  have records := records_same changed
  refine ⟨after, done, refilled, ?_, fun id held => ?_⟩
  · rw [records]
    intro record member
    obtain ⟨old, inside, rfl⟩ := List.mem_map.mp member
    split
    · rw [Record.set_same]
      exact taken
    · exact typed old inside
  · rw [records]
    exact heldIn_set key.apart

end

theorem agrees_iff_eq {type : EntityType} (exact : type.identity.type.Exact) {left right : Cell}
    (taken : (keyType type).takes left) (kind : right.type? = some (keyType type)) :
    left.agrees right = true ↔ left = right := by
  rw [Cell.agrees_exact (takes_exact exact taken) (takes_exact exact (.inr kind))]
  refine and_iff_left_of_imp ?_
  rintro rfl rfl
  cases kind

theorem any_agrees_iff {type : EntityType} (exact : type.identity.type.Exact) {left : Cell}
    (taken : (keyType type).takes left) {cells : List Cell}
    (kinds : ∀ cell ∈ cells, cell.type? = some (keyType type)) :
    cells.any left.agrees = true ↔ left ∈ cells := by
  rw [List.any_eq_true]
  constructor
  · rintro ⟨cell, member, agrees⟩
    exact (agrees_iff_eq exact taken (kinds cell member)).mp agrees ▸ member
  · intro member
    exact ⟨left, member, (agrees_iff_eq exact taken (kinds left member)).mpr rfl⟩

section

variable {schema : Schema} {connection : Connection} {type target : EntityType}
  {relationship : Relationship}

theorem Stocked.identity_takes (stocked : Stocked schema connection.database)
    (known : type ∈ schema.types) :
    ∀ record ∈ connection.database.records (tableName type),
      (keyType type).takes (record (idName type)) := fun record member =>
  FieldType.stores_takes (stocked.typed type known record member type.identity List.mem_cons_self)

theorem Stocked.identity_has (stocked : Stocked schema connection.database)
    (separate : schema.Separate) (known : type ∈ schema.types) (table : Table)
    (found : connection.database.table? (tableName type) = some table) :
    table.Has (idName type) := by
  obtain ⟨table', found', laid, _⟩ := (stocked.housed.shaped separate).entities type known
  cases found.symm.trans found'
  exact identity_column separate.columns known laid

theorem Stocked.identity_decides (stocked : Stocked schema connection.database)
    (separate : schema.Separate) (known : type ∈ schema.types) (cell : Cell) :
    Decides connection.database [hasValue (idColumn type (tableName type)) cell] (tableName type)
      fun record => (record (idName type)).agrees cell :=
  hasValue_decides stocked.housed.wide (stocked.identity_has separate known) cell

theorem Stocked.identities_decides (stocked : Stocked schema connection.database)
    (separate : schema.Separate) (known : type ∈ schema.types) (cells : List Cell) :
    Decides connection.database [.condition (.oneOf (idColumn type (tableName type)) cells)]
      (tableName type) fun record => cells.any (record (idName type)).agrees :=
  oneOf_decides stocked.housed.wide (stocked.identity_has separate known) cells

theorem set_ownerKey (stocked : Stocked schema connection.database) (separate : schema.Separate)
    (relates : schema.Relates type relationship target) {column : String}
    (storage : relationship.storage = .ownerKey column)
    (keys : KeysTyped connection.database type target (.ownerKey column)) {cell : Cell}
    (kind : cell.type? = some (keyType type))
    (present : ∃ record ∈ connection.database.records (tableName type), record (idName type) = cell)
    {value : Option Cell} (kinds : ∀ id ∈ value, id.type? = some (keyType target)) :
    ∃ after, execute (setColumn (tableName type) column (value.getD .null)
        (hasValue (idColumn type (tableName type)) cell)) connection = (.ok (), after) ∧
      Changed schema type target (.ownerKey column) connection.database after.database
        ((LinkChange.set value).links False cell
          (Holds connection.database type target (.ownerKey column))) := by
  have key := ownerKey_place stocked.housed separate relates storage
  have taken : (keyType target).takes (value.getD .null) := by
    cases value with
    | none => exact .inl rfl
    | some id => exact .inr (kinds id rfl)
  have exact := separate.exact type relates.known
  have taken' := stocked.identity_takes relates.known
  obtain ⟨after, done, refilled, typed, holds⟩ := setKey_done stocked.housed separate relates.known
    key keys taken (stocked.identity_decides separate relates.known cell)
  refine ⟨after, done, refilled, typed, fun owner other _ given => (holds owner other).trans ?_⟩
  unfold LinkChange.links
  constructor
  · rintro ⟨record, inside, rfl, same⟩
    by_cases owned : record (idName type) = cell
    · rw [if_pos ((agrees_iff_eq exact (taken' record inside) kind).mpr owned)] at same
      refine .inl ⟨owned, ?_⟩
      cases value with
      | none => exact absurd same.symm given
      | some id => exact congrArg some same
    · rw [if_neg (mt (agrees_iff_eq exact (taken' record inside) kind).mp owned)] at same
      exact .inr ⟨owned, ⟨record, inside, rfl, same⟩, fun single => single.1⟩
  · rintro (⟨rfl, chosen⟩ | ⟨other, ⟨record, inside, rfl, same⟩, _⟩)
    · obtain ⟨record, inside, owned⟩ := present
      refine ⟨record, inside, owned, ?_⟩
      rw [if_pos ((agrees_iff_eq exact (taken' record inside) kind).mpr owned), chosen]
      rfl
    · refine ⟨record, inside, rfl, ?_⟩
      rw [if_neg (mt (agrees_iff_eq exact (taken' record inside) kind).mp other)]
      exact same

theorem clear_targetKey (stocked : Stocked schema connection.database) (separate : schema.Separate)
    (relates : schema.Relates type relationship target) {column : String}
    (storage : relationship.storage = .targetKey column)
    (keys : KeysTyped connection.database type target (.targetKey column)) {cell : Cell}
    (kind : cell.type? = some (keyType type)) :
    ∃ after, execute (clearKey (tableName target) column cell) connection = (.ok (), after) ∧
      Changed schema type target (.targetKey column) connection.database after.database
        fun owner other => owner ≠ cell ∧
          Holds connection.database type target (.targetKey column) owner other := by
  have key := targetKey_place stocked.housed separate relates storage
  have exact := separate.exact type relates.known
  obtain ⟨after, done, refilled, typed, holds⟩ := setKey_done stocked.housed separate relates.known'
    key keys (.inl rfl) (hasValue_decides stocked.housed.wide key.has cell)
  refine ⟨after, done, refilled, typed, fun owner other given _ => (holds other owner).trans ?_⟩
  constructor
  · rintro ⟨record, inside, rfl, same⟩
    by_cases held : record column = cell
    · rw [if_pos ((agrees_iff_eq exact (keys record inside) kind).mpr held)] at same
      exact absurd same.symm given
    · rw [if_neg (mt (agrees_iff_eq exact (keys record inside) kind).mp held)] at same
      exact ⟨same ▸ held, record, inside, rfl, same⟩
  · rintro ⟨apart, record, inside, rfl, rfl⟩
    refine ⟨record, inside, rfl, ?_⟩
    rw [if_neg (mt (agrees_iff_eq exact (keys record inside) kind).mp apart)]

theorem set_targetKey (stocked : Stocked schema connection.database) (separate : schema.Separate)
    (relates : schema.Relates type relationship target) {column : String}
    (storage : relationship.storage = .targetKey column)
    (keys : KeysTyped connection.database type target (.targetKey column)) {cell : Cell}
    (kind : cell.type? = some (keyType type)) {filter : Clause} {cells : List Cell}
    (presents : ∀ id ∈ cells, ∃ record ∈ connection.database.records (tableName target),
      record (idName target) = id)
    {meets : Record → Bool} (decides : Decides connection.database [filter] (tableName target) meets)
    (chosen : ∀ record ∈ connection.database.records (tableName target),
      meets record = true ↔ record (idName target) ∈ cells) :
    ∃ after, execute (setColumn (tableName target) column cell filter) connection = (.ok (), after) ∧
      Changed schema type target (.targetKey column) connection.database after.database
        ((LinkChange.add cells).links True cell
          (Holds connection.database type target (.targetKey column))) := by
  have key := targetKey_place stocked.housed separate relates storage
  obtain ⟨after, done, refilled, typed, holds⟩ := setKey_done stocked.housed separate relates.known'
    key keys (.inr kind) decides
  refine ⟨after, done, refilled, typed, fun owner other _ _ => (holds other owner).trans ?_⟩
  unfold LinkChange.links
  constructor
  · rintro ⟨record, inside, rfl, same⟩
    by_cases member : record (idName target) ∈ cells
    · rw [if_pos ((chosen record inside).mpr member)] at same
      exact .inl ⟨same.symm, .inr member⟩
    · rw [if_neg (mt (chosen record inside).mp member)] at same
      have held : Holds connection.database type target (.targetKey column) owner
          (record (idName target)) := ⟨record, inside, rfl, same⟩
      by_cases owned : owner = cell
      · exact .inl ⟨owned, .inl (owned ▸ held)⟩
      · exact .inr ⟨owned, held, fun single => member single.2⟩
  · have take {id : Cell} (member : id ∈ cells) :
        ∃ record ∈ connection.database.records (tableName target), record (idName target) = id ∧
          (if meets record then cell else record column) = cell := by
      obtain ⟨record, inside, rfl⟩ := presents id member
      exact ⟨record, inside, rfl, if_pos ((chosen record inside).mpr member)⟩
    rintro (⟨rfl, ⟨record, inside, rfl, same⟩ | member⟩ | ⟨_, ⟨record, inside, rfl, same⟩, single⟩)
    · refine ⟨record, inside, rfl, ?_⟩
      split
      · rfl
      · exact same
    · exact take member
    · refine ⟨record, inside, rfl, ?_⟩
      rw [if_neg fun met => single ⟨trivial, (chosen record inside).mp met⟩]
      exact same

theorem unset_targetKey (stocked : Stocked schema connection.database) (separate : schema.Separate)
    (relates : schema.Relates type relationship target) {column : String}
    (storage : relationship.storage = .targetKey column)
    (keys : KeysTyped connection.database type target (.targetKey column)) {cell : Cell}
    (kind : cell.type? = some (keyType type)) {cells : List Cell}
    (kinds : ∀ id ∈ cells, id.type? = some (keyType target)) :
    ∃ after, execute (setColumn (tableName target) column .null
        (.allOf [.condition (.oneOf (idColumn target (tableName target)) cells),
          hasValue (.ofTable (tableName target) column) cell])) connection = (.ok (), after) ∧
      Changed schema type target (.targetKey column) connection.database after.database
        ((LinkChange.remove cells).links True cell
          (Holds connection.database type target (.targetKey column))) := by
  have key := targetKey_place stocked.housed separate relates storage
  have tested := both_decides (stocked.identities_decides separate relates.known' cells)
    (hasValue_decides stocked.housed.wide key.has cell)
  have met : ∀ record ∈ connection.database.records (tableName target),
      (cells.any (record (idName target)).agrees && (record column).agrees cell) = true ↔
        record (idName target) ∈ cells ∧ record column = cell := by
    intro record inside
    rw [Bool.and_eq_true, any_agrees_iff (separate.exact target relates.known')
      (stocked.identity_takes relates.known' record inside) kinds,
      agrees_iff_eq (separate.exact type relates.known) (keys record inside) kind]
  obtain ⟨after, done, refilled, typed, holds⟩ := setKey_done stocked.housed separate relates.known'
    key keys (.inl rfl) tested
  refine ⟨after, done, refilled, typed, fun owner other given _ => (holds other owner).trans ?_⟩
  unfold LinkChange.links
  constructor
  · rintro ⟨record, inside, rfl, same⟩
    by_cases freed : record (idName target) ∈ cells ∧ record column = cell
    · rw [if_pos ((met record inside).mpr freed)] at same
      exact absurd same.symm given
    · rw [if_neg (mt (met record inside).mp freed)] at same
      exact ⟨⟨record, inside, rfl, same⟩, fun both => freed ⟨both.2, same.trans both.1⟩⟩
  · rintro ⟨⟨record, inside, rfl, rfl⟩, kept⟩
    refine ⟨record, inside, rfl, ?_⟩
    rw [if_neg fun freed => kept ((met record inside).mp freed).symm]

theorem drop_pairs (stocked : Stocked schema connection.database) (separate : schema.Separate)
    (relates : schema.Relates type relationship target) {pairs ownerColumn targetColumn : String}
    (storage : relationship.storage = .joinTable pairs ownerColumn targetColumn)
    (keys : KeysTyped connection.database type target (.joinTable pairs ownerColumn targetColumn))
    {filter : Clause} {meets : Record → Bool} (drops : Cell → Cell → Prop)
    (decides : Decides connection.database [filter] pairs meets)
    (dropped : ∀ pair ∈ connection.database.records pairs,
      meets pair = true ↔ drops (pair ownerColumn) (pair targetColumn)) :
    ∃ count after,
      execute (statement (Action.delete { table := pairs, filters := [filter] })) connection =
        (.ok count, after) ∧
      Changed schema type target (.joinTable pairs ownerColumn targetColumn) connection.database
        after.database fun owner other =>
          Holds connection.database type target (.joinTable pairs ownerColumn targetColumn) owner
            other ∧ ¬drops owner other := by
  obtain ⟨table, _, found, _⟩ := stocked.housed.pairs separate.formed separate.tables
    separate.shared relates.known relates.own storage
  obtain ⟨count, after, done, changed, refilled⟩ :=
    deletePairs_done stocked.housed found decides
  have records := records_same changed
  refine ⟨count, after, done, refilled, ?_, fun owner other _ _ => ?_⟩
  · unfold KeysTyped
    dsimp only
    rw [records]
    exact fun pair member => keys pair (List.mem_filter.mp member).1
  · change HeldIn (after.database.records pairs) ownerColumn targetColumn owner other ↔ _
    rw [records, heldIn_filter]
    constructor
    · rintro ⟨pair, inside, kept, rfl, rfl⟩
      refine ⟨⟨pair, inside, rfl, rfl⟩, fun drop => ?_⟩
      rw [(dropped pair inside).mpr drop] at kept
      cases kept
    · rintro ⟨⟨pair, inside, rfl, rfl⟩, kept⟩
      refine ⟨pair, inside, ?_, rfl, rfl⟩
      rw [Bool.not_eq_true', Bool.eq_false_iff]
      exact mt (dropped pair inside).mp kept

theorem add_pairs (stocked : Stocked schema connection.database) (separate : schema.Separate)
    (relates : schema.Relates type relationship target) {pairs ownerColumn targetColumn : String}
    (storage : relationship.storage = .joinTable pairs ownerColumn targetColumn)
    (keys : KeysTyped connection.database type target (.joinTable pairs ownerColumn targetColumn))
    {cell : Cell} (kind : cell.type? = some (keyType type)) {cells : List Cell}
    (kinds : ∀ id ∈ cells, id.type? = some (keyType target)) (distinct : cells.Nodup)
    (fresh : ∀ id ∈ cells, ¬Holds connection.database type target
      (.joinTable pairs ownerColumn targetColumn) cell id) :
    ∃ after, execute (insertPairs pairs ownerColumn targetColumn (cells.map fun id => (cell, id)))
        connection = (.ok (), after) ∧
      Changed schema type target (.joinTable pairs ownerColumn targetColumn) connection.database
        after.database fun owner other =>
          Holds connection.database type target (.joinTable pairs ownerColumn targetColumn) owner
            other ∨ owner = cell ∧ other ∈ cells := by
  have apart := separate.pairs type relates.known relationship relates.own _ _ _ storage
  obtain ⟨after, done, changed, refilled⟩ := insertPairs_done stocked.housed separate relates.known
    relates.own storage distinct fun pair inside owned member =>
      fresh _ member ⟨pair, inside, owned, rfl⟩
  have records := records_same changed
  refine ⟨after, done, refilled, ?_, fun owner other _ _ => ?_⟩
  · unfold KeysTyped
    dsimp only
    rw [records]
    intro pair member
    rcases List.mem_append.mp member with old | new
    · exact keys pair old
    · obtain ⟨id, inside, rfl⟩ := List.mem_map.mp new
      rw [pairRecord_owner apart, pairRecord_target]
      exact ⟨.inr kind, .inr (kinds id inside)⟩
  · change HeldIn (after.database.records pairs) ownerColumn targetColumn owner other ↔ _
    rw [records, heldIn_pairs apart]
    rfl

end

/-- The place of a relationship's links is none of a field. -/
theorem place_free {schema : Schema} (separate : schema.Separate) {type target : EntityType}
    {relationship : Relationship} (relates : schema.Relates type relationship target)
    {holder : EntityType} (known : holder ∈ schema.types) :
    relationship.storage.place type target ≠ .pairs (tableName holder) ∧
      ∀ field ∈ holder.fields,
        relationship.storage.place type target ≠ .column (tableName holder) (columnName field.name) := by
  cases storage : relationship.storage with
  | ownerKey column =>
      refine ⟨nofun, fun field own same => ?_⟩
      obtain ⟨table, named⟩ := Place.column.inj same
      exact separate.keys _ _ _ (.ownerKey relates.known relates.own storage relates.leads) holder
        known table.symm field own named.symm
  | targetKey column =>
      refine ⟨nofun, fun field own same => ?_⟩
      obtain ⟨table, named⟩ := Place.column.inj same
      exact separate.keys _ _ _ (.targetKey relates.known relates.own storage relates.leads) holder
        known table.symm field own named.symm
  | joinTable pairs ownerColumn targetColumn =>
      refine ⟨fun same => ?_, nofun⟩
      exact separate.tables.apart holder known pairs
        ⟨type, relates.known, relationship, relates.own, _, _, storage⟩ (Place.pairs.inj same).symm

theorem Refilled.fields {schema : Schema} {before after : Database} {place : Place}
    (refilled : Refilled schema place before after) {holder : EntityType}
    (free : place ≠ .pairs (tableName holder) ∧
      ∀ field ∈ holder.fields, place ≠ .column (tableName holder) (columnName field.name)) :
    List.Forall₂ (fun old new : Record =>
        ∀ field ∈ holder.fields, new (columnName field.name) = old (columnName field.name))
      (before.records (tableName holder)) (after.records (tableName holder)) :=
  (refilled.confined _ free.1).imp fun _ _ alike field own => alike _ (free.2 field own)

theorem forall₂_map_eq {α β γ : Type} {relation : α → β → Prop} {first : α → γ} {second : β → γ}
    {items : List α} {others : List β} (all : List.Forall₂ relation items others)
    (same : ∀ item other, relation item other → second other = first item) :
    others.map second = items.map first := by
  induction all with
  | nil => rfl
  | cons one _ ih => rw [List.map_cons, List.map_cons, same _ _ one, ih]

/-- A change of links leaves a database stocked. -/
theorem Stocked.refilled {schema : Schema} {before after : Database} {place : Place}
    (stocked : Stocked schema before) (refilled : Refilled schema place before after)
    (free : ∀ holder ∈ schema.types, place ≠ .pairs (tableName holder) ∧
      ∀ field ∈ holder.fields, place ≠ .column (tableName holder) (columnName field.name)) :
    Stocked schema after := by
  have back {holder : EntityType} (known : holder ∈ schema.types) {record : Record}
      (member : record ∈ after.records (tableName holder)) :
      ∃ old ∈ before.records (tableName holder),
        ∀ field ∈ holder.fields, record (columnName field.name) = old (columnName field.name) :=
    mem_of_forall₂ (refilled.fields (free holder known)).flip member
  refine ⟨refilled.housed, fun holder known record member field own => ?_,
    fun holder known record member => ?_, fun holder known => ?_⟩
  · obtain ⟨old, inside, same⟩ := back known member
    rw [same field own]
    exact stocked.typed holder known old inside field own
  · obtain ⟨old, inside, same⟩ := back known member
    unfold idName
    rw [same holder.identity List.mem_cons_self]
    exact stocked.identified holder known old inside
  · have ids : (after.records (tableName holder)).map (fun record => record (idName holder)) =
        (before.records (tableName holder)).map fun record => record (idName holder) :=
      forall₂_map_eq (refilled.fields (free holder known))
        fun _ _ same => same holder.identity List.mem_cons_self
    rw [ids]
    exact stocked.distinct holder known

end ResourceServer
