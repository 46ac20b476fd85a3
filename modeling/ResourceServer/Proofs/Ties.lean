import ResourceServer.Proofs.Cardinality

/-! A link between two stored resources, and the changes that leave it as it is. -/

namespace ResourceServer

open ResourceServer.Store ResourceServer.Mapping

/-- A stored resource with an identity is linked to one with another. -/
structure Tied (database : Database) (type target : EntityType) (storage : Storage)
    (owner other : Cell) : Prop where
  owners : ∃ record ∈ database.records (tableName type), record (idName type) = owner ∧
    ∀ column, storage = .ownerKey column → other.agrees (record column) = true
  targets : ∃ record ∈ database.records (tableName target), record (idName target) = other ∧
    ∀ column, storage = .targetKey column → (record column).agrees owner = true
  pairs : ∀ pairs ownerColumn targetColumn, storage = .joinTable pairs ownerColumn targetColumn →
    ∃ pair ∈ database.records pairs,
      (pair targetColumn).agrees other = true ∧ (pair ownerColumn).agrees owner = true

def CarriedBy (type target : EntityType) (storage : Storage) (owner other : Cell)
    (table column : String) (record : Record) : Prop :=
  match storage with
  | .ownerKey key => table = tableName type ∧ column = key ∧ record (idName type) = owner ∧
      other.agrees (record key) = true
  | .targetKey key => table = tableName target ∧ column = key ∧ record (idName target) = other ∧
      (record key).agrees owner = true
  | .joinTable .. => False

def Standing (database : Database) (type : EntityType) (cell : Cell) : Prop :=
  ∃ record ∈ database.records (tableName type), record (idName type) = cell

def Spared (type target : EntityType) (owner other : Cell) (holder : EntityType) (cell : Cell) :
    Prop :=
  (holder = type → owner.agrees cell = false) ∧ (holder = target → other.agrees cell = false)

section

variable {database before after : Database} {type target : EntityType} {storage : Storage}
  {owner other : Cell} {table name column : String}

theorem tied_of_linked {record record' : Record} (stored : record ∈ database.records (tableName type))
    (stored' : record' ∈ database.records (tableName target))
    (link : linked database type target storage record record' = true) :
    Tied database type target storage (record (idName type)) (record' (idName target)) := by
  refine ⟨⟨record, stored, rfl, ?_⟩, ⟨record', stored', rfl, ?_⟩, ?_⟩
  · rintro column rfl
    exact link
  · rintro column rfl
    exact link
  · rintro pairs ownerColumn targetColumn rfl
    obtain ⟨pair, member, both⟩ := List.any_eq_true.mp link
    exact ⟨pair, member, Bool.and_eq_true_iff.mp both⟩

theorem Tied.linked (tied : Tied database type target storage owner other) :
    ∃ record ∈ database.records (tableName type), record (idName type) = owner ∧
      ∃ record' ∈ database.records (tableName target),
        linked database type target storage record record' = true := by
  obtain ⟨⟨record, stored, rfl, held⟩, ⟨record', stored', rfl, held'⟩, pairs⟩ := tied
  refine ⟨record, stored, rfl, record', stored', ?_⟩
  cases storage with
  | ownerKey column => exact held column rfl
  | targetKey column => exact held' column rfl
  | joinTable table ownerColumn targetColumn =>
      obtain ⟨pair, member, both⟩ := pairs _ _ _ rfl
      exact List.any_eq_true.mpr ⟨pair, member, Bool.and_eq_true_iff.mpr both⟩

theorem tied_of_ownerKey (owners : ∃ record ∈ database.records (tableName type),
      record (idName type) = owner ∧ other.agrees (record column) = true)
    (standing : Standing database target other) :
    Tied database type target (.ownerKey column) owner other := by
  refine ⟨?_, standing.imp fun _ both => ⟨both.1, both.2, nofun⟩, nofun⟩
  obtain ⟨record, member, same, held⟩ := owners
  refine ⟨record, member, same, ?_⟩
  rintro _ ⟨⟩
  exact held

theorem tied_of_targetKey (standing : Standing database type owner)
    (targets : ∃ record ∈ database.records (tableName target),
      record (idName target) = other ∧ (record column).agrees owner = true) :
    Tied database type target (.targetKey column) owner other := by
  refine ⟨standing.imp fun _ both => ⟨both.1, both.2, nofun⟩, ?_, nofun⟩
  obtain ⟨record, member, same, held⟩ := targets
  refine ⟨record, member, same, ?_⟩
  rintro _ ⟨⟩
  exact held

theorem tied_of_joinTable {ownerColumn targetColumn : String}
    (standing : Standing database type owner) (standing' : Standing database target other)
    (pairs : ∃ pair ∈ database.records table,
      (pair targetColumn).agrees other = true ∧ (pair ownerColumn).agrees owner = true) :
    Tied database type target (.joinTable table ownerColumn targetColumn) owner other := by
  refine ⟨standing.imp fun _ both => ⟨both.1, both.2, nofun⟩,
    standing'.imp fun _ both => ⟨both.1, both.2, nofun⟩, ?_⟩
  rintro _ _ _ ⟨⟩
  exact pairs

theorem carried_here {record : Record}
    (carried : CarriedBy type target storage owner other table column record) :
    storage.place type target = .column table column := by
  unfold CarriedBy at carried
  cases storage with
  | ownerKey key =>
      obtain ⟨rfl, rfl, _⟩ := carried
      rfl
  | targetKey key =>
      obtain ⟨rfl, rfl, _⟩ := carried
      rfl
  | joinTable _ _ _ => exact carried.elim

theorem Tied.owner_standing (tied : Tied database type target storage owner other) :
    Standing database type owner :=
  tied.owners.imp fun _ both => ⟨both.1, both.2.1⟩

/-! Records that are looked for are still there. -/

variable {holds : Record → Prop}

theorem exists_map {change : Record → Record}
    (changed : Rewrites before after name ((before.records name).map change))
    (kept : table = name → ∀ record ∈ before.records name, holds record → holds (change record))
    (found : ∃ record ∈ before.records table, holds record) :
    ∃ record ∈ after.records table, holds record := by
  obtain ⟨record, member, held⟩ := found
  by_cases here : table = name
  · subst here
    rw [records_same changed]
    exact ⟨change record, List.mem_map_of_mem member, kept rfl record member held⟩
  · rw [records_other changed here]
    exact ⟨record, member, held⟩

theorem exists_append {added : List Record}
    (changed : Rewrites before after name (before.records name ++ added))
    (found : ∃ record ∈ before.records table, holds record) :
    ∃ record ∈ after.records table, holds record := by
  obtain ⟨record, member, held⟩ := found
  by_cases here : table = name
  · subst here
    rw [records_same changed]
    exact ⟨record, List.mem_append_left _ member, held⟩
  · rw [records_other changed here]
    exact ⟨record, member, held⟩

theorem exists_filter {keeps : Record → Bool}
    (changed : Rewrites before after name ((before.records name).filter keeps))
    (kept : table = name → ∀ record ∈ before.records name, holds record → keeps record = true)
    (found : ∃ record ∈ before.records table, holds record) :
    ∃ record ∈ after.records table, holds record := by
  obtain ⟨record, member, held⟩ := found
  by_cases here : table = name
  · subst here
    rw [records_same changed]
    exact ⟨record, List.mem_filter.mpr ⟨member, kept rfl record member held⟩, held⟩
  · rw [records_other changed here]
    exact ⟨record, member, held⟩

theorem Tied.append (tied : Tied before type target storage owner other) {added : List Record}
    (changed : Rewrites before after name (before.records name ++ added)) :
    Tied after type target storage owner other :=
  ⟨exists_append changed tied.owners, exists_append changed tied.targets,
    fun pairs ownerColumn targetColumn here =>
      exists_append changed (tied.pairs pairs ownerColumn targetColumn here)⟩

end

section

variable {schema : Schema} {before after : Database} {type target : EntityType}
  {relationship : Relationship} {owner other : Cell}

theorem set_identity (keys : schema.KeysApart) {holder entity kind : EntityType} {column : String}
    (refers : Refers schema (tableName holder) column kind) (known : entity ∈ schema.types)
    (here : tableName entity = tableName holder) (meets : Record → Bool) (cell : Cell)
    (record : Record) :
    (if meets record then record.set column cell else record) (idName entity) =
      record (idName entity) := by
  split
  · exact Record.set_other cell
      (keys _ _ _ refers entity known here entity.identity List.mem_cons_self)
  · rfl

theorem Standing.set {entity holder kind : EntityType} {identity : Cell}
    (standing : Standing before entity identity) (keys : schema.KeysApart) {column : String}
    (refers : Refers schema (tableName holder) column kind) (known : entity ∈ schema.types)
    {meets : Record → Bool} {cell : Cell}
    (changed : Rewrites before after (tableName holder)
      ((before.records (tableName holder)).map fun record =>
        if meets record then record.set column cell else record)) :
    Standing after entity identity :=
  exists_map changed (fun here record _ same =>
    (set_identity keys refers known here meets cell record).trans same) standing

theorem Standing.drop {entity : EntityType} {identity : Cell}
    (standing : Standing before entity identity) (tables : schema.TablesDistinct)
    (known : entity ∈ schema.types) {name : String} (used : Pairs schema name)
    {keeps : Record → Bool}
    (changed : Rewrites before after name ((before.records name).filter keeps)) :
    Standing after entity identity :=
  exists_filter changed (fun here => absurd here (tables.apart entity known name used)) standing

theorem Tied.set (tied : Tied before type target relationship.storage owner other)
    (tables : schema.TablesDistinct) (keys : schema.KeysApart)
    (relates : schema.Relates type relationship target) {holder kind : EntityType} {column : String}
    (known : holder ∈ schema.types) (refers : Refers schema (tableName holder) column kind)
    {meets : Record → Bool} {cell : Cell}
    (safe : ∀ record ∈ before.records (tableName holder),
      CarriedBy type target relationship.storage owner other (tableName holder) column record →
        meets record = false)
    (changed : Rewrites before after (tableName holder)
      ((before.records (tableName holder)).map fun record =>
        if meets record then record.set column cell else record)) :
    Tied after type target relationship.storage owner other := by
  have key {own : String} {record : Record}
      (kept : own = column → meets record = false) :
      (if meets record then record.set column cell else record) own = record own := by
    split
    · rename_i met
      refine Record.set_other cell fun same => ?_
      rw [kept same] at met
      cases met
    · rfl
  refine ⟨exists_map changed (fun here record member both => ?_) tied.owners,
    exists_map changed (fun here record member both => ?_) tied.targets,
    fun pairs ownerColumn targetColumn storage => exists_map changed (fun here => ?_)
      (tied.pairs pairs ownerColumn targetColumn storage)⟩
  · refine ⟨(set_identity keys refers relates.known here meets cell record).trans both.1,
      fun own storage => ?_⟩
    rw [key fun same => safe record member ?_]
    · exact both.2 own storage
    · rw [storage]
      exact ⟨here.symm, same.symm, both.1, both.2 own storage⟩
  · refine ⟨(set_identity keys refers relates.known' here meets cell record).trans both.1,
      fun own storage => ?_⟩
    rw [key fun same => safe record member ?_]
    · exact both.2 own storage
    · rw [storage]
      exact ⟨here.symm, same.symm, both.1, both.2 own storage⟩
  · exact absurd here.symm (tables.apart holder known pairs
      ⟨type, relates.known, relationship, relates.own, _, _, storage⟩)

theorem Tied.drop (tied : Tied before type target relationship.storage owner other)
    (tables : schema.TablesDistinct) (relates : schema.Relates type relationship target)
    {name : String} (used : Pairs schema name) {keeps : Record → Bool}
    (safe : ∀ ownerColumn targetColumn,
      relationship.storage = .joinTable name ownerColumn targetColumn →
        ∀ pair ∈ before.records name, (pair targetColumn).agrees other = true →
          (pair ownerColumn).agrees owner = true → keeps pair = true)
    (changed : Rewrites before after name ((before.records name).filter keeps)) :
    Tied after type target relationship.storage owner other := by
  refine ⟨exists_filter changed (fun here => ?_) tied.owners,
    exists_filter changed (fun here => ?_) tied.targets,
    fun pairs ownerColumn targetColumn storage => exists_filter changed
      (fun here pair member both => ?_) (tied.pairs pairs ownerColumn targetColumn storage)⟩
  · exact absurd here (tables.apart type relates.known name used)
  · exact absurd here (tables.apart target relates.known' name used)
  · subst here
    exact safe ownerColumn targetColumn storage pair member both.1 both.2

theorem Tied.assign (tied : Tied before type target relationship.storage owner other)
    (tables : schema.TablesDistinct) (columns : schema.ColumnsDistinct) (keys : schema.KeysApart)
    (relates : schema.Relates type relationship target) {holder : EntityType}
    (known : holder ∈ schema.types) {meets : Record → Bool} {assignments : List (String × Cell)}
    (attributes : ∀ assignment ∈ assignments, ∃ field ∈ holder.attributes,
      assignment.1 = columnName field.name)
    (changed : Rewrites before after (tableName holder)
      ((before.records (tableName holder)).map fun record =>
        if meets record then record.assign assignments else record)) :
    Tied after type target relationship.storage owner other := by
  have same (column : String) (apart : ∀ field ∈ holder.attributes, columnName field.name ≠ column)
      (record : Record) :
      (if meets record then record.assign assignments else record) column = record column := by
    split
    · refine Record.assign_other record fun assignment given named => ?_
      obtain ⟨field, own, named'⟩ := attributes assignment given
      exact apart field own (named'.symm.trans named)
    · rfl
  have identity {entity : EntityType} (known' : entity ∈ schema.types)
      (here : tableName entity = tableName holder) (record : Record) :
      (if meets record then record.assign assignments else record) (idName entity) =
        record (idName entity) := by
    obtain rfl := same_type tables known' known here
    exact same _ (fun field own => attribute_apart columns known own) record
  have key {column : String} {kind : EntityType}
      (refers : Refers schema (tableName holder) column kind) (record : Record) :
      (if meets record then record.assign assignments else record) column = record column :=
    same column (fun field own =>
      keys _ _ _ refers holder known rfl field (List.mem_cons_of_mem _ own)) record
  refine ⟨exists_map changed (fun here record _ both => ?_) tied.owners,
    exists_map changed (fun here record _ both => ?_) tied.targets,
    fun pairs ownerColumn targetColumn storage => exists_map changed (fun here => ?_)
      (tied.pairs pairs ownerColumn targetColumn storage)⟩
  · refine ⟨(identity relates.known here record).trans both.1, fun own storage => ?_⟩
    have refers := Refers.ownerKey relates.known relates.own storage relates.leads
    rw [here] at refers
    rw [key refers]
    exact both.2 own storage
  · refine ⟨(identity relates.known' here record).trans both.1, fun own storage => ?_⟩
    have refers := Refers.targetKey relates.known relates.own storage relates.leads
    rw [here] at refers
    rw [key refers]
    exact both.2 own storage
  · exact absurd here.symm (tables.apart holder known pairs
      ⟨type, relates.known, relationship, relates.own, _, _, storage⟩)

/-- Removing a resource leaves the ties of others as they are. -/
theorem Tied.remove (tied : Tied before type target relationship.storage owner other)
    (tables : schema.TablesDistinct) (relates : schema.Relates type relationship target)
    {holder : EntityType} (known : holder ∈ schema.types) {cell : Cell}
    (spared : Spared type target owner other holder cell)
    (changed : Rewrites before after (tableName holder)
      ((before.records (tableName holder)).filter fun record =>
        !(record (idName holder)).agrees cell)) :
    Tied after type target relationship.storage owner other := by
  refine ⟨exists_filter changed (fun here record _ both => ?_) tied.owners,
    exists_filter changed (fun here record _ both => ?_) tied.targets,
    fun pairs ownerColumn targetColumn storage => exists_filter changed (fun here => ?_)
      (tied.pairs pairs ownerColumn targetColumn storage)⟩
  · obtain rfl := same_type tables relates.known known here
    rw [both.1, spared.1 rfl]
    rfl
  · obtain rfl := same_type tables relates.known' known here
    rw [both.1, spared.2 rfl]
    rfl
  · exact absurd here.symm (tables.apart holder known pairs
      ⟨type, relates.known, relationship, relates.own, _, _, storage⟩)

end

end ResourceServer
