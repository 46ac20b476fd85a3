import Mathlib.Data.List.Nodup
import ResourceServer.Proofs.Agreement
import ResourceServer.Proofs.Layout
import ResourceServer.Proofs.References

/-! The changes that requests make to stored resources and their links, and what these changes preserve. -/

namespace ResourceServer

open ResourceServer.Store ResourceServer.Mapping

def idName (type : EntityType) : String :=
  columnName type.identity.name

def Present (database : Database) (type : EntityType) (cell : Cell) : Prop :=
  ∃ record ∈ database.records (tableName type), cell.agrees (record (idName type))

def Freed (table column : String) (cell : Cell) (database : Database) : Prop :=
  ∀ record ∈ database.records table, (record column).agrees cell = false

/-- What is written into a key column is null or an identity, through a relationship that keeps its links there.
A to-one relationship with a key of its target names an owner for one target, after all have let go of it. -/
inductive Written (schema : Schema) (before : Database) (table column : String)
    (meets : Record → Bool) : Cell → Prop
  | null : Written schema before table column meets .null
  | ownerKey {type target : EntityType} {relationship : Relationship} {cell : Cell}
      (relates : schema.Relates type relationship target)
      (storage : relationship.storage = .ownerKey column) (here : table = tableName type)
      (kind : cell.type? = some (keyType target)) : Written schema before table column meets cell
  | targetKey {type target : EntityType} {relationship : Relationship} {cell : Cell}
      (relates : schema.Relates type relationship target)
      (storage : relationship.storage = .targetKey column) (here : table = tableName target)
      (kind : cell.type? = some (keyType type))
      (single : relationship.isToMany = false → Freed table column cell before ∧
        ∃ identity, identity.type? = some (keyType target) ∧
          meets = fun record => (record (idName target)).agrees identity) :
      Written schema before table column meets cell

/-- Pairs are added through a relationship that keeps its links in their table. A to-one relationship adds one
at most, for an owner without any. -/
structure Joined (schema : Schema) (before : Database) (pairs : String) (added : List Record)
    (type target : EntityType) (relationship : Relationship) (ownerColumn targetColumn : String) :
    Prop where
  relates : schema.Relates type relationship target
  storage : relationship.storage = .joinTable pairs ownerColumn targetColumn
  each : ∀ record ∈ added, ∃ owner other,
    record = Record.blank.assign [(ownerColumn, owner), (targetColumn, other)] ∧
      owner.type? = some (keyType type) ∧ other.type? = some (keyType target) ∧
      (relationship.isToMany = false → Freed pairs ownerColumn owner before)
  single : relationship.isToMany = false → added.length ≤ 1

/-- A change of links. Where identities are sound, only those of stored resources are linked. -/
inductive Relinks (schema : Schema) (sound : Prop) (before after : Database) : Prop
  | set {table column : String} {target : EntityType} {meets : Record → Bool} {cell : Cell}
      (refers : Refers schema table column target)
      (present : cell = .null ∨ (sound → Present before target cell))
      (written : Written schema before table column meets cell)
      (changed : Rewrites before after table ((before.records table).map fun record =>
        if meets record then record.set column cell else record)) :
      Relinks schema sound before after
  | drop {pairs : String} {meets : Record → Bool} (used : Pairs schema pairs)
      (changed : Rewrites before after pairs ((before.records pairs).filter meets)) :
      Relinks schema sound before after
  | pair {pairs : String} {added : List Record} {type target : EntityType}
      {relationship : Relationship} {ownerColumn targetColumn : String} (used : Pairs schema pairs)
      (joined : Joined schema before pairs added type target relationship ownerColumn targetColumn)
      (present : ∀ record ∈ added, ∀ column, record column = .null ∨
        ∃ target, Refers schema pairs column target ∧
          (sound → Present before target (record column)))
      (changed : Rewrites before after pairs (before.records pairs ++ added)) :
      Relinks schema sound before after

inductive Changes (schema : Schema) (sound : Prop) (before after : Database) : Prop
  | relink (links : Relinks schema sound before after) : Changes schema sound before after
  | create {type : EntityType} {record : Record} (known : type ∈ schema.types)
      (typed : ∀ field ∈ type.fields,
        (columnType field.type).takes (record (columnName field.name)))
      (unlinked : ∀ column, (∀ field ∈ type.fields, columnName field.name ≠ column) →
        record column = .null)
      (changed : Rewrites before after (tableName type)
        (before.records (tableName type) ++ [record])) :
      Changes schema sound before after
  | assign {type : EntityType} {meets : Record → Bool} {assignments : List (String × Cell)}
      (known : type ∈ schema.types)
      (typed : ∀ assignment ∈ assignments, ∃ field ∈ type.attributes,
        assignment.1 = columnName field.name ∧ (columnType field.type).takes assignment.2)
      (changed : Rewrites before after (tableName type)
        ((before.records (tableName type)).map fun record =>
          if meets record then record.assign assignments else record)) :
      Changes schema sound before after
  | remove {type : EntityType} {cell : Cell} (known : type ∈ schema.types)
      (kind : cell.type? = some (columnType type.identity.type))
      (free : ∀ table column, Refers schema table column type →
        ∀ record ∈ before.records table, (record column).agrees cell = false)
      (changed : Rewrites before after (tableName type)
        ((before.records (tableName type)).filter fun record =>
          !(record (idName type)).agrees cell)) :
      Changes schema sound before after

section

variable {schema : Schema} {sound : Prop} {before after : Database}

theorem Relinks.rewrites (links : Relinks schema sound before after) :
    ∃ name records, Rewrites before after name records := by
  cases links with
  | set _ _ _ changed => exact ⟨_, _, changed⟩
  | drop _ changed => exact ⟨_, _, changed⟩
  | pair _ _ _ changed => exact ⟨_, _, changed⟩

theorem Changes.rewrites (changes : Changes schema sound before after) :
    ∃ name records, Rewrites before after name records := by
  cases changes with
  | relink links => exact links.rewrites
  | create _ _ _ changed => exact ⟨_, _, changed⟩
  | assign _ _ changed => exact ⟨_, _, changed⟩
  | remove _ _ _ changed => exact ⟨_, _, changed⟩

theorem Changes.laid (changes : Changes schema sound before after) (laid : Laid schema before) :
    Laid schema after := by
  obtain ⟨name, records, changed⟩ := changes.rewrites
  exact laid.rewrites changed

theorem Changes.paired (changes : Changes schema sound before after) (paired : Paired schema before) :
    Paired schema after := by
  obtain ⟨name, records, changed⟩ := changes.rewrites
  exact paired.rewrites changed

theorem records_same {name : String} {records : List Record}
    (changed : Rewrites before after name records) : after.records name = records := by
  rw [changed.records, Function.update_self]

theorem records_other {name other : String} {records : List Record}
    (changed : Rewrites before after name records) (apart : other ≠ name) :
    after.records other = before.records other := by
  rw [changed.records, Function.update_of_ne apart]

theorem present_kept {name : String} {records : List Record} {type : EntityType} {cell : Cell}
    (changed : Rewrites before after name records)
    (kept : tableName type = name → ∀ record ∈ before.records name,
      ∃ record' ∈ records, record' (idName type) = record (idName type))
    (present : Present before type cell) : Present after type cell := by
  obtain ⟨record, member, agrees⟩ := present
  by_cases same : tableName type = name
  · rw [same] at member
    obtain ⟨record', inside, identity⟩ := kept same record member
    refine ⟨record', ?_, by rw [identity]; exact agrees⟩
    rw [same, records_same changed]
    exact inside
  · refine ⟨record, ?_, agrees⟩
    rw [records_other changed same]
    exact member

theorem map_keeps {records : List Record} {column : String} (change : Record → Record)
    (same : ∀ record, change record column = record column) :
    ∀ record ∈ records, ∃ record' ∈ records.map change, record' column = record column :=
  fun record member => ⟨change record, List.mem_map_of_mem member, same record⟩

theorem Relinks.present (links : Relinks schema sound before after) (tables : schema.TablesDistinct)
    (keys : schema.KeysApart) {type : EntityType} (known : type ∈ schema.types) {cell : Cell}
    (present : Present before type cell) : Present after type cell := by
  cases links with
  | @set table column target meets cell refers _ _ changed =>
      refine present_kept changed (fun same => map_keeps _ fun record => ?_) present
      split
      · have apart := keys table column target refers type known same type.identity
          List.mem_cons_self
        exact Record.set_other cell apart
      · rfl
  | drop used changed =>
      exact present_kept changed (fun same => absurd same (tables.apart type known _ used)) present
  | pair used _ _ changed =>
      exact present_kept changed (fun same => absurd same (tables.apart type known _ used)) present

theorem same_type (tables : schema.TablesDistinct) {type other : EntityType}
    (known : type ∈ schema.types) (known' : other ∈ schema.types)
    (same : tableName type = tableName other) : type = other :=
  List.inj_on_of_nodup_map tables.entities known known' same

theorem same_field (columns : schema.ColumnsDistinct) {type : EntityType}
    (known : type ∈ schema.types) {field other : Field} (own : field ∈ type.fields)
    (own' : other ∈ type.fields) (same : columnName field.name = columnName other.name) :
    field = other :=
  List.inj_on_of_nodup_map (columns type known) own own' same

theorem FieldsTyped.identities (typed : FieldsTyped schema before) {type : EntityType}
    (known : type ∈ schema.types) :
    ∀ record ∈ before.records (tableName type), (keyType type).takes (record (idName type)) :=
  fun record member => typed type known record member type.identity List.mem_cons_self

theorem attribute_apart (columns : schema.ColumnsDistinct) {type : EntityType}
    (known : type ∈ schema.types) {field : Field} (own : field ∈ type.attributes) :
    columnName field.name ≠ idName type := by
  intro same
  have distinct := columns type known
  rw [EntityType.fields, List.map_cons, List.nodup_cons] at distinct
  exact distinct.1 (List.mem_map.mpr ⟨field, own, same⟩)

theorem each_kept {name table column : String} {records : List Record} {holds : Cell → Prop}
    (changed : Rewrites before after name records)
    (each : table = name → ∀ record ∈ records, holds (record column))
    (start : ∀ record ∈ before.records table, holds (record column)) :
    ∀ record ∈ after.records table, holds (record column) := by
  by_cases here : table = name
  · subst here
    rw [records_same changed]
    exact each rfl
  · rw [records_other changed here]
    exact start

theorem Written.identity {table column : String} {meets : Record → Bool} {cell : Cell}
    (written : Written schema before table column meets cell) :
    cell = .null ∨ ∃ target, Refers schema table column target ∧ (keyType target).takes cell := by
  cases written with
  | null => exact .inl rfl
  | ownerKey relates storage here kind =>
      exact .inr ⟨_, here ▸ .ownerKey relates.known relates.own storage relates.leads, .inr kind⟩
  | targetKey relates storage here kind =>
      exact .inr ⟨_, here ▸ .targetKey relates.known relates.own storage relates.leads, .inr kind⟩

/-- What holds of null, of the values of the fields that a column is for and of the identities that it refers to is kept
in the column. -/
theorem Changes.each (changes : Changes schema sound before after) {table column : String} {holds : Cell → Prop}
    (empty : holds .null)
    (filled : ∀ type ∈ schema.types, tableName type = table → ∀ field ∈ type.fields, columnName field.name = column →
      ∀ cell, (columnType field.type).takes cell → holds cell)
    (referred : ∀ target, Refers schema table column target → ∀ cell, (keyType target).takes cell → holds cell)
    (start : ∀ record ∈ before.records table, holds (record column)) :
    ∀ record ∈ after.records table, holds (record column) := by
  cases changes with
  | relink links =>
      cases links with
      | @set name column' target meets cell _ _ written changed =>
          refine each_kept changed (fun here record member => ?_) start
          subst here
          obtain ⟨old, inside, rfl⟩ := List.mem_map.mp member
          split
          · by_cases same : column = column'
            · subst same
              rw [Record.set_same]
              rcases written.identity with rfl | ⟨target, refers, taken⟩
              · exact empty
              · exact referred target refers cell taken
            · rw [Record.set_other cell same]
              exact start old inside
          · exact start old inside
      | drop _ changed =>
          refine each_kept changed (fun here record member => ?_) start
          exact start record (here ▸ (List.mem_filter.mp member).1)
      | @pair pairs added type target relationship ownerColumn targetColumn _ joined _ changed =>
          refine each_kept changed (fun here record member => ?_) start
          subst here
          rcases List.mem_append.mp member with old | new
          · exact start record old
          · obtain ⟨owner, other, rfl, kind, kind', _⟩ := joined.each record new
            refine Record.assign_cases holds empty fun assignment given named => ?_
            simp only [List.mem_cons, List.not_mem_nil, or_false] at given
            rcases given with rfl | rfl
            · exact referred type (named ▸ .ownerPair joined.relates.known joined.relates.own joined.storage) _
                (.inr kind)
            · exact referred target (named ▸ .targetPair joined.relates.known joined.relates.own joined.storage
                joined.relates.leads) _ (.inr kind')
  | @create type record known typed unlinked changed =>
      refine each_kept changed (fun here other member => ?_) start
      rcases List.mem_append.mp member with old | new
      · exact start other (here ▸ old)
      · rw [List.mem_singleton.mp new]
        by_cases own : ∃ field ∈ type.fields, columnName field.name = column
        · obtain ⟨field, own, rfl⟩ := own
          exact filled type known here.symm field own rfl _ (typed field own)
        · rw [unlinked column fun field inside named => own ⟨field, inside, named⟩]
          exact empty
  | @assign type meets assignments known typed changed =>
      refine each_kept changed (fun here other member => ?_) start
      obtain ⟨old, inside, rfl⟩ := List.mem_map.mp member
      have kept := start old (here ▸ inside)
      split
      · refine Record.assign_cases holds kept fun assignment given named => ?_
        obtain ⟨field, own, named', taken⟩ := typed assignment given
        exact filled type known here.symm field (List.mem_cons_of_mem _ own) (named'.symm.trans named) _ taken
      · exact kept
  | remove _ _ _ changed =>
      refine each_kept changed (fun here record member => ?_) start
      exact start record (here ▸ (List.mem_filter.mp member).1)

/-- Where key columns fit the fields that they are columns of, fields keep holding values of their types. -/
theorem Changes.typed (changes : Changes schema sound before after) (tables : schema.TablesDistinct)
    (columns : schema.ColumnsDistinct) (fit : schema.KeysFit) (typed : FieldsTyped schema before) :
    FieldsTyped schema after := by
  intro type known record member field own
  refine changes.each (.inl rfl) (fun other known' here field' own' named cell taken => ?_)
    (fun target refers cell taken => ?_) (fun record member => typed type known record member field own) record member
  · obtain rfl := same_type tables known' known here
    obtain rfl := same_field columns known' own' own named
    exact taken
  · rw [fit _ _ target refers type known rfl field own rfl]
    exact taken

/-- Every value in a column that refers to resources is null or the identity of one that is stored. -/
def Integral (schema : Schema) (database : Database) : Prop :=
  ∀ table column target, Refers schema table column target →
    ∀ record ∈ database.records table, record column = .null ∨
      Present database target (record column)

/-- Relationships that share a column agree on the type it refers to. -/
def Schema.KeysAgree (schema : Schema) : Prop :=
  ∀ table column target target', Refers schema table column target →
    Refers schema table column target' → target = target'

instance {schema : Schema} : Decidable schema.KeysAgree :=
  decidable_of_iff (∀ entry ∈ schema.references, ∀ other ∈ schema.references,
      entry.1 = other.1 → entry.2.1 = other.2.1 → entry.2.2 = other.2.2) <| by
    constructor
    · intro agree table column target target' refers refers'
      exact agree _ (mem_references.mpr refers) _ (mem_references.mpr refers') rfl rfl
    · rintro agree ⟨table, column, target⟩ member ⟨table', column', target'⟩ member' same same'
      cases same
      cases same'
      exact agree table column target target' (mem_references.mp member) (mem_references.mp member')

theorem Refers.known {table column : String} {target : EntityType}
    (refers : Refers schema table column target) : target ∈ schema.types := by
  cases refers with
  | ownerKey known own storage leads => exact List.mem_of_find?_eq_some leads
  | targetKey known => exact known
  | ownerPair known => exact known
  | targetPair known own storage leads => exact List.mem_of_find?_eq_some leads

theorem integral_kept {name : String} {records : List Record}
    (changed : Rewrites before after name records)
    (present : ∀ type ∈ schema.types, ∀ cell,
      (∃ table column, Refers schema table column type ∧
        ∃ record ∈ before.records table, record column = cell) →
        Present before type cell → Present after type cell)
    (each : ∀ column target, Refers schema name column target → ∀ record ∈ records,
      (∃ old ∈ before.records name, old column = record column) ∨ record column = .null ∨
        Present after target (record column))
    (integral : Integral schema before) : Integral schema after := by
  intro table column target refers record member
  have before_present : ∀ old ∈ before.records table, old column = .null ∨
      Present after target (old column) := fun old inside =>
    (integral table column target refers old inside).imp_right
      (present target refers.known _ ⟨table, column, refers, old, inside, rfl⟩)
  by_cases same : table = name
  · subst same
    rw [records_same changed] at member
    rcases each column target refers record member with ⟨old, inside, same⟩ | new
    · rw [← same]
      exact before_present old inside
    · exact new
  · rw [records_other changed same] at member
    exact before_present record member

theorem Relinks.integral (links : Relinks schema sound before after) (holds : sound)
    (tables : schema.TablesDistinct) (keys : schema.KeysApart) (agree : schema.KeysAgree)
    (integral : Integral schema before) : Integral schema after := by
  have kept : ∀ type ∈ schema.types, ∀ cell, Present before type cell → Present after type cell :=
    fun type known cell => links.present tables keys known
  cases links with
  | @set table column target meets cell refers present _ changed =>
      refine integral_kept changed (fun type known cell _ => kept type known cell)
        (fun column' target' refers' record member => ?_) integral
      obtain ⟨old, inside, rfl⟩ := List.mem_map.mp member
      split
      · by_cases same : column' = column
        · subst same
          obtain rfl := agree table column' target' target refers' refers
          rw [Record.set_same]
          exact .inr (present.imp_right fun found => kept target' refers'.known cell (found holds))
        · rw [Record.set_other cell same]
          exact .inl ⟨old, inside, rfl⟩
      · exact .inl ⟨old, inside, rfl⟩
  | drop used changed =>
      refine integral_kept changed (fun type known cell _ => kept type known cell)
        (fun column' target' _ record member => ?_) integral
      exact .inl ⟨record, (List.mem_filter.mp member).1, rfl⟩
  | pair used _ present changed =>
      refine integral_kept changed (fun type known cell _ => kept type known cell)
        (fun column' target' refers' record member => ?_) integral
      rcases List.mem_append.mp member with old | new
      · exact .inl ⟨record, old, rfl⟩
      · refine .inr ((present record new column').imp_right ?_)
        rintro ⟨target, refers, found⟩
        obtain rfl := agree _ column' target' target refers' refers
        exact kept target' refers'.known _ (found holds)

theorem present_removed {type target : EntityType} {cell value : Cell}
    (tables : schema.TablesDistinct) (typed : FieldsTyped schema before)
    (known : type ∈ schema.types) (known' : target ∈ schema.types)
    (kind : cell.type? = some (columnType type.identity.type))
    (changed : Rewrites before after (tableName type)
      ((before.records (tableName type)).filter fun record => !(record (idName type)).agrees cell))
    (free : target = type → value.agrees cell = false) (present : Present before target value) :
    Present after target value := by
  obtain ⟨record, member, agrees⟩ := present
  by_cases same : tableName target = tableName type
  · obtain rfl := same_type tables known' known same
    refine ⟨record, ?_, agrees⟩
    rw [records_same changed]
    refine List.mem_filter.mpr ⟨member, ?_⟩
    cases removed : (record (idName target)).agrees cell with
    | false => rfl
    | true =>
        have taken := typed.identities known record member
        have given : (record (idName target)).type? = cell.type? := by
          rw [kind]
          refine taken.resolve_left fun empty => ?_
          rw [empty, Cell.agrees_iff] at agrees
          rcases agrees with ⟨rfl, given, _⟩ | ⟨_, rank, _, none⟩
          · exact given rfl
          · cases none
        exact absurd (Cell.agrees_trans agrees removed given) (by simp [free rfl])
  · refine ⟨record, ?_, agrees⟩
    rw [records_other changed same]
    exact member

/-- Where key columns are not columns of fields and agree on what they refer to, references stay sound. -/
theorem Changes.integral (changes : Changes schema sound before after) (holds : sound)
    (tables : schema.TablesDistinct) (columns : schema.ColumnsDistinct) (keys : schema.KeysApart)
    (agree : schema.KeysAgree) (typed : FieldsTyped schema before)
    (integral : Integral schema before) : Integral schema after := by
  cases changes with
  | relink links => exact links.integral holds tables keys agree integral
  | @create type record known _ unlinked changed =>
      refine integral_kept changed (fun other known' cell _ => present_kept changed fun _ old inside =>
        ⟨old, List.mem_append_left _ inside, rfl⟩) (fun column target refers record' member => ?_)
        integral
      rcases List.mem_append.mp member with old | new
      · exact .inl ⟨record', old, rfl⟩
      · rw [List.mem_singleton.mp new]
        exact .inr (.inl (unlinked column (keys _ column target refers type known rfl)))
  | @assign type meets assignments known values changed =>
      have apart : ∀ column, (∀ field ∈ type.attributes, columnName field.name ≠ column) →
          ∀ record : Record, (if meets record then record.assign assignments else record) column =
            record column := by
        intro column other record
        split
        · refine Record.assign_other record fun assignment given named => ?_
          obtain ⟨field, own, named', _⟩ := values assignment given
          exact other field own (named'.symm.trans named)
        · rfl
      refine integral_kept changed (fun other known' cell _ => present_kept changed fun same =>
        map_keeps _ ?_) (fun column target refers record member => ?_) integral
      · obtain rfl := same_type tables known' known same
        exact apart _ fun field own => attribute_apart columns known' own
      · obtain ⟨old, inside, rfl⟩ := List.mem_map.mp member
        exact .inl ⟨old, inside, (apart column (fun field own =>
          keys _ column target refers type known rfl field (List.mem_cons_of_mem _ own)) old).symm⟩
  | @remove type cell known kind free changed =>
      refine integral_kept changed (fun target known' value referred present =>
        present_removed tables typed known known' kind changed (fun same => ?_) present)
        (fun column target _ record member => .inl ⟨record, (List.mem_filter.mp member).1, rfl⟩)
        integral
      subst same
      obtain ⟨table, column, refers, record, inside, rfl⟩ := referred
      exact free table column refers record inside

end

end ResourceServer
