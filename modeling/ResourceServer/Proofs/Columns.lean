import Mathlib.Data.List.Induction
import Mathlib.Data.List.Nodup
import Mathlib.Data.String.Basic
import ResourceServer.Mapping.Registration
import ResourceServer.Proofs.Results
import ResourceServer.Proofs.Typing

/-! The columns of the tables that a schema is laid out in. -/

namespace ResourceServer

variable {α : Type}

namespace Keyed

def Ordered (keyed : Keyed α) : Prop :=
  keyed.Pairwise fun left right => left.1 < right.1

theorem lookup_put (name : String) (value : α) (keyed : Keyed α) (other : String) :
    (put name value keyed).lookup other =
      if other = name then some value else keyed.lookup other := by
  induction keyed with
  | nil =>
      by_cases same : other = name
      · simp [put, same]
      · simp [put, List.lookup_cons, same, beq_eq_false_iff_ne.mpr same]
  | cons entry rest ih =>
      obtain ⟨first, old⟩ := entry
      unfold put
      split
      · by_cases same : other = name
        · simp [same]
        · simp [List.lookup_cons, same, beq_eq_false_iff_ne.mpr same]
      · split
        · rename_i taken
          by_cases same : other = name
          · simp [same]
          · simp [List.lookup_cons, same, ← taken, beq_eq_false_iff_ne.mpr same]
        · rename_i apart
          by_cases same : other = first
          · have differs : other ≠ name := same ▸ Ne.symm apart
            simp [same, Ne.symm apart]
          · simp only [List.lookup_cons, beq_eq_false_iff_ne.mpr same, ih]

theorem mem_put {name : String} {value : α} {keyed : Keyed α} {entry : String × α}
    (member : entry ∈ put name value keyed) : entry = (name, value) ∨ entry ∈ keyed := by
  induction keyed with
  | nil => exact .inl (List.mem_singleton.mp member)
  | cons first rest ih =>
      unfold put at member
      split at member
      · exact List.mem_cons.mp member
      · split at member
        · rcases List.mem_cons.mp member with same | inside
          · exact .inl same
          · exact .inr (List.mem_cons_of_mem _ inside)
        · rcases List.mem_cons.mp member with rfl | inside
          · exact .inr List.mem_cons_self
          · exact (ih inside).imp_right (List.mem_cons_of_mem _)

theorem mem_ofList {entries : List (String × α)} {entry : String × α} (member : entry ∈ ofList entries) :
    entry ∈ entries := by
  have each (others : List (String × α)) (keyed : Keyed α)
      (member : entry ∈ others.foldl (fun keyed entry => put entry.1 entry.2 keyed) keyed) :
      entry ∈ others ∨ entry ∈ keyed := by
    induction others generalizing keyed with
    | nil => exact .inr member
    | cons first rest ih =>
        rcases ih _ member with inside | before
        · exact .inl (List.mem_cons_of_mem _ inside)
        · rcases mem_put before with rfl | old
          · exact .inl List.mem_cons_self
          · exact .inr old
  exact (each entries [] member).resolve_right List.not_mem_nil

theorem ofList_concat (entries : List (String × α)) (entry : String × α) :
    ofList (entries ++ [entry]) = (ofList entries).put entry.1 entry.2 := by
  simp [ofList]

theorem lookup_ofList {entries : List (String × α)}
    (distinct : (entries.map Prod.fst).Nodup) (name : String) (value : α) :
    (ofList entries).lookup name = some value ↔ (name, value) ∈ entries := by
  induction entries using List.reverseRecOn with
  | nil => simp [ofList]
  | append_singleton before entry ih =>
      rw [List.map_append, List.nodup_append] at distinct
      rw [ofList_concat, lookup_put, List.mem_append, List.mem_singleton]
      by_cases same : name = entry.1
      · subst same
        have fresh : (entry.1, value) ∉ before := fun inside =>
          distinct.2.2 _ (List.mem_map_of_mem inside) _ (List.mem_singleton_self _) rfl
        simp [fresh, Prod.ext_iff, eq_comm]
      · have other : (name, value) ≠ entry := fun found => same (congrArg Prod.fst found)
        simp [same, other, ih distinct.1]

theorem ordered_put {keyed : Keyed α} (name : String) (value : α) (ordered : keyed.Ordered) :
    (put name value keyed).Ordered := by
  induction keyed with
  | nil => exact List.pairwise_singleton _ _
  | cons first rest ih =>
      obtain ⟨other, old⟩ := first
      have behind := List.pairwise_cons.mp ordered
      unfold put
      split
      · rename_i before
        refine List.pairwise_cons.mpr ⟨fun entry member => ?_, ordered⟩
        rcases List.mem_cons.mp member with rfl | inside
        · exact before
        · exact lt_trans before (behind.1 entry inside)
      · split
        · rename_i same
          exact List.pairwise_cons.mpr ⟨fun entry inside => same ▸ behind.1 entry inside, behind.2⟩
        · rename_i notBefore apart
          refine List.pairwise_cons.mpr ⟨fun entry member => ?_, ih behind.2⟩
          rcases mem_put member with rfl | inside
          · exact lt_of_le_of_ne (not_lt.mp notBefore) (Ne.symm apart)
          · exact behind.1 entry inside

theorem ordered_ofList (entries : List (String × α)) : (ofList entries).Ordered := by
  induction entries using List.reverseRecOn with
  | nil => exact List.Pairwise.nil
  | append_singleton before entry ih =>
      rw [ofList_concat]
      exact ordered_put entry.1 entry.2 ih

theorem Ordered.names {keyed : Keyed α} (ordered : keyed.Ordered) :
    (keyed.map (·.1)).Nodup :=
  List.pairwise_map.mpr (ordered.imp fun before => ne_of_lt before)

theorem mem_of_lookup {keyed : Keyed α} {name : String} {value : α}
    (found : keyed.lookup name = some value) : (name, value) ∈ keyed := by
  obtain ⟨before, after, rfl, _⟩ := List.lookup_eq_some_iff.mp found
  simp

theorem Ordered.lookup_mem {keyed : Keyed α} (ordered : keyed.Ordered) {name : String} {value : α}
    (member : (name, value) ∈ keyed) : keyed.lookup name = some value := by
  obtain ⟨before, after, rfl⟩ := List.append_of_mem member
  refine List.lookup_eq_some_iff.mpr ⟨before, after, rfl, fun entry among => ?_⟩
  have less := (List.pairwise_append.mp ordered).2.2 entry among _ List.mem_cons_self
  exact bne_iff_ne.mpr (ne_of_gt less)

theorem Ordered.ext {left right : Keyed α} (ordered : left.Ordered) (ordered' : right.Ordered)
    (same : ∀ name, left.lookup name = right.lookup name) : left = right := by
  have members : ∀ entry, entry ∈ left ↔ entry ∈ right := by
    intro entry
    constructor
    · intro member
      exact mem_of_lookup ((same entry.1).symm.trans (ordered.lookup_mem member))
    · intro member
      exact mem_of_lookup ((same entry.1).trans (ordered'.lookup_mem member))
  have perm : left.Perm right :=
    (List.perm_ext_iff_of_nodup (List.Nodup.of_map _ ordered.names) (List.Nodup.of_map _ ordered'.names)).mpr members
  apply perm.eq_of_pairwise _ ordered ordered'
  intro one other _ _ before after
  exact absurd before (not_lt_of_gt after)

end Keyed

theorem insertBack_perm (compare : α → α → Ordering) (item : α) (items : List α) :
    (insertBack compare item items).Perm (item :: items) := by
  induction items with
  | nil => exact .refl _
  | cons last rest ih =>
      unfold insertBack
      split
      · exact (ih.cons last).trans (.swap item last rest)
      · exact .refl _

theorem stableSort_perm (compare : α → α → Ordering) (items : List α) :
    (stableSort compare items).Perm items := by
  have inserted (sorted : List α) :
      (items.foldl (fun sorted item => insertBack compare item sorted) sorted).Perm
        (items ++ sorted) := by
    induction items generalizing sorted with
    | nil => exact .refl _
    | cons item rest ih =>
        refine (ih (insertBack compare item sorted)).trans ?_
        exact ((insertBack_perm compare item sorted).append_left rest).trans List.perm_middle
  exact (List.reverse_perm _).trans (by simpa using inserted [])

namespace Mapping

open ResourceServer.Store

def storedType (type : EntityType) (field : Field) : ColumnType :=
  if field.name = type.identity.name ∧ field.type = .integer then .serial else columnType field.type

theorem storedType_stored (type : EntityType) (field : Field) (cell : Cell) :
    (storedType type field).admits cell = (columnType field.type).admits cell := by
  unfold storedType
  split
  · rename_i serial
    rw [serial.2]
    exact (stored_admits .serial cell).symm
  · rfl

def addField (type : EntityType) (columns : Keyed (Nat × ColumnType)) (field : Field) :
    Keyed (Nat × ColumnType) :=
  columns.put (columnName field.name) (columns.length, storedType type field)

def addKey (columns : Keyed (Nat × ColumnType)) (key : String × ColumnType) :
    Keyed (Nat × ColumnType) :=
  if columns.contains key.1 then columns else columns.put key.1 (columns.length, key.2)

theorem addFields_keep (type : EntityType) (fields : List Field)
    (columns : Keyed (Nat × ColumnType)) {name : String}
    (other : ∀ field ∈ fields, columnName field.name ≠ name) :
    (fields.foldl (addField type) columns).lookup name = columns.lookup name := by
  induction fields generalizing columns with
  | nil => rfl
  | cons field rest ih =>
      rw [List.foldl_cons, ih _ fun field member => other field (List.mem_cons_of_mem _ member)]
      rw [addField, Keyed.lookup_put, if_neg (other field List.mem_cons_self).symm]

theorem addFields_lookup (type : EntityType) {fields : List Field}
    (distinct : (fields.map fun field => columnName field.name).Nodup) {field : Field}
    (member : field ∈ fields) (columns : Keyed (Nat × ColumnType)) :
    ∃ place, (fields.foldl (addField type) columns).lookup (columnName field.name) =
      some (place, storedType type field) := by
  induction fields generalizing columns with
  | nil => cases member
  | cons first rest ih =>
      rw [List.map_cons, List.nodup_cons] at distinct
      rcases List.mem_cons.mp member with rfl | inside
      · refine ⟨columns.length, ?_⟩
        rw [List.foldl_cons, addFields_keep]
        · rw [addField, Keyed.lookup_put, if_pos rfl]
        · intro other inside same
          exact distinct.1 (List.mem_map.mpr ⟨other, inside, same⟩)
      · exact ih distinct.2 inside _

theorem addFields_present (type : EntityType) (fields : List Field) {name : String}
    (columns : Keyed (Nat × ColumnType))
    (present : (columns.lookup name).isSome ∨ ∃ field ∈ fields, columnName field.name = name) :
    ((fields.foldl (addField type) columns).lookup name).isSome := by
  induction fields generalizing columns with
  | nil => exact present.resolve_right fun ⟨_, member, _⟩ => nomatch member
  | cons first rest ih =>
      refine ih _ ?_
      rw [addField, Keyed.lookup_put]
      by_cases same : name = columnName first.name
      · exact .inl (by rw [if_pos same]; rfl)
      · rw [if_neg same]
        refine present.imp_right fun ⟨field, member, named⟩ => ⟨field, ?_, named⟩
        exact (List.mem_cons.mp member).resolve_left fun first => same (first ▸ named.symm)

theorem addKeys_keep (keys : List (String × ColumnType)) {columns : Keyed (Nat × ColumnType)}
    {name : String} {entry : Nat × ColumnType} (found : columns.lookup name = some entry) :
    (keys.foldl addKey columns).lookup name = some entry := by
  induction keys generalizing columns with
  | nil => exact found
  | cons key rest ih =>
      refine ih ?_
      unfold addKey Keyed.contains
      split
      · exact found
      · rename_i absent
        rw [Keyed.lookup_put, if_neg, found]
        intro same
        rw [← same, found] at absent
        exact absent rfl

theorem addKeys_lookup {keys : List (String × ColumnType)} {key : String × ColumnType}
    (member : key ∈ keys) (columns : Keyed (Nat × ColumnType)) :
    ((keys.foldl addKey columns).lookup key.1).isSome := by
  induction keys generalizing columns with
  | nil => cases member
  | cons first rest ih =>
      rcases List.mem_cons.mp member with rfl | inside
      · have present : ∃ entry, (addKey columns key).lookup key.1 = some entry := by
          unfold addKey Keyed.contains
          split
          · rename_i taken
            exact Option.isSome_iff_exists.mp taken
          · exact ⟨_, by rw [Keyed.lookup_put, if_pos rfl]⟩
        obtain ⟨entry, found⟩ := present
        rw [List.foldl_cons, addKeys_keep rest found]
        rfl
      · exact ih inside _

theorem addFields_ordered (type : EntityType) (fields : List Field)
    {columns : Keyed (Nat × ColumnType)} (ordered : columns.Ordered) :
    (fields.foldl (addField type) columns).Ordered := by
  induction fields generalizing columns with
  | nil => exact ordered
  | cons field rest ih => exact ih (Keyed.ordered_put _ _ ordered)

theorem addKeys_ordered (keys : List (String × ColumnType)) {columns : Keyed (Nat × ColumnType)}
    (ordered : columns.Ordered) : (keys.foldl addKey columns).Ordered := by
  induction keys generalizing columns with
  | nil => exact ordered
  | cons key rest ih =>
      refine ih ?_
      unfold addKey
      split
      · exact ordered
      · exact Keyed.ordered_put _ _ ordered

def placedColumns (type : EntityType) (keys : List (String × ColumnType)) :
    Keyed (Nat × ColumnType) :=
  keys.foldl addKey (type.fields.foldl (addField type) [])

theorem placedColumns_ordered (type : EntityType) (keys : List (String × ColumnType)) :
    (placedColumns type keys).Ordered :=
  addKeys_ordered keys (addFields_ordered type type.fields List.Pairwise.nil)

theorem tableColumns_perm {schema : Schema} {type : EntityType} {columns : List ColumnDefinition}
    (laid : tableColumns schema type = .ok columns) :
    ∃ keys, keyColumns schema type = .ok keys ∧
      columns.Perm ((placedColumns type keys).map fun entry => ⟨entry.1, entry.2.2⟩) := by
  obtain ⟨keys, found, placed⟩ := bind_ok laid
  cases placed
  exact ⟨keys, found, (stableSort_perm _ _).map _⟩

theorem columns_distinct {schema : Schema} {type : EntityType} {columns : List ColumnDefinition}
    (laid : tableColumns schema type = .ok columns) : (columns.map ColumnDefinition.name).Nodup := by
  obtain ⟨keys, _, placed⟩ := tableColumns_perm laid
  refine (placed.map ColumnDefinition.name).nodup_iff.mpr ?_
  rw [List.map_map]
  exact (placedColumns_ordered type keys).names

theorem field_column {schema : Schema} {type : EntityType} {columns : List ColumnDefinition}
    (laid : tableColumns schema type = .ok columns)
    (distinct : (type.fields.map fun field => columnName field.name).Nodup) {field : Field}
    (member : field ∈ type.fields) :
    ⟨columnName field.name, storedType type field⟩ ∈ columns := by
  obtain ⟨keys, _, placed⟩ := tableColumns_perm laid
  obtain ⟨place, found⟩ := addFields_lookup type distinct member []
  have kept := Keyed.mem_of_lookup (addKeys_keep keys found)
  exact placed.mem_iff.mpr (List.mem_map.mpr ⟨_, kept, rfl⟩)

theorem field_named {schema : Schema} {type : EntityType} {columns : List ColumnDefinition}
    (laid : tableColumns schema type = .ok columns) {field : Field} (member : field ∈ type.fields) :
    ∃ definition ∈ columns, definition.name = columnName field.name := by
  obtain ⟨keys, _, placed⟩ := tableColumns_perm laid
  obtain ⟨entry, found⟩ := Option.isSome_iff_exists.mp
    (addFields_present type type.fields [] (.inr ⟨field, member, rfl⟩))
  have kept := Keyed.mem_of_lookup (addKeys_keep keys found)
  exact ⟨_, placed.mem_iff.mpr (List.mem_map.mpr ⟨_, kept, rfl⟩), rfl⟩

theorem key_column {schema : Schema} {type : EntityType} {columns : List ColumnDefinition}
    (laid : tableColumns schema type = .ok columns) {key : String × ColumnType}
    {keys : List (String × ColumnType)} (found : keyColumns schema type = .ok keys)
    (member : key ∈ keys) : ∃ definition ∈ columns, definition.name = key.1 := by
  obtain ⟨keys', found', placed⟩ := tableColumns_perm laid
  cases found.symm.trans found'
  obtain ⟨entry, kept⟩ := Option.isSome_iff_exists.mp
    (addKeys_lookup member (type.fields.foldl (addField type) []))
  exact ⟨_, placed.mem_iff.mpr (List.mem_map.mpr ⟨_, Keyed.mem_of_lookup kept, rfl⟩), rfl⟩

def ownKey (schema : Schema) (relationship : Relationship) :
    Except MappingError (Option (String × ColumnType)) :=
  match relationship.storage with
  | .ownerKey column => do
    let target ← findType schema relationship.target
    return some (column, keyType target)
  | _ => return none

def foreignKeys (schema : Schema) (type : EntityType) : List (String × ColumnType) :=
  schema.types.flatMap fun owner =>
    owner.relationships.filterMap fun relationship =>
      match relationship.storage with
      | .targetKey column =>
        if relationship.target = type.name then some (column, keyType owner) else none
      | _ => none

theorem keyColumns_parts {schema : Schema} {type : EntityType} {keys : List (String × ColumnType)}
    (found : keyColumns schema type = .ok keys) :
    ∃ own, type.relationships.filterMapM (ownKey schema) = .ok own ∧
      keys = own ++ foreignKeys schema type := by
  obtain ⟨own, all, parts⟩ := bind_ok found
  cases parts
  exact ⟨own, all, rfl⟩

theorem ownerKey_column {schema : Schema} {type target : EntityType} {columns : List ColumnDefinition}
    (laid : tableColumns schema type = .ok columns) {relationship : Relationship}
    (member : relationship ∈ type.relationships) {column : String}
    (storage : relationship.storage = .ownerKey column)
    (leads : findType schema relationship.target = .ok target) :
    ∃ definition ∈ columns, definition.name = column := by
  obtain ⟨keys, found, _⟩ := tableColumns_perm laid
  have own : ownKey schema relationship = .ok (some (column, keyType target)) := by
    unfold ownKey
    rw [storage]
    dsimp only
    rw [leads]
    rfl
  obtain ⟨owns, all, rfl⟩ := keyColumns_parts found
  exact key_column laid found (List.mem_append_left _ (mem_filterMapM all member own))

theorem targetKey_column {schema : Schema} {type owner : EntityType}
    {columns : List ColumnDefinition} (laid : tableColumns schema type = .ok columns)
    (known : owner ∈ schema.types) {relationship : Relationship}
    (member : relationship ∈ owner.relationships) {column : String}
    (storage : relationship.storage = .targetKey column) (leads : relationship.target = type.name) :
    ∃ definition ∈ columns, definition.name = column := by
  obtain ⟨keys, found, _⟩ := tableColumns_perm laid
  have foreign : (column, keyType owner) ∈ foreignKeys schema type := by
    refine List.mem_flatMap.mpr ⟨owner, known, List.mem_filterMap.mpr ⟨relationship, member, ?_⟩⟩
    rw [storage]
    exact if_pos leads
  obtain ⟨owns, _, rfl⟩ := keyColumns_parts found
  exact key_column laid found (List.mem_append_right _ foreign)

theorem findType_found {schema : Schema} {name : String} {type : EntityType}
    (leads : findType schema name = .ok type) : schema.type? name = some type := by
  unfold findType at leads
  split at leads
  · rename_i found
    cases leads
    exact found
  · cases leads

theorem keyType_plain (type : EntityType) : keyType type ≠ .serial := by
  unfold keyType
  cases type.identity.type <;> nofun

theorem addFields_cases {type : EntityType} {fields : List Field} {columns : Keyed (Nat × ColumnType)}
    {entry : String × Nat × ColumnType}
    (member : entry ∈ fields.foldl (addField type) columns) :
    entry ∈ columns ∨ ∃ field ∈ fields, columnName field.name = entry.1 ∧
      storedType type field = entry.2.2 := by
  induction fields generalizing columns with
  | nil => exact .inl member
  | cons field rest ih =>
      rcases ih member with before | ⟨other, inside, same⟩
      · rcases Keyed.mem_put before with rfl | old
        · exact .inr ⟨field, List.mem_cons_self, rfl, rfl⟩
        · exact .inl old
      · exact .inr ⟨other, List.mem_cons_of_mem _ inside, same⟩

theorem addKeys_cases {keys : List (String × ColumnType)} {columns : Keyed (Nat × ColumnType)}
    {entry : String × Nat × ColumnType} (member : entry ∈ keys.foldl addKey columns) :
    entry ∈ columns ∨ ∃ key ∈ keys, key.1 = entry.1 ∧ key.2 = entry.2.2 := by
  induction keys generalizing columns with
  | nil => exact .inl member
  | cons key rest ih =>
      rcases ih member with before | ⟨other, inside, same⟩
      · unfold addKey at before
        split at before
        · exact .inl before
        · rcases Keyed.mem_put before with rfl | old
          · exact .inr ⟨key, List.mem_cons_self, rfl, rfl⟩
          · exact .inl old
      · exact .inr ⟨other, List.mem_cons_of_mem _ inside, same⟩

theorem ownKey_made {schema : Schema} {relationship : Relationship} {key : String × ColumnType}
    (found : ownKey schema relationship = .ok (some key)) :
    ∃ target, relationship.storage = .ownerKey key.1 ∧ findType schema relationship.target = .ok target ∧
      key.2 = keyType target := by
  unfold ownKey at found
  split at found
  · rename_i storage
    obtain ⟨target, leads, same⟩ := bind_ok found
    cases same
    exact ⟨target, storage, leads, rfl⟩
  · cases found

theorem foreignKeys_made {schema : Schema} {type : EntityType} {key : String × ColumnType}
    (member : key ∈ foreignKeys schema type) :
    ∃ owner ∈ schema.types, ∃ relationship ∈ owner.relationships,
      relationship.storage = .targetKey key.1 ∧ relationship.target = type.name ∧ key.2 = keyType owner := by
  obtain ⟨owner, known, inside⟩ := List.mem_flatMap.mp member
  obtain ⟨relationship, own, made⟩ := List.mem_filterMap.mp inside
  split at made
  · rename_i storage
    split at made
    · rename_i leads
      cases made
      exact ⟨owner, known, relationship, own, storage, leads, rfl⟩
    · cases made
  · cases made

theorem column_cases {schema : Schema} {type : EntityType} {columns : List ColumnDefinition}
    (laid : tableColumns schema type = .ok columns) {definition : ColumnDefinition}
    (member : definition ∈ columns) :
    (∃ field ∈ type.fields, columnName field.name = definition.name ∧
        storedType type field = definition.type) ∨
      (∃ relationship ∈ type.relationships, ∃ target, relationship.storage = .ownerKey definition.name ∧
        findType schema relationship.target = .ok target ∧ definition.type = keyType target) ∨
      ∃ owner ∈ schema.types, ∃ relationship ∈ owner.relationships,
        relationship.storage = .targetKey definition.name ∧ relationship.target = type.name ∧
          definition.type = keyType owner := by
  obtain ⟨keys, found, placed⟩ := tableColumns_perm laid
  obtain ⟨entry, inside, rfl⟩ := List.mem_map.mp (placed.mem_iff.mp member)
  rcases addKeys_cases inside with fields | ⟨key, among, named, same⟩
  · exact .inl ((addFields_cases fields).resolve_left List.not_mem_nil)
  right
  dsimp only
  rw [← named, ← same]
  obtain ⟨owns, all, rfl⟩ := keyColumns_parts found
  rcases List.mem_append.mp among with own | foreign
  · obtain ⟨relationship, own, made⟩ := filterMapM_mem all own
    exact .inl ⟨relationship, own, ownKey_made made⟩
  · exact .inr (foreignKeys_made foreign)

/-- Only the column of an integer identity is numbered. -/
theorem serial_column {schema : Schema} {type : EntityType} {columns : List ColumnDefinition}
    (laid : tableColumns schema type = .ok columns) {definition : ColumnDefinition}
    (member : definition ∈ columns) (serial : definition.type = .serial) :
    ∃ field ∈ type.fields, columnName field.name = definition.name ∧
      field.name = type.identity.name ∧ field.type = .integer := by
  have plain {other : EntityType} (keyed : definition.type = keyType other) : False :=
    keyType_plain other (keyed.symm.trans serial)
  rcases column_cases laid member with ⟨field, own, named, stored⟩ | ⟨_, _, _, _, _, keyed⟩ |
    ⟨_, _, _, _, _, _, keyed⟩
  · refine ⟨field, own, named, ?_⟩
    have numbered : storedType type field = .serial := stored.trans serial
    unfold storedType at numbered
    split at numbered
    · rename_i integer
      exact integer
    · cases kind : field.type <;> rw [kind] at numbered <;> cases numbered
  · exact (plain keyed).elim
  · exact (plain keyed).elim

end Mapping

end ResourceServer
