import ResourceServer.Proofs.Layout

/-! What the rules for schemas give, and the columns that refer to resources. -/

namespace ResourceServer

open ResourceServer.Store ResourceServer.Mapping

/-- What holds of a schema that follows the rules. -/
structure Schema.Formed (schema : Schema) : Prop where
  names : (schema.types.map EntityType.name).Nodup
  members : ∀ type ∈ schema.types, type.memberNames.Nodup
  targets : ∀ type ∈ schema.types, ∀ relationship ∈ type.relationships,
    (schema.type? relationship.target).isSome

/-- A relationship leads from one type of a schema to another. -/
structure Schema.Relates (schema : Schema) (type : EntityType) (relationship : Relationship)
    (target : EntityType) : Prop where
  known : type ∈ schema.types
  own : relationship ∈ type.relationships
  leads : schema.type? relationship.target = some target

theorem firstRepeated_none {seen names : List String}
    (none_repeated : Schema.firstRepeated seen names = none) :
    names.Nodup ∧ ∀ name ∈ names, name ∉ seen := by
  induction names generalizing seen with
  | nil => exact ⟨List.nodup_nil, nofun⟩
  | cons name rest ih =>
      unfold Schema.firstRepeated at none_repeated
      split at none_repeated
      · cases none_repeated
      · rename_i fresh
        obtain ⟨distinct, apart⟩ := ih none_repeated
        have unseen : name ∉ seen := by simpa using fresh
        refine ⟨List.nodup_cons.mpr ⟨fun inside => ?_, distinct⟩, fun other member => ?_⟩
        · exact apart name inside List.mem_cons_self
        · rcases List.mem_cons.mp member with rfl | inside
          · exact unseen
          · exact fun old => apart other inside (List.mem_cons_of_mem _ old)

theorem typeError_none {type : EntityType} (fine : Schema.typeError? type = none) :
    type.memberNames.Nodup := by
  unfold Schema.typeError? at fine
  split at fine
  · cases fine
  · rename_i none_repeated
    exact (firstRepeated_none none_repeated).1

theorem insertType_perm (type : EntityType) (types : List EntityType) :
    (Schema.insertType type types).Perm (type :: types) := by
  induction types with
  | nil => exact .refl _
  | cons other rest ih =>
      unfold Schema.insertType
      split
      · exact .refl _
      · exact (ih.cons other).trans (.swap type other rest)

theorem type?_none {schema : Schema} {name : String} (absent : schema.type? name = none) :
    name ∉ schema.types.map EntityType.name := by
  intro member
  obtain ⟨type, known, same⟩ := List.mem_map.mp member
  have other := List.find?_eq_none.mp absent type known
  exact other (by simpa using same)

theorem collect_formed {schema collected : Schema} {types : List EntityType}
    (names : (schema.types.map EntityType.name).Nodup)
    (members : ∀ type ∈ schema.types, type.memberNames.Nodup)
    (done : Schema.collect schema types = .ok collected) :
    (collected.types.map EntityType.name).Nodup ∧
      ∀ type ∈ collected.types, type.memberNames.Nodup := by
  induction types generalizing schema with
  | nil =>
      cases done
      exact ⟨names, members⟩
  | cons type rest ih =>
      unfold Schema.collect at done
      split at done
      · cases done
      · rename_i fresh
        split at done
        · cases done
        · rename_i fine
          have perm := insertType_perm type schema.types
          refine ih ?_ ?_ done
          · refine (perm.map EntityType.name).nodup_iff.mpr (List.nodup_cons.mpr ⟨?_, names⟩)
            exact type?_none (by simpa using fresh)
          · intro other member
            rcases List.mem_cons.mp (perm.mem_iff.mp member) with rfl | inside
            · exact typeError_none fine
            · exact members other inside

theorem danglingTarget_none {schema : Schema} (fine : schema.danglingTarget? = none) :
    ∀ type ∈ schema.types, ∀ relationship ∈ type.relationships,
      (schema.type? relationship.target).isSome := by
  intro type known relationship own
  have one := List.findSome?_eq_none_iff.mp fine type known
  have other := List.findSome?_eq_none_iff.mp one relationship own
  cases found : schema.type? relationship.target with
  | some target => rfl
  | none => simp [found] at other

theorem ofTypes_formed {types : List EntityType} {schema : Schema}
    (accepted : Schema.ofTypes types = .ok schema) : schema.Formed := by
  obtain ⟨collected, done, accepted⟩ := bind_ok accepted
  split at accepted
  · cases accepted
  · rename_i fine
    cases accepted
    have fresh : ((Schema.mk []).types.map EntityType.name).Nodup := List.nodup_nil
    obtain ⟨names, members⟩ := collect_formed fresh nofun done
    exact ⟨names, members, danglingTarget_none fine⟩

section

variable {schema : Schema}

theorem Schema.Formed.target (formed : schema.Formed) {type : EntityType}
    (known : type ∈ schema.types) {relationship : Relationship}
    (own : relationship ∈ type.relationships) :
    ∃ target ∈ schema.types, schema.type? relationship.target = some target ∧
      findType schema relationship.target = .ok target ∧ target.name = relationship.target := by
  obtain ⟨target, found⟩ := Option.isSome_iff_exists.mp (formed.targets type known relationship own)
  refine ⟨target, List.mem_of_find?_eq_some found, found, ?_, by simpa using List.find?_some found⟩
  unfold findType
  rw [found]

theorem Schema.Formed.owns (formed : schema.Formed) {type : EntityType}
    (known : type ∈ schema.types) {relationship : Relationship}
    (own : relationship ∈ type.relationships) :
    type.relationship? relationship.name = some relationship := by
  have distinct := formed.members type known
  rw [EntityType.memberNames, List.nodup_append] at distinct
  exact find_unique Relationship.name distinct.2.1 own

theorem Schema.Formed.findRelationship (formed : schema.Formed) {type : EntityType}
    (known : type ∈ schema.types) {relationship : Relationship}
    (own : relationship ∈ type.relationships) :
    ∃ target ∈ schema.types, schema.type? relationship.target = some target ∧
      Mapping.findRelationship schema type relationship.name = .ok (relationship, target) := by
  obtain ⟨target, known', reached, leads, _⟩ := formed.target known own
  refine ⟨target, known', reached, ?_⟩
  unfold Mapping.findRelationship
  rw [formed.owns known own]
  dsimp only
  rw [leads]
  rfl

end

/-- A column of a table refers to the resources of a type. -/
inductive Refers (schema : Schema) : (table column : String) → EntityType → Prop
  | ownerKey {type target : EntityType} {relationship : Relationship} {column : String}
      (known : type ∈ schema.types) (own : relationship ∈ type.relationships)
      (storage : relationship.storage = .ownerKey column)
      (leads : schema.type? relationship.target = some target) :
      Refers schema (tableName type) column target
  | targetKey {type target : EntityType} {relationship : Relationship} {column : String}
      (known : type ∈ schema.types) (own : relationship ∈ type.relationships)
      (storage : relationship.storage = .targetKey column)
      (leads : schema.type? relationship.target = some target) :
      Refers schema (tableName target) column type
  | ownerPair {type : EntityType} {relationship : Relationship}
      {pairs ownerColumn targetColumn : String}
      (known : type ∈ schema.types) (own : relationship ∈ type.relationships)
      (storage : relationship.storage = .joinTable pairs ownerColumn targetColumn) :
      Refers schema pairs ownerColumn type
  | targetPair {type target : EntityType} {relationship : Relationship}
      {pairs ownerColumn targetColumn : String}
      (known : type ∈ schema.types) (own : relationship ∈ type.relationships)
      (storage : relationship.storage = .joinTable pairs ownerColumn targetColumn)
      (leads : schema.type? relationship.target = some target) :
      Refers schema pairs targetColumn target

theorem column_refers {schema : Schema} (formed : schema.Formed) {type : EntityType} (known : type ∈ schema.types)
    {columns : List ColumnDefinition} (laid : tableColumns schema type = .ok columns)
    {definition : ColumnDefinition} (member : definition ∈ columns) :
    (∃ field ∈ type.fields, columnName field.name = definition.name ∧
        storedType type field = definition.type) ∨
      ∃ other, Refers schema (tableName type) definition.name other ∧ definition.type = keyType other := by
  rcases column_cases laid member with field | ⟨relationship, own, target, storage, leads, keyed⟩ |
    ⟨owner, known', relationship, own, storage, leads, keyed⟩
  · exact .inl field
  · exact .inr ⟨target, .ownerKey known own storage (findType_found leads), keyed⟩
  · have reached : schema.type? relationship.target = some type := by
      rw [leads]
      exact find_unique EntityType.name formed.names known
    exact .inr ⟨owner, .targetKey known' own storage reached, keyed⟩

/-- No column that refers to resources is the column of a field. -/
def Schema.KeysApart (schema : Schema) : Prop :=
  ∀ table column target, Refers schema table column target →
    ∀ type ∈ schema.types, tableName type = table →
      ∀ field ∈ type.fields, columnName field.name ≠ column

def Schema.KeysFit (schema : Schema) : Prop :=
  ∀ table column target, Refers schema table column target →
    ∀ type ∈ schema.types, tableName type = table →
      ∀ field ∈ type.fields, columnName field.name = column → columnType field.type = keyType target

theorem Schema.KeysApart.fit {schema : Schema} (apart : schema.KeysApart) : schema.KeysFit :=
  fun table column target refers type known here field own named =>
    absurd named (apart table column target refers type known here field own)

def Schema.pairTables (schema : Schema) : List (String × String × String) :=
  schema.types.flatMap fun type => type.relationships.filterMap fun relationship =>
    match relationship.storage with
    | .joinTable pairs ownerColumn targetColumn => some (pairs, ownerColumn, targetColumn)
    | _ => none

def Schema.references (schema : Schema) : List (String × String × EntityType) :=
  schema.types.flatMap fun type => type.relationships.flatMap fun relationship =>
    match relationship.storage, schema.type? relationship.target with
    | .ownerKey column, some target => [(tableName type, column, target)]
    | .targetKey column, some target => [(tableName target, column, type)]
    | .joinTable pairs ownerColumn targetColumn, some target =>
      [(pairs, ownerColumn, type), (pairs, targetColumn, target)]
    | .joinTable pairs ownerColumn _, none => [(pairs, ownerColumn, type)]
    | _, none => []

section

variable {schema : Schema}

theorem mem_pairTables {pairs ownerColumn targetColumn : String} :
    (pairs, ownerColumn, targetColumn) ∈ schema.pairTables ↔
      ∃ type ∈ schema.types, ∃ relationship ∈ type.relationships,
        relationship.storage = .joinTable pairs ownerColumn targetColumn := by
  unfold Schema.pairTables
  simp only [List.mem_flatMap, List.mem_filterMap]
  refine exists_congr fun type => and_congr_right fun _ => exists_congr fun relationship =>
    and_congr_right fun _ => ?_
  cases relationship.storage <;> simp

theorem mem_references {table column : String} {target : EntityType} :
    (table, column, target) ∈ schema.references ↔ Refers schema table column target := by
  unfold Schema.references
  simp only [List.mem_flatMap]
  constructor
  · rintro ⟨type, known, relationship, own, member⟩
    split at member
    · rename_i storage leads
      cases List.mem_singleton.mp member
      exact .ownerKey known own storage leads
    · rename_i storage leads
      cases List.mem_singleton.mp member
      exact .targetKey known own storage leads
    · rename_i storage leads
      rcases List.mem_cons.mp member with same | member
      · cases same
        exact .ownerPair known own storage
      · cases List.mem_singleton.mp member
        exact .targetPair known own storage leads
    · rename_i storage _
      cases List.mem_singleton.mp member
      exact .ownerPair known own storage
    · cases member
  · intro refers
    cases refers with
    | ownerKey known own storage leads =>
        exact ⟨_, known, _, own, by simp [storage, leads]⟩
    | targetKey known own storage leads =>
        exact ⟨_, known, _, own, by simp [storage, leads]⟩
    | ownerPair known own storage =>
        refine ⟨_, known, _, own, ?_⟩
        rw [storage]
        split <;> simp_all
    | targetPair known own storage leads =>
        exact ⟨_, known, _, own, by simp [storage, leads]⟩

/-! What is asked of schemas can be computed. -/

instance : Decidable schema.ColumnsDistinct :=
  List.decidableBAll _ _

instance : Decidable schema.TablesDistinct :=
  decidable_of_iff ((schema.types.map tableName).Nodup ∧
      ∀ type ∈ schema.types, ∀ entry ∈ schema.pairTables, tableName type ≠ entry.1) <| by
    constructor
    · rintro ⟨entities, apart⟩
      refine ⟨entities, ?_⟩
      rintro type known pairs ⟨type', known', relationship, own, _, _, storage⟩
      exact apart type known _ (mem_pairTables.mpr ⟨type', known', relationship, own, storage⟩)
    · rintro ⟨entities, apart⟩
      refine ⟨entities, fun type known entry member => apart type known entry.1 ?_⟩
      obtain ⟨type', known', relationship, own, storage⟩ := mem_pairTables.mp member
      exact ⟨type', known', relationship, own, _, _, storage⟩

instance : Decidable schema.PairsShared :=
  decidable_of_iff (∀ entry ∈ schema.pairTables, ∀ other ∈ schema.pairTables, entry.1 = other.1 →
      entry.2.1 = other.2.1 ∧ entry.2.2 = other.2.2 ∨
        entry.2.1 = other.2.2 ∧ entry.2.2 = other.2.1) <| by
    constructor
    · intro shared type known relationship own type' known' relationship' own' _ _ _ _ _ storage storage'
      exact shared _ (mem_pairTables.mpr ⟨type, known, relationship, own, storage⟩) _
        (mem_pairTables.mpr ⟨type', known', relationship', own', storage'⟩) rfl
    · rintro shared ⟨pairs, ownerColumn, targetColumn⟩ member ⟨_, ownerColumn', targetColumn'⟩ member' rfl
      obtain ⟨type, known, relationship, own, storage⟩ := mem_pairTables.mp member
      obtain ⟨type', known', relationship', own', storage'⟩ := mem_pairTables.mp member'
      exact shared type known relationship own type' known' relationship' own' _ _ _ _ _ storage storage'

instance : Decidable schema.KeysApart :=
  decidable_of_iff (∀ entry ∈ schema.references, ∀ type ∈ schema.types, tableName type = entry.1 →
      ∀ field ∈ type.fields, columnName field.name ≠ entry.2.1) <| by
    constructor
    · intro apart table column target refers
      exact apart _ (mem_references.mpr refers)
    · rintro apart ⟨table, column, target⟩ member
      exact apart table column target (mem_references.mp member)

instance : Decidable schema.KeysFit :=
  decidable_of_iff (∀ entry ∈ schema.references, ∀ type ∈ schema.types, tableName type = entry.1 →
      ∀ field ∈ type.fields, columnName field.name = entry.2.1 →
        columnType field.type = keyType entry.2.2) <| by
    constructor
    · intro fit table column target refers
      exact fit _ (mem_references.mpr refers)
    · rintro fit ⟨table, column, target⟩ member
      exact fit table column target (mem_references.mp member)

end

end ResourceServer
