import ResourceServer.Proofs.Merging
import ResourceServer.Proofs.Paths
import ResourceServer.Proofs.Veils

/-! Statements that do not test secret attributes of resources. -/

namespace ResourceServer

open ResourceServer.Store ResourceServer.Mapping
open ResourceServer.Filter (Predicate)

abbrev Secrets := EntityType → String → Prop

def Schema.cover (schema : Schema) (secret : Secrets) : Cover := fun table column cell other =>
  ∃ type ∈ schema.types, tableName type = table ∧ ∃ field ∈ type.attributes, secret type field.name ∧
    columnName field.name = column ∧ (columnType field.type).takes cell ∧ (columnType field.type).takes other

/-- A schema whose tables, fields and keys have columns of their own. -/
structure Schema.Apart (schema : Schema) : Prop where
  formed : schema.Formed
  tables : schema.TablesDistinct
  columns : schema.ColumnsDistinct
  keys : schema.KeysApart

section

variable {schema : Schema} {secret : Secrets} {type target : EntityType} {relationship : Relationship}
  {cell other : Cell}

theorem Schema.Apart.cover_field (apart : schema.Apart) (known : type ∈ schema.types) {field : Field}
    (own : field ∈ type.fields) (covered : schema.cover secret (tableName type) (columnName field.name) cell other) :
    field ∈ type.attributes ∧ secret type field.name ∧ (columnType field.type).takes cell ∧
      (columnType field.type).takes other := by
  obtain ⟨type', known', table, field', own', hidden, column, kinds⟩ := covered
  obtain rfl : type' = type := List.inj_on_of_nodup_map apart.tables.entities known' known table
  obtain rfl : field' = field := List.inj_on_of_nodup_map (apart.columns type' known)
    (List.mem_cons_of_mem _ own') own column
  exact ⟨own', hidden, kinds⟩

theorem Schema.Apart.cover_id (apart : schema.Apart) (known : type ∈ schema.types) :
    ¬schema.cover secret (tableName type) (idName type) cell other := by
  intro covered
  have listed := (apart.cover_field known List.mem_cons_self covered).1
  have distinct := apart.columns type known
  rw [EntityType.fields, List.map_cons, List.nodup_cons] at distinct
  exact distinct.1 (List.mem_map_of_mem listed)

theorem Schema.Apart.cover_key (apart : schema.Apart) {table column : String}
    (refers : Refers schema table column target) : ¬schema.cover secret table column cell other := by
  rintro ⟨type, known, named, field, own, _, same, _⟩
  exact apart.keys table column target refers type known named field (List.mem_cons_of_mem _ own) same

theorem Schema.Apart.cover_pairs (apart : schema.Apart) {pairs column : String} (used : Pairs schema pairs) :
    ¬schema.cover secret pairs column cell other := by
  rintro ⟨type, known, named, _⟩
  exact apart.tables.apart type known pairs used named

end

/-- Somewhere a predicate on a type names a field of a type. -/
inductive Filter.Predicate.Mentions (schema : Schema) :
    EntityType → Predicate → EntityType → String → Prop
  | all {type owner : EntityType} {field : String} {predicates : List Predicate} {predicate : Predicate}
      (member : predicate ∈ predicates) (inner : Mentions schema type predicate owner field) :
      Mentions schema type (.all predicates) owner field
  | any {type owner : EntityType} {field : String} {predicates : List Predicate} {predicate : Predicate}
      (member : predicate ∈ predicates) (inner : Mentions schema type predicate owner field) :
      Mentions schema type (.any predicates) owner field
  | not {type owner : EntityType} {field : String} {predicate : Predicate}
      (inner : Mentions schema type predicate owner field) : Mentions schema type (.not predicate) owner field
  | compare {type : EntityType} (field : String) (comparison : Filter.Comparison) (right : Filter.Operand) :
      Mentions schema type (.compare field comparison right) type field
  | operand {type : EntityType} (field : String) (comparison : Filter.Comparison) (other : String) :
      Mentions schema type (.compare field comparison (.field other)) type other
  | oneOf {type : EntityType} (field : String) (values : List Value) :
      Mentions schema type (.oneOf field values) type field
  | like {type : EntityType} (field pattern : String) (ignoreCase : Bool) :
      Mentions schema type (.like field pattern ignoreCase) type field
  | isNull {type : EntityType} (field : String) : Mentions schema type (.isNull field) type field
  | search {type : EntityType} (field query : String) (plain : Bool) :
      Mentions schema type (.search field query plain) type field
  | related {type target owner : EntityType} {name field : String} {relationship : Relationship}
      {predicate : Predicate} (found : Mapping.findRelationship schema type name = .ok (relationship, target))
      (inner : Mentions schema target predicate owner field) :
      Mentions schema type (.related name predicate) owner field

def Filter.Predicate.Spares (schema : Schema) (secret : Secrets) (type : EntityType)
    (predicate : Predicate) : Prop :=
  ∀ owner field, predicate.Mentions schema type owner field → ¬secret owner field

/-- Under a name a veil hides what is secret of a type's table, and nothing under names that are generated from some
number on. -/
structure Store.Veil.Stands (veil : Veil) (schema : Schema) (secret : Secrets) (name : String) (type : EntityType)
    (next : Nat) : Prop where
  exact : ∀ column cell other, veil (.ofTable name column) cell other →
    schema.cover secret (tableName type) column cell other
  subs : ∀ number, next ≤ number → ∀ column cell other, ¬veil (.ofTable s!"sub_{number}" column) cell other
  links : ∀ number, next ≤ number → ∀ column cell other, ¬veil (.ofTable s!"link_{number}" column) cell other
  fresh : Fresh name next

section

variable {schema : Schema} {secret : Secrets} {type target : EntityType} {name : String} {next : Nat} {veil : Veil}
  {cover : Cover}

theorem Store.Veil.Stands.later (stands : veil.Stands schema secret name type next) {after : Nat}
    (later : next ≤ after) : veil.Stands schema secret name type after :=
  ⟨stands.exact, fun number above => stands.subs number (later.trans above),
    fun number above => stands.links number (later.trans above), stands.fresh.later later⟩

theorem anyClause_shuns {clauses : List Clause} (each : ∀ clause ∈ clauses, clause.Shuns cover veil) :
    (anyClause clauses).Shuns cover veil := by
  have merged : ∀ clause ∈ mergeEqualities clauses, clause.Shuns cover veil := by
    intro clause member
    rcases mem_mergeEqualities member with ⟨inside, _⟩ | ⟨column, named, rfl⟩
    · exact each clause inside
    · obtain ⟨⟨column, value⟩, equal, rfl⟩ := List.mem_map.mp named
      obtain ⟨clause, inside, shape⟩ := mem_equalities.mp equal
      have shuns := each clause inside
      rw [equality_shape shape] at shuns
      cases shuns with
      | condition shown =>
          refine .condition fun other tested => shown other ?_
          simpa [Condition.columns] using tested
  unfold anyClause Clause.anyOf
  split
  · next clause same => exact merged clause (by rw [same]; exact List.mem_singleton_self _)
  · exact .any merged

theorem Store.Veil.Stands.shown (stands : veil.Stands schema secret name type next) {column : String}
    (plain : ∀ cell other, ¬schema.cover secret (tableName type) column cell other) :
    veil.Open (.ofTable name column) :=
  ⟨rfl, fun cell other hidden => plain cell other (stands.exact column cell other hidden)⟩

theorem tie_joins_pairs (relates : schema.Relates type relationship target) {table sub : String} {join : Join}
    (member : join ∈ (tie type target relationship.storage table sub next).joins) : Pairs schema join.table := by
  cases storage : relationship.storage with
  | ownerKey column =>
      rw [storage] at member
      cases member
  | targetKey column =>
      rw [storage] at member
      cases member
  | joinTable pairs ownerColumn targetColumn =>
      rw [storage] at member
      obtain rfl := List.mem_singleton.mp member
      exact ⟨type, relates.known, relationship, relates.own, ownerColumn, targetColumn, storage⟩

theorem tie_next (storage : Storage) (table sub : String) : next ≤ (tie type target storage table sub next).next := by
  cases storage with
  | ownerKey column => exact le_rfl
  | targetKey column => exact le_rfl
  | joinTable pairs ownerColumn targetColumn => exact Nat.le_succ next

variable (apart : schema.Apart) (known : type ∈ schema.types)
include apart known

theorem Store.Veil.Stands.member (stands : veil.Stands schema secret name type next) {field : String}
    {column : Column} (read : memberColumn type name field = .ok column) (plain : ¬secret type field) :
    veil.Open column := by
  unfold memberColumn at read
  split at read
  · cases read
  · rename_i present
    cases read
    obtain ⟨found, named⟩ := Option.ne_none_iff_exists'.mp fun none =>
      present (Option.isNone_iff_eq_none.mpr none)
    obtain ⟨own, rfl⟩ := field_known named
    exact stands.shown fun _ _ covered => plain (apart.cover_field known own covered).2.1

/-- Within a subquery for a relationship the rows of the target stand under its name, and the subquery tests
keys and identities to tie them to the owner. -/
theorem Store.Veil.Stands.related (stands : veil.Stands schema secret name type next)
    (relates : schema.Relates type relationship target) (known' : target ∈ schema.types) :
    let tied := tie type target relationship.storage name s!"sub_{next}" (next + 1)
    let within := (schema.cover secret).among (sourcesOf (tableName target) s!"sub_{next}" tied.joins)
    (within.or veil).Stands schema secret s!"sub_{next}" target tied.next ∧ next < tied.next ∧
      (∀ join ∈ tied.joins, join.Shuns (schema.cover secret) within) ∧
      ∀ column ∈ tied.condition.columns, (within.or veil).Open column := by
  intro tied within
  -- Pairs hold nothing secret, so that within the subquery only the target's own values are veiled.
  have inside {table column : String} {cell other : Cell} (hidden : within (.ofTable table column) cell other) :
      table = s!"sub_{next}" ∧ schema.cover secret (tableName target) column cell other := by
    obtain ⟨source, member, same, covered⟩ := hidden
    obtain rfl : table = source.1 := Option.some.inj same
    rcases List.mem_cons.mp member with rfl | joined
    · exact ⟨rfl, covered⟩
    · obtain ⟨join, among, rfl⟩ := List.mem_map.mp joined
      exact absurd covered (apart.cover_pairs (tie_joins_pairs relates among))
  have grows : next < tied.next := tie_next relationship.storage name s!"sub_{next}"
  have here : (within.or veil).Stands schema secret s!"sub_{next}" target tied.next := by
    refine ⟨fun column cell other hidden => ?_, fun number above column cell other hidden => ?_,
      fun number above column cell other hidden => ?_, (fresh_sub next).later grows⟩
    · exact hidden.elim (fun hidden => (inside hidden).2)
        fun hidden => absurd hidden (stands.subs next le_rfl column cell other)
    · refine hidden.elim (fun hidden => ?_) (stands.subs number (grows.le.trans above) column cell other)
      have equal := numeral_injective ((String.append_right_inj _).mp (inside hidden).1)
      omega
    · exact hidden.elim (fun hidden => sub_ne_link next number (inside hidden).1.symm)
        (stands.links number (grows.le.trans above) column cell other)
  -- The tie compares a column of the target or of the pairs with one of the owner.
  have target_shown (column : String)
      (plain : ∀ cell other, ¬schema.cover secret (tableName target) column cell other) :
      (within.or veil).Open (.ofTable s!"sub_{next}" column) := here.shown plain
  have owner_shown (column : String)
      (plain : ∀ cell other, ¬schema.cover secret (tableName type) column cell other) :
      (within.or veil).Open (.ofTable name column) :=
    ⟨rfl, fun cell other hidden => hidden.elim (fun hidden => (stands.fresh next le_rfl).1 (inside hidden).1)
      ((stands.shown plain).uncovered cell other)⟩
  refine ⟨here, grows, ?_⟩
  cases storage : relationship.storage with
  | ownerKey column =>
      have refers := Refers.ownerKey relates.known relates.own storage relates.leads
      simp only [tied, tie, storage, Condition.columns, List.forall_mem_cons]
      exact ⟨List.forall_mem_nil _, target_shown _ fun _ _ => apart.cover_id known',
        owner_shown _ fun _ _ => apart.cover_key refers, List.forall_mem_nil _⟩
  | targetKey column =>
      have refers := Refers.targetKey relates.known relates.own storage relates.leads
      simp only [tied, tie, storage, Condition.columns, List.forall_mem_cons]
      exact ⟨List.forall_mem_nil _, target_shown _ fun _ _ => apart.cover_key refers,
        owner_shown _ fun _ _ => apart.cover_id known, List.forall_mem_nil _⟩
  | joinTable pairs ownerColumn targetColumn =>
      have link_shown (column : String) : within.Open (.ofTable s!"link_{next + 1}" column) :=
        ⟨rfl, fun cell other hidden => sub_ne_link next (next + 1) (inside hidden).1.symm⟩
      have identity_shown : within.Open (idColumn target s!"sub_{next}") :=
        ⟨rfl, fun cell other hidden => apart.cover_id known' (inside hidden).2⟩
      have covers : within.Covers (schema.cover secret) s!"link_{next + 1}" pairs := by
        intro column cell other covered
        exact absurd covered (apart.cover_pairs
          ⟨type, relates.known, relationship, relates.own, ownerColumn, targetColumn, storage⟩)
      simp only [tied, tie, storage, Condition.columns, List.forall_mem_cons]
      exact ⟨⟨⟨link_shown targetColumn, identity_shown, covers⟩, List.forall_mem_nil _⟩,
        ⟨rfl, fun cell other hidden => hidden.elim ((link_shown ownerColumn).uncovered cell other)
          (stands.links (next + 1) (Nat.le_succ next) ownerColumn cell other)⟩,
        owner_shown _ fun _ _ => apart.cover_id known, List.forall_mem_nil _⟩

end

mutual

theorem clauseOf_shuns {schema : Schema} {secret : Secrets} (apart : schema.Apart) {type : EntityType}
    (known : type ∈ schema.types) {name : String} {next : Nat} {veil : Veil}
    (stands : veil.Stands schema secret name type next) :
    ∀ (predicate : Predicate), predicate.Spares schema secret type → ∀ {clause : Clause} {after : Nat},
      clauseOf schema type name next predicate = .ok (clause, after) →
        next ≤ after ∧ clause.Shuns (schema.cover secret) veil
  | .all predicates, spares, _, _, run => by
      rw [clauseOf] at run
      obtain ⟨⟨clauses, after⟩, each, same⟩ := map_ok run
      cases same
      have ⟨later, shuns⟩ := clausesOf_shuns apart known stands predicates
        (fun predicate member owner field mentions => spares owner field (.all member mentions)) each
      exact ⟨later, .all shuns⟩
  | .any predicates, spares, _, _, run => by
      rw [clauseOf] at run
      obtain ⟨⟨clauses, after⟩, each, same⟩ := map_ok run
      cases same
      have ⟨later, shuns⟩ := clausesOf_shuns apart known stands predicates
        (fun predicate member owner field mentions => spares owner field (.any member mentions)) each
      exact ⟨later, anyClause_shuns shuns⟩
  | .not predicate, spares, _, _, run => by
      rw [clauseOf] at run
      obtain ⟨⟨clause, after⟩, inner, same⟩ := map_ok run
      cases same
      have ⟨later, shuns⟩ := clauseOf_shuns apart known stands predicate
        (fun owner field mentions => spares owner field (.not mentions)) inner
      exact ⟨later, .not shuns⟩
  | .compare field comparison (.value value), spares, _, _, run => by
      rw [clauseOf] at run
      obtain ⟨column, read, same⟩ := bind_ok run
      cases same
      have shown := stands.member apart known read (spares _ _ (.compare field comparison _))
      exact ⟨le_rfl, .condition (List.forall_mem_singleton.mpr shown)⟩
  | .compare field comparison (.field other), spares, _, _, run => by
      rw [clauseOf] at run
      obtain ⟨column, read, run⟩ := bind_ok run
      obtain ⟨operand, mapped, same⟩ := bind_ok run
      cases same
      obtain ⟨column', read', rfl⟩ := map_ok mapped
      have shown := stands.member apart known read (spares _ _ (.compare field comparison _))
      have shown' := stands.member apart known read' (spares _ _ (.operand field comparison other))
      exact ⟨le_rfl, .condition (List.forall_mem_cons.mpr ⟨shown, List.forall_mem_singleton.mpr shown'⟩)⟩
  | .oneOf field values, spares, _, _, run => by
      rw [clauseOf] at run
      obtain ⟨column, read, same⟩ := bind_ok run
      cases same
      have shown := stands.member apart known read (spares _ _ (.oneOf field values))
      exact ⟨le_rfl, .condition (List.forall_mem_singleton.mpr shown)⟩
  | .like field pattern ignoreCase, spares, _, _, run => by
      rw [clauseOf] at run
      obtain ⟨column, read, same⟩ := bind_ok run
      cases same
      have shown := stands.member apart known read (spares _ _ (.like field pattern ignoreCase))
      exact ⟨le_rfl, .condition (List.forall_mem_singleton.mpr shown)⟩
  | .isNull field, spares, _, _, run => by
      rw [clauseOf] at run
      obtain ⟨column, read, same⟩ := bind_ok run
      cases same
      have shown := stands.member apart known read (spares _ _ (.isNull field))
      exact ⟨le_rfl, .condition (List.forall_mem_singleton.mpr shown)⟩
  | .search field query plain, spares, _, _, run => by
      rw [clauseOf] at run
      obtain ⟨column, read, same⟩ := bind_ok run
      cases same
      have shown := stands.member apart known read (spares _ _ (.search field query plain))
      exact ⟨le_rfl, .condition (List.forall_mem_singleton.mpr shown)⟩
  | .related relation predicate, spares, _, _, run => by
      rw [clauseOf] at run
      obtain ⟨⟨relationship, target⟩, found, run⟩ := bind_ok run
      obtain ⟨⟨filter, after⟩, inner, same⟩ := bind_ok run
      cases same
      have relates := (findRelationship_relates known found).1
      have known' := List.mem_of_find?_eq_some relates.leads
      obtain ⟨here, grows, joined, shown⟩ := stands.related apart known relates known'
      have ⟨later, shuns⟩ := clauseOf_shuns apart known' here predicate
        (fun owner field mentions => spares owner field (.related found mentions)) inner
      refine ⟨grows.le.trans later, .existing (fun column cell other covered => ?_) joined ?_⟩
      · exact ⟨_, List.mem_cons_self, rfl, covered⟩
      · exact .all (List.forall_mem_cons.mpr ⟨.condition shown, List.forall_mem_singleton.mpr shuns⟩)

theorem clausesOf_shuns {schema : Schema} {secret : Secrets} (apart : schema.Apart) {type : EntityType}
    (known : type ∈ schema.types) {name : String} {next : Nat} {veil : Veil}
    (stands : veil.Stands schema secret name type next) :
    ∀ (predicates : List Predicate), (∀ predicate ∈ predicates, predicate.Spares schema secret type) →
      ∀ {clauses : List Clause} {after : Nat},
        clausesOf schema type name next predicates = .ok (clauses, after) →
          next ≤ after ∧ ∀ clause ∈ clauses, clause.Shuns (schema.cover secret) veil
  | [], _, _, _, run => by
      cases run
      exact ⟨le_rfl, nofun⟩
  | predicate :: rest, spares, _, _, run => by
      rw [clausesOf] at run
      obtain ⟨⟨clause, middle⟩, one, run⟩ := bind_ok run
      obtain ⟨⟨clauses, after⟩, others, same⟩ := bind_ok run
      cases same
      obtain ⟨first, remaining⟩ := List.forall_mem_cons.mp spares
      have ⟨later, shuns⟩ := clauseOf_shuns apart known stands predicate first one
      have ⟨later', shuns'⟩ := clausesOf_shuns apart known (stands.later later) rest remaining others
      exact ⟨later.trans later', List.forall_mem_cons.mpr ⟨shuns, shuns'⟩⟩

end

end ResourceServer
