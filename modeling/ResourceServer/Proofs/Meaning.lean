import ResourceServer.Mapping.Condition
import ResourceServer.Proofs.Columns

/-! Conjunctions and disjunctions of three truth values, and how clauses come to them. -/

namespace ResourceServer.Store

namespace Truth

def all (truths : List Truth) : Truth :=
  truths.foldr and yes

def any (truths : List Truth) : Truth :=
  truths.foldr or no

@[simp] theorem no_and (truth : Truth) : no.and truth = no := by
  cases truth <;> rfl

@[simp] theorem yes_or (truth : Truth) : yes.or truth = yes := by
  cases truth <;> rfl

theorem or_eq_yes (left right : Truth) : left.or right = yes ↔ left = yes ∨ right = yes := by
  cases left <;> cases right <;> decide

theorem or_eq_no (left right : Truth) : left.or right = no ↔ left = no ∧ right = no := by
  cases left <;> cases right <;> decide

theorem any_cons (truth : Truth) (rest : List Truth) :
    any (truth :: rest) = truth.or (any rest) := rfl

theorem any_eq_yes (truths : List Truth) : any truths = yes ↔ yes ∈ truths := by
  induction truths with
  | nil => simp [any]
  | cons truth rest ih => rw [any_cons, or_eq_yes, ih, List.mem_cons, eq_comm]

theorem any_eq_no (truths : List Truth) : any truths = no ↔ ∀ truth ∈ truths, truth = no := by
  induction truths with
  | nil => simp [any]
  | cons truth rest ih => rw [any_cons, or_eq_no, ih, List.forall_mem_cons]

theorem any_unknown {truths : List Truth} (some : truths ≠ [])
    (each : ∀ truth ∈ truths, truth = unknown) : any truths = unknown := by
  obtain ⟨first, member⟩ := List.exists_mem_of_ne_nil truths some
  cases result : any truths with
  | unknown => rfl
  | yes => cases each yes ((any_eq_yes truths).mp result)
  | no => cases (each first member).symm.trans ((any_eq_no truths).mp result first member)

theorem any_ofBool {α : Type} (test : α → Bool) (items : List α) :
    any (items.map fun item => ofBool (test item)) = ofBool (items.any test) := by
  induction items with
  | nil => rfl
  | cons item rest ih =>
      rw [List.map_cons, any_cons, ih, List.any_cons]
      cases test item <;> cases rest.any test <;> rfl

theorem any_congr {left right : List Truth} (same : ∀ truth, truth ∈ left ↔ truth ∈ right) :
    any left = any right := by
  have holds := (any_eq_yes left).trans ((same yes).trans (any_eq_yes right).symm)
  have fails : any left = no ↔ any right = no := by
    simp only [any_eq_no, same]
  cases one : any left <;> cases other : any right <;> simp_all

theorem any_append (left right : List Truth) : any (left ++ right) = (any left).or (any right) := by
  induction left with
  | nil =>
      have empty : any [] = no := rfl
      rw [List.nil_append, empty]
      cases any right <;> rfl
  | cons truth rest ih =>
      rw [List.cons_append, any_cons, ih, any_cons]
      cases truth <;> cases any rest <;> cases any right <;> rfl

theorem any_flatten (parts : List (List Truth)) : any (parts.map any) = any parts.flatten := by
  induction parts with
  | nil => rfl
  | cons part rest ih => rw [List.map_cons, any_cons, ih, List.flatten_cons, any_append]

theorem ofBool_eq_yes (value : Bool) : ofBool value = yes ↔ value = true := by
  cases value <;> decide

end Truth

namespace Clause

variable {database : Database} {scope : Scope}

/-- Evaluating clauses up to the first that fails gives the truth of their conjunction. -/
theorem evalAll_eq (clauses : List Clause) (truth : Clause → Truth)
    (each : ∀ clause ∈ clauses, eval database clause scope = .ok (truth clause)) :
    evalAll database clauses scope = .ok (Truth.all (clauses.map truth)) := by
  induction clauses with
  | nil => rfl
  | cons clause rest ih =>
      have first := each clause List.mem_cons_self
      have others := ih fun other member => each other (List.mem_cons_of_mem clause member)
      unfold evalAll
      rw [first, others]
      cases one : truth clause with
      | no => simp [Truth.all, one]; rfl
      | unknown => simp [Truth.all, one]; rfl
      | yes => simp [Truth.all, one]; rfl

theorem evalAny_eq (clauses : List Clause) (truth : Clause → Truth)
    (each : ∀ clause ∈ clauses, eval database clause scope = .ok (truth clause)) :
    evalAny database clauses scope = .ok (Truth.any (clauses.map truth)) := by
  induction clauses with
  | nil => rfl
  | cons clause rest ih =>
      have first := each clause List.mem_cons_self
      have others := ih fun other member => each other (List.mem_cons_of_mem clause member)
      unfold evalAny
      rw [first, others]
      cases one : truth clause with
      | no => simp [Truth.any, one]; rfl
      | unknown => simp [Truth.any, one]; rfl
      | yes => simp [Truth.any, one]; rfl

theorem anyOf_eval {clauses : List Clause} (truth : Clause → Truth)
    (each : ∀ clause ∈ clauses, eval database clause scope = .ok (truth clause)) :
    eval database (anyOf clauses) scope = .ok (Truth.any (clauses.map truth)) := by
  cases clauses with
  | nil => exact evalAny_eq _ truth each
  | cons first rest =>
      cases rest with
      | nil =>
          have alone : Truth.any [truth first] = truth first := by
            cases truth first <;> rfl
          rw [List.map_singleton, alone]
          exact each first List.mem_cons_self
      | cons second others => exact evalAny_eq _ truth each

end Clause

end ResourceServer.Store

/-! What a predicate says of a resource, by the stored values of its fields and its links. -/

namespace ResourceServer

open ResourceServer.Store ResourceServer.Mapping
open ResourceServer.Filter (Predicate Comparison)

def Filter.Comparison.accepts : Comparison → Ordering → Bool
  | .eq, ordering => ordering = .eq
  | .ne, ordering => ordering ≠ .eq
  | .gt, ordering => ordering = .gt
  | .lt, ordering => ordering = .lt
  | .ge, ordering => ordering ≠ .lt
  | .le, ordering => ordering ≠ .gt

namespace Store.Cell

def agrees (left right : Cell) : Bool :=
  left.compare? right = some .eq

/-- The truth of a comparison, unknown for values that do not compare. -/
def meets (left : Cell) (comparison : Comparison) (right : Cell) : Truth :=
  match left.compare? right with
  | some ordering => .ofBool (comparison.accepts ordering)
  | none => .unknown

def passes (test : String → Bool) : Cell → Truth
  | .text value => .ofBool (test value)
  | _ => .unknown

end Store.Cell

/-- A record of a relationship's target is linked to a record of its owner. -/
def linked (database : Database) (type target : EntityType) (storage : Storage)
    (owner other : Record) : Bool :=
  let ownerId := owner (columnName type.identity.name)
  let targetId := other (columnName target.identity.name)
  match storage with
  | .ownerKey column => targetId.agrees (owner column)
  | .targetKey column => (other column).agrees ownerId
  | .joinTable pairs ownerColumn targetColumn =>
    (database.records pairs).any fun pair =>
      (pair targetColumn).agrees targetId && (pair ownerColumn).agrees ownerId

mutual

/-- The truth of a predicate on a record of a type. A related predicate is never unknown: it holds if it
holds of some linked record. -/
def truth (schema : Schema) (database : Database) (type : EntityType) (record : Record) :
    Predicate → Truth
  | .all predicates => .all (truths schema database type record predicates)
  | .any predicates => .any (truths schema database type record predicates)
  | .not predicate => (truth schema database type record predicate).not
  | .compare field comparison (.value value) =>
    (record (columnName field)).meets comparison (cellOf value)
  | .compare field comparison (.field other) =>
    (record (columnName field)).meets comparison (record (columnName other))
  | .oneOf field values =>
    .any (values.map fun value => (record (columnName field)).meets .eq (cellOf value))
  | .like field pattern ignoreCase => (record (columnName field)).passes (isLike ignoreCase pattern)
  | .isNull field => .ofBool (record (columnName field)).isNull
  | .search field query plain => (record (columnName field)).passes (matchesQuery plain query)
  | .related name predicate =>
    match findRelationship schema type name with
    | .ok (relationship, target) =>
      .ofBool ((database.records (tableName target)).any fun other =>
        linked database type target relationship.storage record other &&
          truth schema database target other predicate = .yes)
    | .error _ => .no

def truths (schema : Schema) (database : Database) (type : EntityType) (record : Record) :
    List Predicate → List Truth
  | [] => []
  | predicate :: rest =>
    truth schema database type record predicate :: truths schema database type record rest

end

theorem truths_eq (schema : Schema) (database : Database) (type : EntityType) (record : Record)
    (predicates : List Predicate) :
    truths schema database type record predicates =
      predicates.map (truth schema database type record) := by
  induction predicates with
  | nil => rfl
  | cons predicate rest ih =>
      unfold truths
      rw [ih]
      rfl

def FieldType.Holds (type : FieldType) (value : Value) : Prop :=
  (columnType type).admits (cellOf value) ∧ cellOf value ≠ .null

/-- Predicates on members that a type has, with literals of the types of their fields, and with patterns and
searches on text only. -/
inductive Filter.Predicate.Resolved (schema : Schema) : EntityType → Predicate → Prop
  | all {type : EntityType} {predicates : List Predicate}
      (each : ∀ predicate ∈ predicates, Resolved schema type predicate) :
      Resolved schema type (.all predicates)
  | any {type : EntityType} {predicates : List Predicate}
      (each : ∀ predicate ∈ predicates, Resolved schema type predicate) :
      Resolved schema type (.any predicates)
  | not {type : EntityType} {predicate : Predicate} (inner : Resolved schema type predicate) :
      Resolved schema type (.not predicate)
  | compareValue {type : EntityType} {name : String} {field : Field} (comparison : Comparison)
      {value : Value} (known : type.field? name = some field) (held : field.type.Holds value) :
      Resolved schema type (.compare name comparison (.value value))
  | compareField {type : EntityType} {name other : String} {field field' : Field}
      (comparison : Comparison) (known : type.field? name = some field)
      (known' : type.field? other = some field') :
      Resolved schema type (.compare name comparison (.field other))
  | oneOf {type : EntityType} {name : String} {field : Field} {values : List Value}
      (known : type.field? name = some field) (held : ∀ value ∈ values, field.type.Holds value) :
      Resolved schema type (.oneOf name values)
  | like {type : EntityType} {name : String} {field : Field} (pattern : String) (ignoreCase : Bool)
      (known : type.field? name = some field) (textual : columnType field.type = .text) :
      Resolved schema type (.like name pattern ignoreCase)
  | isNull {type : EntityType} {name : String} {field : Field}
      (known : type.field? name = some field) : Resolved schema type (.isNull name)
  | search {type : EntityType} {name : String} {field : Field} (query : String) (plain : Bool)
      (known : type.field? name = some field) (textual : columnType field.type = .text) :
      Resolved schema type (.search name query plain)
  | related {type target : EntityType} {name : String} {relationship : Relationship}
      {predicate : Predicate} (found : findRelationship schema type name = .ok (relationship, target))
      (inner : Resolved schema target predicate) : Resolved schema type (.related name predicate)

/-- A database holds the tables of a schema, with values that their columns may hold. -/
structure Stores (schema : Schema) (database : Database) : Prop where
  entities : ∀ type ∈ schema.types, ∃ table, database.table? (tableName type) = some table ∧
    tableColumns schema type = .ok table.columns ∧ table.WellTyped
  pairs : ∀ type ∈ schema.types, ∀ relationship ∈ type.relationships,
    ∀ pairs ownerColumn targetColumn,
      relationship.storage = .joinTable pairs ownerColumn targetColumn →
        ∃ table, database.table? pairs = some table ∧ table.Has ownerColumn ∧
          table.Has targetColumn ∧ table.WellTyped

/-- The fields of stored resources hold values of their types. -/
def FieldsTyped (schema : Schema) (database : Database) : Prop :=
  ∀ type ∈ schema.types, ∀ record ∈ database.records (tableName type), ∀ field ∈ type.fields,
    (columnType field.type).takes (record (columnName field.name))

/-- The fields of each type have columns of their own. -/
def Schema.ColumnsDistinct (schema : Schema) : Prop :=
  ∀ type ∈ schema.types, (type.fields.map fun field => columnName field.name).Nodup

end ResourceServer
