import ResourceServer.Proofs.Paths
import ResourceServer.Proofs.Agreement
import ResourceServer.Proofs.Changes

/-! The resources that stored resources lead to along to-one relationships. -/

namespace ResourceServer

open ResourceServer.Store ResourceServer.Mapping

def target? (database : Database) (type target : EntityType) (storage : Storage) (record : Record) :
    Option Record :=
  (database.records (tableName target)).find? (linked database type target storage record)

/-- The record that a record leads to along a path, unless a link is absent. -/
def reached? (schema : Schema) (database : Database) (type : EntityType) (record : Record) :
    List String → Option Record
  | [] => some record
  | name :: rest =>
    match findRelationship schema type name with
    | .ok (relationship, target) =>
      (target? database type target relationship.storage record).bind fun other =>
        reached? schema database target other rest
    | .error _ => none

/-- The record that a record leads to along a path, or nulls if a link is absent. -/
def recordAt (schema : Schema) (database : Database) (type : EntityType) (record : Record)
    (path : List String) : Record :=
  (reached? schema database type record path).getD Record.blank

def LinksOne (database : Database) (type target : EntityType) (storage : Storage) (record : Record) :
    Prop :=
  let id := record (idName type)
  let targets := database.records (tableName target)
  match storage with
  | .ownerKey column =>
    (targets.filter fun other => (other (idName target)).agrees (record column)).length ≤ 1
  | .targetKey column => (targets.filter fun other => (other column).agrees id).length ≤ 1
  | .joinTable pairs ownerColumn targetColumn =>
    ((database.records pairs).filter fun pair => (pair ownerColumn).agrees id).length ≤ 1 ∧
      ∀ pair ∈ database.records pairs, (pair ownerColumn).agrees id = true →
        (targets.filter fun other => (other (idName target)).agrees (pair targetColumn)).length ≤ 1

instance (database : Database) (type target : EntityType) :
    (storage : Storage) → (record : Record) → Decidable (LinksOne database type target storage record)
  | .ownerKey _, _ | .targetKey _, _ => inferInstanceAs (Decidable (_ ≤ _))
  | .joinTable .., _ => inferInstanceAs (Decidable (_ ∧ _))

/-- A path of to-one relationships, each of which links every stored record to one target at most. -/
inductive LeadsOne (schema : Schema) (database : Database) : EntityType → List String → Prop
  | done (type : EntityType) : LeadsOne schema database type []
  | step {type target : EntityType} {relationship : Relationship} {rest : List String}
      (relates : schema.Relates type relationship target) (toOne : relationship.isToMany = false)
      (one : ∀ record ∈ database.records (tableName type),
        LinksOne database type target relationship.storage record)
      (later : LeadsOne schema database target rest) :
      LeadsOne schema database type (relationship.name :: rest)

section

variable {schema : Schema} {database : Database} {type target : EntityType}
  {relationship : Relationship} {record : Record}

theorem null_matches_none (column : String) (records : List Record) :
    (records.filter fun record => (record column).agrees .null).length ≤ 1 := by
  rw [List.filter_eq_nil_iff.mpr fun record _ => by simp [Cell.agrees_null]]
  exact Nat.zero_le 1

theorem linksOne_blank (storage : Storage) : LinksOne database type target storage Record.blank := by
  cases storage with
  | ownerKey column => exact null_matches_none ..
  | targetKey column => exact null_matches_none ..
  | joinTable pairs ownerColumn targetColumn =>
      refine ⟨null_matches_none .., fun pair _ agrees => ?_⟩
      change (pair ownerColumn).agrees .null = true at agrees
      rw [Cell.agrees_null] at agrees
      cases agrees

theorem target?_blank (storage : Storage) :
    target? database type target storage Record.blank = none := by
  refine List.find?_eq_none.mpr fun other _ link => ?_
  cases storage with
  | ownerKey column =>
      change (other (idName target)).agrees .null = true at link
      rw [Cell.agrees_null] at link
      cases link
  | targetKey column =>
      change (other column).agrees .null = true at link
      rw [Cell.agrees_null] at link
      cases link
  | joinTable pairs ownerColumn targetColumn =>
      obtain ⟨pair, _, both⟩ := List.any_eq_true.mp link
      have owned : (pair ownerColumn).agrees .null = true := (Bool.and_eq_true_iff.mp both).2
      rw [Cell.agrees_null] at owned
      cases owned

theorem reached?_cons {name : String} {rest : List String}
    (found : findRelationship schema type name = .ok (relationship, target)) :
    reached? schema database type record (name :: rest) =
      (target? database type target relationship.storage record).bind fun other =>
        reached? schema database target other rest := by
  rw [reached?, found]

theorem reached?_append {path : List String} (along : typeAlong schema type path = some target)
    (more : List String) : reached? schema database type record (path ++ more) =
      (reached? schema database type record path).bind fun other =>
        reached? schema database target other more := by
  induction path generalizing type record with
  | nil =>
      cases along
      rfl
  | cons name rest ih =>
      cases found : findRelationship schema type name with
      | error error =>
          rw [typeAlong_lost found] at along
          cases along
      | ok both =>
          obtain ⟨relationship, next⟩ := both
          rw [typeAlong_cons found] at along
          rw [List.cons_append, reached?_cons found, reached?_cons found, Option.bind_assoc]
          exact congrArg _ (funext fun other => ih along)

theorem recordAt_next {base : EntityType} {path : List String}
    (along : typeAlong schema base path = some type)
    (found : findRelationship schema type relationship.name = .ok (relationship, target)) :
    recordAt schema database base record (path ++ [relationship.name]) =
      (target? database type target relationship.storage
        (recordAt schema database base record path)).getD Record.blank := by
  have step (other : Record) : reached? schema database type other [relationship.name] =
      target? database type target relationship.storage other := by
    rw [reached?_cons found]
    exact Option.bind_fun_some _
  unfold recordAt
  rw [reached?_append along]
  cases reached? schema database base record path with
  | none =>
      rw [Option.getD_none, target?_blank]
      rfl
  | some other =>
      rw [Option.bind_some, step]
      rfl

/-- What is reached from a stored record is a stored record. -/
theorem recordAt_stored {base : EntityType} (stored : record ∈ database.records (tableName base))
    {path : List String} (along : typeAlong schema base path = some type) :
    recordAt schema database base record path ∈ database.records (tableName type) ∨
      recordAt schema database base record path = Record.blank := by
  unfold recordAt
  induction path generalizing base record with
  | nil =>
      cases along
      exact .inl stored
  | cons name rest ih =>
      cases found : findRelationship schema base name with
      | error error =>
          rw [typeAlong_lost found] at along
          cases along
      | ok both =>
          obtain ⟨relationship, next⟩ := both
          rw [typeAlong_cons found] at along
          rw [reached?_cons found]
          cases here : target? database base next relationship.storage record with
          | none => exact .inr rfl
          | some other => exact ih (List.mem_of_find?_eq_some here) along

end

end ResourceServer
