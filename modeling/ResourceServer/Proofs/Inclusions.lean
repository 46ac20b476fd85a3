import ResourceServer.Proofs.StorageIndependence
import ResourceServer.Proofs.Traversal

/-! What is included along paths of relationships: the resources that they reach, and in which order. -/

namespace ResourceServer

open ResourceServer.Store ResourceServer.Mapping

/-- A path has a segment that is no relationship of the type that those before it lead to. -/
def Astray (schema : Schema) (type : EntityType) (path : List String) : Prop :=
  ∃ before name after, path = before ++ name :: after ∧
    ∃ reached, typeAlong schema type before = some reached ∧ reached.relationship? name = none

/-- A resource is reached from one of some roots along the beginning of a path, by one relationship at least and
by so many at most. -/
def ReachedWithin (schema : Schema) (database : Database) (type : EntityType) (roots : List Instance)
    (paths : List String) (length : Nat) (far : Identifier) : Prop :=
  ∃ root ∈ roots, ∃ path, path.length ≤ length ∧ (∃ text ∈ paths, path <+: Text.split '.' text) ∧
    Reaches schema database type root.id path far

section

variable {schema : Schema} {database : Database} {type : EntityType} {roots : List Instance}
  {paths : List String}

variable (paths) in
theorem check_paths (formed : schema.Formed) (known : type ∈ schema.types) :
    (∃ error, (PathTree.ofPaths paths).check schema type = .error error) ↔
      ∃ text ∈ paths, Astray schema type (Text.split '.' text) := by
  have leads : (PathTree.ofPaths paths).check schema type = .ok () ↔
      ∀ text ∈ paths, ¬Astray schema type (Text.split '.' text) := by
    rw [PathTree.check_ok]
    constructor
    · intro all text given astray
      have some := all _ ((PathTree.has_ofPaths paths).mpr (.inr ⟨text, given, List.prefix_rfl⟩))
      rw [(typeAlong_none formed known).mpr astray] at some
      cases some
    · intro all path has
      rw [Option.isSome_iff_ne_none]
      intro lost
      rcases (PathTree.has_ofPaths paths).mp has with rfl | ⟨text, given, rest, whole⟩
      · cases lost
      · refine all text given ((typeAlong_none formed known).mp ?_)
        rw [← whole, typeAlong_append, lost]
        rfl
  cases checked : (PathTree.ofPaths paths).check schema type with
  | error error =>
      refine iff_of_true ⟨error, rfl⟩ ?_
      by_contra none
      rw [leads.mpr fun text given astray => none ⟨text, given, astray⟩] at checked
      cases checked
  | ok value =>
      refine iff_of_false nofun ?_
      rintro ⟨text, given, astray⟩
      exact leads.mp checked text given astray

theorem reaches_nonempty {path : List String} {owner : String} {far : Identifier}
    (reaches : Reaches schema database type owner path far) : 0 < path.length := by
  cases reaches <;> exact Nat.succ_pos _

theorem within_roots {length : Nat} {far : Identifier} :
    Within schema database [⟨type, roots, PathTree.ofPaths paths⟩] length far ↔
      ReachedWithin schema database type roots paths length far := by
  unfold Within Inclusion.ReachedAt ReachedWithin
  simp only [List.mem_singleton, exists_eq_left]
  constructor
  · rintro ⟨_, _, few, root, given, path, rfl, has, reaches⟩
    refine ⟨root, given, path, few, ?_, reaches⟩
    refine ((PathTree.has_ofPaths paths).mp has).resolve_left ?_
    rintro rfl
    cases reaches
  · rintro ⟨root, given, path, few, begins, reaches⟩
    exact ⟨path.length, reaches_nonempty reaches, few, root, given, path, rfl,
      (PathTree.has_ofPaths paths).mpr (.inr begins), reaches⟩

theorem reached_within_depth {length : Nat} {far : Identifier}
    (reached : ReachedWithin schema database type roots paths length far) :
    ReachedWithin schema database type roots paths (PathTree.ofPaths paths).depth far := by
  obtain ⟨root, given, path, _, begins, reaches⟩ := reached
  have has := (PathTree.has_ofPaths paths).mpr (.inr begins)
  exact ⟨root, given, path, PathTree.has_length _ has, begins, reaches⟩

end

/-! What a sequel leads to. -/

namespace Shelf

theorem loadable : Loadable schema connection.database where
  valid := separate.valid
  reserved := separate.reserved
  shaped := stocked.housed.shaped separate
  typed := fun type known record member field own =>
    FieldType.stores_takes (stocked.typed type known record member field own)

theorem rendered : RenderedAlike schema connection.database := by
  have each : ∀ type ∈ schema.types, ∀ record ∈ tables.records (tableName type),
      ∀ resource ∈ (readRecord type record).toOption, ∀ relationship ∈ type.relationships,
        ∀ target ∈ schema.types, ∀ other ∈ tables.records (tableName target),
          ∀ cell ∈ ownerCells tables type target relationship.storage other, cell ≠ .null →
            ((valueOf type.identity.type cell).map Value.text = .ok resource.id ↔
              ∃ asked ∈ idCell? type resource.id, cell.agrees asked = true) := by
    decide +kernel
  rintro type known id ⟨record, member, resource, read, rfl⟩ relationship target relates
  refine each type known record member resource ?_ relationship relates.own target relates.known'
  rw [read]
  rfl

def paths : List String := ["sequels.author.books", "author"]

def roots : List Instance := [⟨⟨"book", "2"⟩, [("title", .string "Dusk")]⟩]

theorem keyed : ∀ root ∈ roots, KeyedBy schema connection.database book root.id := by
  intro root member
  rw [List.mem_singleton.mp member]
  have stored : IsStored connection.database book "2" := by decide +kernel
  exact rendered book (List.mem_cons_of_mem _ List.mem_cons_self) "2" stored

theorem straight : ∀ text ∈ paths, ¬Astray schema book (Text.split '.' text) := by
  have formed := loadable.formed
  have known : book ∈ schema.types := List.mem_cons_of_mem _ List.mem_cons_self
  have lead : ∀ text ∈ paths, typeAlong schema book (Text.split '.' text) ≠ none := by decide
  exact fun text given astray => lead text given ((typeAlong_none formed known).mpr astray)

theorem reaches_author :
    Reaches schema connection.database book "2" ["sequels", "author"] ⟨"author", "1"⟩ := by
  have sequel : LinkedTo tables book book (.joinTable "sequel" "book_id" "sequel_id") "2"
      ⟨⟨"book", "1"⟩, [("id", .integer 1), ("title", .string "Dawn")]⟩ := by decide +kernel
  have author' : LinkedTo tables book author (.ownerKey "author_id") "1"
      ⟨⟨"author", "1"⟩, [("id", .integer 1), ("name", .string "Ann")]⟩ := by decide +kernel
  have last : Reaches schema connection.database book "1" ["author"] _ := .last rfl author'
  exact .step rfl sequel last

end Shelf

end ResourceServer
