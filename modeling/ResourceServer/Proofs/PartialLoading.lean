import ResourceServer.Proofs.Atomicity
import ResourceServer.Proofs.Occurrences
import ResourceServer.Proofs.Paths

/-! Loading links of some owners finds what loading them one owner at a time finds. -/

namespace ResourceServer

open ResourceServer.Store ResourceServer.Mapping

/-- A database that has the tables of a schema that is accepted, told apart from the names under which links are
loaded. -/
structure Accessible (schema : Schema) (database : Database) : Prop where
  formed : schema.Formed
  columns : schema.ColumnsDistinct
  reserved : ∀ type ∈ schema.types, tableName type ≠ "rel_owner" ∧ tableName type ≠ "rel_link"
  shaped : Shaped schema database

def ReadsLinks (database : Database) (type target : EntityType) (storage : Storage) (owner : String) : Prop :=
  ∀ row ∈ loadedRows database type target storage (idCells type [owner]),
    ∃ link, readLink type target row = .ok link

def LoadsLink (database : Database) (type target : EntityType) (storage : Storage) (owner : String)
    (link : String × Instance) : Prop :=
  ∃ row ∈ loadedRows database type target storage (idCells type [owner]), readLink type target row = .ok link

def IsResource (schema : Schema) (database : Database) (resource : Instance) : Prop :=
  ∃ type ∈ schema.types, ∃ record ∈ database.records (tableName type), readRecord type record = .ok resource

/-- The identity that the resource in a record is written with, if it can be read. -/
def writtenId (type : EntityType) (record : Record) : Option String :=
  (readRecord type record).toOption.map Instance.id

/-- No two stored resources of one type are written with the same identity. -/
def IdsUnique (schema : Schema) (database : Database) : Prop :=
  ∀ type ∈ schema.types, ((database.records (tableName type)).filterMap (writtenId type)).Nodup

instance (schema : Schema) (database : Database) : Decidable (IdsUnique schema database) :=
  inferInstanceAs (Decidable (∀ _ ∈ _, _))

theorem writtenId_ok {type : EntityType} {record : Record} {resource : Instance}
    (read : readRecord type record = .ok resource) : writtenId type record = some resource.id := by
  unfold writtenId
  rw [read]
  rfl

theorem readRecord_type {type : EntityType} {record : Record} {resource : Instance}
    (read : readRecord type record = .ok resource) : resource.type = type.name := by
  obtain ⟨_, _, rfl⟩ := map_ok read
  rfl

theorem IsResource.unique {schema : Schema} {database : Database} (formed : schema.Formed)
    (unique : IdsUnique schema database) {resource other : Instance}
    (stored : IsResource schema database resource) (stored' : IsResource schema database other)
    (same : resource.identifier = other.identifier) : resource = other := by
  obtain ⟨type, known, record, member, read⟩ := stored
  obtain ⟨type', known', record', member', read'⟩ := stored'
  have named : type.name = type'.name :=
    (readRecord_type read).symm.trans ((congrArg Identifier.type same).trans (readRecord_type read'))
  have itself := find_unique EntityType.name formed.names known
  rw [named, find_unique EntityType.name formed.names known'] at itself
  obtain rfl := Option.some.inj itself
  by_cases one : record = record'
  · subst one
    exact Except.ok.inj (read.symm.trans read')
  · have symmetric : Std.Symm fun left right : Record => ∀ id, writtenId type' left = some id →
        ∀ id', writtenId type' right = some id' → id ≠ id' :=
      ⟨fun _ _ apart id first id' second same => apart id' second id first same.symm⟩
    have apart := (List.pairwise_filterMap.mp (unique type' known')).forall member member' one
    exact absurd (congrArg Identifier.id same)
      (apart resource.id (writtenId_ok read) other.id (writtenId_ok read'))

section

variable {schema : Schema} {database : Database} {type target : EntityType} {relationship : Relationship}

theorem mem_loadedRows_each {storage : Storage} {owners : List String} {row : Row} :
    row ∈ loadedRows database type target storage (idCells type owners) ↔
      ∃ owner ∈ owners, row ∈ loadedRows database type target storage (idCells type [owner]) := by
  simp only [mem_loadedRows, List.any_eq_true, idCells, List.mem_filterMap, List.mem_singleton,
    exists_eq_left]
  constructor
  · rintro ⟨other, stored, cell, held, same, key, ⟨owner, asked, spelled⟩, agrees⟩
    exact ⟨owner, asked, other, stored, cell, held, same, key, spelled, agrees⟩
  · rintro ⟨owner, asked, other, stored, cell, held, same, key, spelled, agrees⟩
    exact ⟨other, stored, cell, held, same, key, ⟨owner, asked, spelled⟩, agrees⟩

theorem LoadsLink.stored {storage : Storage} {owner : String} {link : String × Instance}
    (loads : LoadsLink database type target storage owner link) :
    ∃ record ∈ database.records (tableName target), readRecord target record = .ok link.2 := by
  obtain ⟨row, member, read⟩ := loads
  obtain ⟨record, inside, cell, _, rfl, _⟩ := mem_loadedRows.mp member
  obtain ⟨value, _, read⟩ := bind_ok read
  obtain ⟨resource, reads, same⟩ := bind_ok read
  cases same
  exact ⟨record, inside, reads⟩

variable {connection : Connection} {owners : List String}

theorem loadRelation_rows (accessible : Accessible schema connection.database)
    (relates : schema.Relates type relationship target) (owners : List String) :
    (execute (loadRelation schema type relationship owners) connection).1 =
      (loadedRows connection.database type target relationship.storage (idCells type owners)).mapM
        (readLink type target) :=
  execute_loadRelation accessible.shaped (accessible.reserved target relates.known')
    relates.known relates.own (relates.found accessible.formed) rfl owners

theorem loadRelation_succeeds (accessible : Accessible schema connection.database)
    (relates : schema.Relates type relationship target) :
    (∃ links, (execute (loadRelation schema type relationship owners) connection).1 = .ok links) ↔
      ∀ owner ∈ owners, ReadsLinks connection.database type target relationship.storage owner := by
  rw [loadRelation_rows accessible relates]
  constructor
  · rintro ⟨links, read⟩ owner asked row member
    obtain ⟨link, _, made⟩ :=
      mem_of_forall₂ (mapM_forall₂ read) (mem_loadedRows_each.mpr ⟨owner, asked, member⟩)
    exact ⟨link, made⟩
  · intro each
    refine mapM_succeeds fun row member => ?_
    obtain ⟨owner, asked, inside⟩ := mem_loadedRows_each.mp member
    exact each owner asked row inside

theorem mem_links (accessible : Accessible schema connection.database)
    (relates : schema.Relates type relationship target) {links : Links}
    (loaded : (execute (loadRelation schema type relationship owners) connection).1 = .ok links)
    (link : String × Instance) :
    link ∈ links ↔
      ∃ owner ∈ owners, LoadsLink connection.database type target relationship.storage owner link := by
  rw [loadRelation_rows accessible relates] at loaded
  have each := mapM_forall₂ loaded
  constructor
  · intro member
    obtain ⟨row, among, made⟩ := mem_of_forall₂ each.flip member
    obtain ⟨owner, asked, inside⟩ := mem_loadedRows_each.mp among
    exact ⟨owner, asked, row, inside, made⟩
  · rintro ⟨owner, asked, row, inside, made⟩
    obtain ⟨other, member, made'⟩ := mem_of_forall₂ each (mem_loadedRows_each.mpr ⟨owner, asked, inside⟩)
    cases made.symm.trans made'
    exact member

theorem mem_linksOf {links : Links} {owner : String} {other : Instance} :
    other ∈ links.of owner ↔ (owner, other) ∈ links := by
  unfold Links.of
  simp

end

end ResourceServer
