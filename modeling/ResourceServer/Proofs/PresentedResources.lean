import ResourceServer.Proofs.BatchedLinks
import ResourceServer.Proofs.CreatedResources
import ResourceServer.Proofs.RenderedObjects

/-! A stored resource can be presented if its attributes can be written as JSON: its links can always be read. -/

namespace ResourceServer

open ResourceServer.Store ResourceServer.Mapping ResourceServer.Api

def ReferencesKeyed (schema : Schema) (database : Database) : Prop :=
  ∀ table column target, Refers schema table column target →
    ∀ record ∈ database.records table, ∃ type ∈ schema.types, (keyType type).takes (record column)

theorem Changes.references_keyed {schema : Schema} {sound : Prop} {before after : Database}
    (changes : Changes schema sound before after) (fit : schema.KeysFit) (keyed : ReferencesKeyed schema before) :
    ReferencesKeyed schema after := by
  intro table column target refers
  let keys (cell : Cell) : Prop := ∃ type ∈ schema.types, (keyType type).takes cell
  have start : ∀ record ∈ before.records table, keys (record column) := keyed table column target refers
  refine changes.each ⟨target, refers.known, .inl rfl⟩ (fun type known here field own named cell taken => ?_)
    (fun other refers' cell taken => ⟨other, refers'.known, taken⟩) start
  rw [fit table column target refers type known here field own named] at taken
  exact ⟨target, refers.known, taken⟩

theorem keyed_invariant {schema : Schema} (formed : schema.Formed) (tables : schema.TablesDistinct)
    (columns : schema.ColumnsDistinct) (fit : schema.KeysFit) :
    Invariant schema False (ReferencesKeyed schema) where
  formed := formed
  tables := tables
  columns := columns
  keys := False.elim
  kept _ changes _ keyed := changes.references_keyed fit keyed

theorem vacant_keyed {schema : Schema} {connection : Connection}
    (done : execute (register schema) ⟨Database.empty, none, []⟩ = (.ok (), connection)) :
    ReferencesKeyed schema connection.database := by
  intro table column target _ record member
  rw [vacant_records (registered_columns done).1] at member
  cases member

section

variable {schema : Schema} {database : Database} {type target : EntityType} {relationship : Relationship}

theorem ReferencesKeyed.owner (keyed : ReferencesKeyed schema database) (typed : FieldsTyped schema database)
    (relates : schema.Relates type relationship target) {other : Record}
    (member : other ∈ database.records (tableName target)) {stored : Cell}
    (among : stored ∈ ownerCells database type target relationship.storage other) :
    ∃ type ∈ schema.types, (keyType type).takes stored := by
  obtain ⟨known, own, leads⟩ := relates
  unfold ownerCells at among
  cases storage : relationship.storage with
  | ownerKey column =>
      rw [storage] at among
      obtain ⟨owner, kept, rfl⟩ := List.mem_map.mp among
      exact ⟨type, known, typed.identities known owner (List.mem_filter.mp kept).1⟩
  | targetKey column =>
      rw [storage] at among
      rw [List.mem_singleton.mp among]
      exact keyed _ _ _ (.targetKey known own storage leads) other member
  | joinTable pairs ownerColumn targetColumn =>
      rw [storage] at among
      obtain ⟨pair, kept, rfl⟩ := List.mem_map.mp among
      exact keyed _ _ _ (.ownerPair known own storage) pair (List.mem_filter.mp kept).1

theorem ReferencesKeyed.reads (keyed : ReferencesKeyed schema database) (typed : FieldsTyped schema database)
    (exact : ∀ type ∈ schema.types, type.identity.type.Exact)
    (relates : schema.Relates type relationship target) (owner : String) :
    ReadsLinks database type target relationship.storage owner := by
  intro row member
  have same (other : Record) (inside : other ∈ database.records (tableName target)) (stored : Cell)
      (among : stored ∈ ownerCells database type target relationship.storage other) (cell : Cell)
      (kind : cell.type? = some (keyType type)) (agree : stored.agrees cell = true) : stored = cell := by
    obtain ⟨holder, known, taken⟩ := keyed.owner typed relates inside among
    exact ((Cell.agrees_exact (takes_exact (exact holder known) taken)
      (takes_exact (exact type relates.known) (.inr kind))).mp agree).1
  obtain ⟨_, _, id, _, _, resource, read⟩ := loaded_identity typed relates same member
  exact ⟨(id.text, resource), read⟩

variable {assembler : Assembler}

theorem attributes_written {rendered : Rendered}
    (shown : ∀ field ∈ rendered.type.attributes, (rendered.resource.attribute? field.name).isSome) :
    ∃ attributes, Serializer.attributes rendered = .ok attributes := by
  refine mapM_succeeds fun field own => ?_
  obtain ⟨json, written⟩ := Option.isSome_iff_exists.mp (shown field (List.mem_filter.mp own).1)
  unfold Instance.attribute? at written
  exact ⟨(field.name, json), by rw [written]⟩

theorem presents_of_shown (keyed : ReferencesKeyed schema database) (typed : FieldsTyped schema database)
    (formed : schema.Formed) (exact : ∀ type ∈ schema.types, type.identity.type.Exact)
    (default : ∀ name, assembler.serializer name = Serializer.default) (fieldsets : Fieldsets)
    (known : type ∈ schema.types) {resource : Instance} (ofType : resource.type = type.name)
    (shown : ∀ field ∈ type.attributes, (resource.attribute? field.name).isSome) :
    Assembler.Presents schema database assembler fieldsets resource where
  links _ _ _ _ _ _ relates := keyed.reads typed exact relates _
  written := by
    refine ⟨type, ?_, [], ?_⟩
    · rw [ofType]
      exact find_unique EntityType.name formed.names known
    · obtain ⟨attributes, written⟩ : ∃ attributes,
          Serializer.attributes (assembler.rendered fieldsets type resource []) = .ok attributes :=
        attributes_written shown
      rw [default]
      exact ⟨_, bind_of_ok written rfl⟩

/-- A resource that can be presented is put into a document that names it. -/
theorem delivers_assemble_one (accessible : Accessible schema database)
    (default : ∀ name, assembler.serializer name = Serializer.default) {fieldsets : Fieldsets} {resource : Instance}
    (presents : Assembler.Presents schema database assembler fieldsets resource) (url : Url) :
    Delivers database (assembler.assemble schema (.single (some resource)) none none url fieldsets)
      fun document => ∃ json, document.data = some json ∧ json.identifier? = some resource.identifier := by
  have steady (name : String) : (assembler.serializer name).Steady := default name ▸ default_steady
  rw [Assembler.assemble_eq]
  refine (Assembler.delivers_render accessible steady (List.forall_mem_singleton.mpr presents)).bind
    fun primary ⟨complete, names⟩ => ?_
  have without : Delivers database (assembler.renderIncluded schema fieldsets none) fun result => result.2 = [] :=
    Assembler.delivers_renderIncluded accessible steady nofun
  refine without.bind fun others none => ?_
  rw [complete, none]
  refine delivers_pure ?_
  obtain ⟨json, rest, named, nothing, same⟩ := List.forall₂_cons_left_iff.mp names
  rw [List.forall₂_nil_left_iff.mp nothing] at same
  exact ⟨json, by rw [same]; rfl, named⟩

end

end ResourceServer
