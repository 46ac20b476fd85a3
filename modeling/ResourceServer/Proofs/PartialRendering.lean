import ResourceServer.Proofs.Columns
import ResourceServer.Proofs.PartialInclusion

/-! Resources that are rendered with others are rendered with fewer others as well. -/

namespace ResourceServer

open ResourceServer.Store ResourceServer.Mapping ResourceServer.Paging

def Json.identifier? (json : Json) : Option Identifier :=
  match (json.get? "type").bind Json.string?, (json.get? "id").bind Json.string? with
  | some type, some id => some ⟨type, id⟩
  | _, _ => none

/-- A serializer that names each resource, and does not stumble over its relationships. -/
structure Serializer.Steady (serializer : Serializer) : Prop where
  names : ∀ {rendered : Rendered} {json : Json}, serializer rendered = .ok json →
    json.identifier? = some ⟨rendered.type.name, rendered.resource.id⟩
  steady : ∀ {rendered : Rendered} {json : Json} (relationships : List (Relationship × Linkage)),
    serializer rendered = .ok json →
      ∃ other, serializer { rendered with relationships := relationships } = .ok other

/-- A resource object that is written by default holds its identity, and what there is to show. -/
theorem default_members {rendered : Rendered} {json : Json} (written : Serializer.default rendered = .ok json) :
    ∃ attributes, Serializer.attributes rendered = .ok attributes ∧
      json.get? "id" = some (.string rendered.resource.id) ∧
      json.get? "type" = some (.string rendered.type.name) ∧
      json.get? "attributes" = (if attributes.isEmpty then none else some (.ofMembers attributes)) ∧
      json.get? "relationships" = (if rendered.relationships.isEmpty then none
        else some (.ofMembers (rendered.relationships.map (Serializer.relationship rendered.url)))) ∧
      json.get? "links" = (if rendered.fieldset.isNone
        then some (.object [("self", .string rendered.url)]) else none) := by
  obtain ⟨attributes, listed, same⟩ := bind_ok written
  cases same
  refine ⟨attributes, listed, ?_⟩
  simp only [Json.ofMembers, Json.get?, Keyed.get?, Keyed.ofList, List.foldl_append, List.foldl_cons,
    List.foldl_nil, List.isEmpty_map]
  cases attributes.isEmpty <;> cases rendered.relationships.isEmpty <;> cases rendered.fieldset.isNone <;>
    simp [Keyed.lookup_put]

theorem default_steady : Serializer.Steady Serializer.default := by
  constructor
  · intro rendered json written
    obtain ⟨_, _, id, type, _⟩ := default_members written
    unfold Json.identifier?
    rw [id, type]
    rfl
  · intro rendered json relationships written
    obtain ⟨attributes, listed, _⟩ := bind_ok written
    exact ⟨_, bind_of_ok listed rfl⟩

namespace Assembler

def rendered (assembler : Assembler) (fieldsets : Fieldsets) (type : EntityType) (resource : Instance)
    (relationships : List (Relationship × Linkage)) : Rendered where
  type := type
  resource := resource
  relationships := relationships
  fieldset := fieldsets.get? type.name
  visibility := assembler.visibility type.name
  url := assembler.resourceUrl type.name resource.id

/-- A resource can be presented: the links that it shows can be read, and it is rendered with some
relationships. -/
structure Presents (schema : Schema) (database : Database) (assembler : Assembler) (fieldsets : Fieldsets)
    (resource : Instance) : Prop where
  links : ∀ type ∈ schema.types, resource.type = type.name →
    ∀ relationship ∈ assembler.shownRelationships type fieldsets, ∀ target,
      schema.Relates type relationship target →
        ReadsLinks database type target relationship.storage resource.id
  written : ∃ type, schema.type? resource.type = some type ∧ ∃ relationships json,
    assembler.serializer type.name (assembler.rendered fieldsets type resource relationships) = .ok json

def Names (resources : List Instance) (objects : List Json) : Prop :=
  List.Forall₂ (fun resource json => json.identifier? = some resource.identifier) resources objects

section

variable {schema : Schema} {database : Database} {assembler : Assembler} {fieldsets : Fieldsets}
  {resources : List Instance}

theorem shownRelationships_own {type : EntityType} {relationship : Relationship}
    (shown : relationship ∈ assembler.shownRelationships type fieldsets) :
    relationship ∈ type.relationships :=
  (List.mem_filter.mp shown).1

theorem runs_loadLinks (accessible : Accessible schema database) {loaded : List LoadedLinks}
    (run : Runs database (assembler.loadLinks schema resources fieldsets) loaded) :
    ∀ resource ∈ resources, ∀ type ∈ schema.types, resource.type = type.name →
      ∀ relationship ∈ assembler.shownRelationships type fieldsets, ∀ target,
        schema.Relates type relationship target →
          ReadsLinks database type target relationship.storage resource.id := by
  intro resource member type known typed relationship shown target relates
  unfold loadLinks at run
  obtain ⟨groups, loaded, _⟩ := runs_bind (keeps_mapM fun _ => keeps_mapM fun _ =>
    keeps_bind (reading_keeps (loadRelation_keeps ..)) fun _ => keeps_pure _) run
  have each := runs_mapM (fun _ => keeps_mapM fun _ =>
    keeps_bind (reading_keeps (loadRelation_keeps ..)) fun _ => keeps_pure _) loaded
  have present : type ∈ schema.types.filter fun type =>
      resources.any fun resource => resource.type = type.name := by
    refine List.mem_filter.mpr ⟨known, List.any_eq_true.mpr ⟨resource, member, ?_⟩⟩
    exact decide_eq_true typed
  obtain ⟨group, _, one⟩ := mem_of_forall₂ each present
  have links := runs_mapM (fun _ => keeps_bind (reading_keeps (loadRelation_keeps ..)) fun _ => keeps_pure _) one
  obtain ⟨entry, _, one⟩ := mem_of_forall₂ links shown
  obtain ⟨found, run, _⟩ := runs_bind (reading_keeps (loadRelation_keeps ..)) one
  refine (runs_loadRelation accessible relates run).1 resource.id (List.mem_map_of_mem ?_)
  exact List.mem_filter.mpr ⟨member, decide_eq_true typed⟩

theorem delivers_loadLinks (accessible : Accessible schema database)
    (presents : ∀ resource ∈ resources, Presents schema database assembler fieldsets resource) :
    Delivers database (assembler.loadLinks schema resources fieldsets) fun _ => True := by
  unfold loadLinks
  refine (delivers_mapM (fun _ _ => True) fun type present => ?_).bind fun _ _ => delivers_pure trivial
  have known := (List.mem_filter.mp present).1
  refine (delivers_mapM (fun _ _ => True) fun relationship shown => ?_).mono fun _ _ => trivial
  obtain ⟨target, leads⟩ := Option.isSome_iff_exists.mp
    (accessible.formed.targets type known relationship (shownRelationships_own shown))
  have relates : schema.Relates type relationship target := ⟨known, shownRelationships_own shown, leads⟩
  refine (delivers_loadRelation accessible relates fun owner asked => ?_).bind fun _ _ => delivers_pure trivial
  obtain ⟨resource, inside, rfl⟩ := List.mem_map.mp asked
  obtain ⟨member, typed⟩ := List.mem_filter.mp inside
  exact (presents resource member).links type known (of_decide_eq_true typed) relationship shown target relates

theorem partition_ok {ε α : Type} {results : List (Except ε α)} {values : List α}
    (succeeded : partition results = (values, [])) : results = values.map .ok := by
  induction results generalizing values with
  | nil =>
      cases succeeded
      rfl
  | cons result rest ih =>
      cases result with
      | error error => cases (congrArg Prod.snd succeeded)
      | ok value =>
          have failures : (partition rest).2 = [] := congrArg Prod.snd succeeded
          have others : partition rest = ((partition rest).1, []) := Prod.ext rfl failures
          have same : value :: (partition rest).1 = values := congrArg Prod.fst succeeded
          rw [← same, List.map_cons, ← ih others]

theorem partition_map_ok {ε α : Type} (values : List α) :
    partition (values.map fun value => (.ok value : Except ε α)) = (values, []) := by
  induction values with
  | nil => rfl
  | cons value rest ih => rw [List.map_cons, partition, ih]

theorem renderOne_ok {loaded : List LoadedLinks} {resource : Instance} {json : Json}
    (written : assembler.renderOne schema loaded fieldsets resource = .ok json) :
    ∃ type, schema.type? resource.type = some type ∧ ∃ relationships,
      assembler.serializer type.name (assembler.rendered fieldsets type resource relationships) = .ok json := by
  unfold renderOne at written
  split at written
  · cases written
  · rename_i type found
    exact ⟨type, found, _, written⟩

theorem rendered_named (steady : ∀ name, (assembler.serializer name).Steady) {type : EntityType}
    {resource : Instance} (found : schema.type? resource.type = some type)
    {relationships : List (Relationship × Linkage)} {json : Json}
    (written : assembler.serializer type.name (assembler.rendered fieldsets type resource relationships) =
      .ok json) : json.identifier? = some resource.identifier := by
  have named : type.name = resource.type := by simpa using List.find?_some found
  rw [(steady type.name).names written]
  exact congrArg some (congrArg (Identifier.mk · resource.id) named)

theorem Presents.rendered (steady : ∀ name, (assembler.serializer name).Steady) {resource : Instance}
    (presents : Presents schema database assembler fieldsets resource) (loaded : List LoadedLinks) :
    ∃ json, assembler.renderOne schema loaded fieldsets resource = .ok json ∧
      json.identifier? = some resource.identifier := by
  obtain ⟨type, found, relationships, json, written⟩ := presents.written
  let shown := (assembler.shownRelationships type fieldsets).map fun relationship =>
    (relationship, Linkage.ofTargets relationship (linkedTo loaded type.name relationship.name resource.id))
  obtain ⟨other, again⟩ := (steady type.name).steady shown written
  refine ⟨other, ?_, rendered_named steady found again⟩
  unfold renderOne
  rw [found]
  exact again

theorem loadLinks_keeps :
    Keeps Connection.stored (assembler.loadLinks schema resources fieldsets) := by
  refine keeps_bind (keeps_mapM fun _ => keeps_mapM fun _ => ?_) fun _ => keeps_pure _
  exact keeps_bind (reading_keeps (loadRelation_keeps ..)) fun _ => keeps_pure _

theorem runs_renderOne {objects : List Json}
    (run : Runs database (assembler.render schema resources fieldsets) (objects, [])) :
    ∃ loaded, Runs database (assembler.loadLinks schema resources fieldsets) loaded ∧
      List.Forall₂ (fun resource json => assembler.renderOne schema loaded fieldsets resource = .ok json)
        resources objects := by
  unfold render at run
  obtain ⟨loaded, links, same⟩ := runs_bind loadLinks_keeps run
  have each := partition_ok (runs_pure same).symm
  rw [← List.forall₂_eq_eq_eq, List.forall₂_map_left_iff, List.forall₂_map_right_iff] at each
  exact ⟨loaded, links, each⟩

theorem runs_render (accessible : Accessible schema database)
    (steady : ∀ name, (assembler.serializer name).Steady) {objects : List Json}
    (run : Runs database (assembler.render schema resources fieldsets) (objects, [])) :
    (∀ resource ∈ resources, Presents schema database assembler fieldsets resource) ∧
      Names resources objects := by
  obtain ⟨loaded, links, each⟩ := runs_renderOne run
  refine ⟨fun resource member => ⟨runs_loadLinks accessible links resource member, ?_⟩, each.imp ?_⟩
  · obtain ⟨json, _, written⟩ := mem_of_forall₂ each member
    obtain ⟨type, found, relationships, written⟩ := renderOne_ok written
    exact ⟨type, found, relationships, json, written⟩
  · intro resource json written
    obtain ⟨type, found, relationships, again⟩ := renderOne_ok written
    exact rendered_named steady found again

theorem delivers_render (accessible : Accessible schema database)
    (steady : ∀ name, (assembler.serializer name).Steady)
    (presents : ∀ resource ∈ resources, Presents schema database assembler fieldsets resource) :
    Delivers database (assembler.render schema resources fieldsets) fun result =>
      result.2 = [] ∧ Names resources result.1 := by
  unfold render
  refine (delivers_loadLinks accessible presents).bind fun loaded _ => ?_
  have each : ∀ resource ∈ resources, ∃ json, assembler.renderOne schema loaded fieldsets resource = .ok json ∧
      json.identifier? = some resource.identifier :=
    fun resource member => (presents resource member).rendered steady loaded
  have objects : ∃ objects : List Json, resources.map (assembler.renderOne schema loaded fieldsets) =
      objects.map .ok ∧ Names resources objects := by
    induction resources with
    | nil => exact ⟨[], rfl, .nil⟩
    | cons resource rest ih =>
        obtain ⟨json, written, named⟩ := each resource List.mem_cons_self
        obtain ⟨objects, others, names⟩ :=
          ih (fun other member => presents other (List.mem_cons_of_mem _ member))
            fun other member => each other (List.mem_cons_of_mem _ member)
        exact ⟨json :: objects, by rw [List.map_cons, List.map_cons, written, others], .cons named names⟩
  obtain ⟨objects, written, names⟩ := objects
  refine delivers_pure ?_
  rw [written, partition_map_ok]
  exact ⟨rfl, names⟩

def renderIncluded (assembler : Assembler) (schema : Schema) (fieldsets : Fieldsets) :
    Option (List Instance) → SourceAction (Option (List Json) × List RenderError)
  | some resources => do
    let (objects, failures) ← assembler.render schema resources fieldsets
    return (some objects, failures)
  | none => return (none, [])

theorem assemble_eq (data : PrimaryData) (included : Option (List Instance)) (page : Option Page)
    (url : Url) :
    assembler.assemble schema data included page url fieldsets = (do
      let primary ← assembler.render schema data.resources fieldsets
      let others ← assembler.renderIncluded schema fieldsets included
      let document : Document :=
        { data := some (data.toJson primary.1)
          included := others.1
          links := [("self", .string url.text)] }
      let document := match page with
        | some page => addPage document url page
        | none => document
      if (primary.2 ++ others.2).isEmpty then pure document
      else throw (.unrenderable ((primary.2 ++ others.2).map RenderError.message))) := by
  have last (failures : List RenderError) (document : Document) :
      (if (!failures.isEmpty) = true then
        (throw (.unrenderable (failures.map RenderError.message)) : SourceAction PUnit) >>= fun _ => pure document
      else pure document) =
        if failures.isEmpty then pure document
        else throw (.unrenderable (failures.map RenderError.message)) := by
    cases failures <;> rfl
  unfold assemble renderIncluded
  refine bind_congr fun primary => ?_
  cases included with
  | none => exact last _ _
  | some resources =>
      simp only [bind_assoc, pure_bind]
      refine bind_congr fun others => ?_
      exact last _ _

theorem renderIncluded_keeps (included : Option (List Instance)) :
    Keeps Connection.stored (assembler.renderIncluded schema fieldsets included) := by
  cases included with
  | none => exact keeps_pure _
  | some resources => exact keeps_bind (render_keeps ..) fun _ => keeps_pure _

variable {included : Option (List Instance)} {page : Option Page} {url : Url}

theorem runs_assembled {data : PrimaryData} {document : Document}
    (run : Runs database (assembler.assemble schema data included page url fieldsets) document) :
    ∃ objects, Runs database (assembler.render schema data.resources fieldsets) (objects, []) ∧
      (∀ given, included = some given → ∃ others,
        Runs database (assembler.render schema given fieldsets) (others, [])) ∧
      document.data = some (data.toJson objects) := by
  rw [assemble_eq] at run
  obtain ⟨⟨objects, failures⟩, primary, run⟩ := runs_bind (render_keeps ..) run
  obtain ⟨⟨others, more⟩, secondary, run⟩ := runs_bind (renderIncluded_keeps included) run
  dsimp only at run
  by_cases none : (failures ++ more).isEmpty = true
  swap
  · rw [if_neg none] at run
    exact absurd run runs_throw
  rw [if_pos none] at run
  have made := runs_pure run
  obtain ⟨rfl, rfl⟩ := List.append_eq_nil_iff.mp (List.isEmpty_iff.mp none)
  refine ⟨objects, primary, ?_, ?_⟩
  · rintro given rfl
    obtain ⟨⟨written, failures⟩, rendered, same⟩ := runs_bind (render_keeps ..) secondary
    cases runs_pure same
    exact ⟨written, rendered⟩
  · rw [made]
    cases page <;> rfl

/-- The data of a document about one resource is what is rendered of it, with the links that were loaded. -/
theorem runs_assembled_one {resource : Instance} {document : Document}
    (run : Runs database (assembler.assemble schema (.single (some resource)) included page url fieldsets)
      document) :
    ∃ loaded object, Runs database (assembler.loadLinks schema [resource] fieldsets) loaded ∧
      assembler.renderOne schema loaded fieldsets resource = .ok object ∧ document.data = some object := by
  obtain ⟨objects, rendering, _, data⟩ := runs_assembled run
  obtain ⟨loaded, loads, each⟩ := runs_renderOne rendering
  cases each with
  | cons one none =>
      cases none
      exact ⟨loaded, _, loads, one, data⟩

theorem runs_assemble (accessible : Accessible schema database)
    (steady : ∀ name, (assembler.serializer name).Steady) {document : Document}
    (run : Runs database (assembler.assemble schema (.collection resources) included page url fieldsets)
      document) :
    (∀ resource ∈ resources ++ included.getD [], Presents schema database assembler fieldsets resource) ∧
      ∃ objects, document.data = some (.array objects) ∧ Names resources objects := by
  obtain ⟨objects, primary, secondary, data⟩ := runs_assembled run
  obtain ⟨roots, names⟩ := runs_render accessible steady primary
  refine ⟨fun resource member => ?_, objects, data, names⟩
  rcases List.mem_append.mp member with root | other
  · exact roots resource root
  · cases included with
    | none => cases other
    | some given =>
        obtain ⟨_, rendered⟩ := secondary given rfl
        exact (runs_render accessible steady rendered).1 resource other

theorem delivers_renderIncluded (accessible : Accessible schema database)
    (steady : ∀ name, (assembler.serializer name).Steady)
    (presents : ∀ resource ∈ included.getD [], Presents schema database assembler fieldsets resource) :
    Delivers database (assembler.renderIncluded schema fieldsets included) fun result => result.2 = [] := by
  cases included with
  | none => exact delivers_pure rfl
  | some given =>
      exact (delivers_render accessible steady presents).bind fun _ rendered => delivers_pure rendered.1

theorem delivers_assemble (accessible : Accessible schema database)
    (steady : ∀ name, (assembler.serializer name).Steady)
    (presents : ∀ resource ∈ resources ++ included.getD [],
      Presents schema database assembler fieldsets resource) (page : Page) :
    Delivers database (assembler.assemble schema (.collection resources) included (some page) url fieldsets)
      fun document => ∃ plain objects, document = addPage plain url page ∧
        plain.data = some (.array objects) ∧ Names resources objects := by
  have others := delivers_renderIncluded accessible steady fun resource member =>
    presents resource (List.mem_append_right _ member)
  rw [assemble_eq]
  refine (delivers_render accessible steady fun resource member =>
    presents resource (List.mem_append_left _ member)).bind fun primary rendered => ?_
  refine others.bind fun secondary none => ?_
  obtain ⟨failures, names⟩ := rendered
  rw [failures, none]
  exact delivers_pure ⟨_, _, rfl, rfl, names⟩

end

/-- The link to the next page, and the total, of a document that is a page. -/
theorem addPage_next (document : Document) (url : Url) (page : Page) :
    (addPage document url page).links.get? "next" = some (match page.next with
      | some number => .string (url.withPage number).text
      | none => .null) ∧
      (addPage document url page).metadata.get? "total" = some (.integer page.total) := by
  constructor
  · simp only [addPage, Page.neighbours, List.foldl_cons, List.foldl_nil]
    exact (Keyed.lookup_put ..).trans (if_pos rfl)
  · exact (Keyed.lookup_put ..).trans (if_pos rfl)

end Assembler

end ResourceServer
