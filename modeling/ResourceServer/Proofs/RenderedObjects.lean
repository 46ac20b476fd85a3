import ResourceServer.Proofs.RoundTrips
import ResourceServer.Proofs.Together

/-! What the objects of some resources show, and which resources have none. -/

namespace ResourceServer

open ResourceServer.Store ResourceServer.Mapping ResourceServer.Paging

def Json.inner? (json : Json) (group name : String) : Option Json :=
  (json.get? group).bind fun members => members.get? name

theorem partition_exact {ε α β : Type} {step : α → Except ε β} {fails : α → Option ε}
    {shows : α → β → Prop} {items : List α}
    (failed : ∀ item error, step item = .error error ↔ fails item = some error)
    (done : ∀ item ∈ items, ∀ value, step item = .ok value → shows item value) :
    List.Forall₂ shows (items.filter fun item => (fails item).isNone)
        (Assembler.partition (items.map step)).1 ∧
      (Assembler.partition (items.map step)).2 = items.filterMap fails := by
  induction items with
  | nil => exact ⟨.nil, rfl⟩
  | cons item rest ih =>
      obtain ⟨objects, failures⟩ := ih fun other member => done other (List.mem_cons_of_mem _ member)
      rw [List.map_cons, List.filter_cons, List.filterMap_cons]
      cases outcome : step item with
      | error error =>
          rw [(failed item error).mp outcome]
          exact ⟨objects, congrArg (error :: ·) failures⟩
      | ok value =>
          have none : fails item = none := by
            rw [Option.eq_none_iff_forall_ne_some]
            intro error fails
            cases outcome.symm.trans ((failed item error).mpr fails)
          rw [none]
          exact ⟨.cons (done item List.mem_cons_self value outcome) objects, failures⟩

theorem comesTo_of_parallel {ε α : Type} {database : Database} {action : Action ε α}
    (kept : Keeps Connection.stored action)
    (alike : Parallel (Connected database database) Eq action action) :
    ComesTo database action (execute action ⟨database, none, []⟩).1 := by
  intro start here
  refine ⟨?_, (congrArg Prod.fst (kept.same start)).trans here⟩
  exact (alike.sound ⟨here, rfl⟩).1.eq

section

variable {schema : Schema} {database : Database} {assembler : Assembler} {fieldsets : Fieldsets}
  {type : EntityType} {relationship : Relationship} {resource : Instance} {resources : List Instance}

/-- What loading the links of a relationship for some owners comes to. -/
def linksFor (schema : Schema) (database : Database) (type : EntityType) (relationship : Relationship)
    (owners : List String) : Except RequestError Links :=
  (execute (SourceAction.reading (loadRelation schema type relationship owners))
    ⟨database, none, []⟩).1

theorem loadRelation_comes (owners : List String) :
    ComesTo database (SourceAction.reading (loadRelation schema type relationship owners))
      (linksFor schema database type relationship owners) := by
  apply comesTo_of_parallel (reading_keeps (loadRelation_keeps ..))
  apply Parallel.mapError
  unfold loadRelation
  apply parallel_given
  rintro ⟨_, target⟩ _
  dsimp only
  split
  · exact parallel_pure rfl
  · have selected (select : Select) :
        Parallel (Connected database database) Eq (selectAll select) (selectAll select) := by
      refine ((parallel_select (Together.refl _)).mapError MappingError.store).bind ?_
      rintro rows _ rfl
      exact parallel_ofExcept (Together.refl _)
    refine (selected _).bind ?_
    rintro rows _ rfl
    exact parallel_ofExcept (Together.refl _)

/-- The JSON of an attribute; one that was never set is null. -/
def Instance.attribute? (resource : Instance) (name : String) : Option Json :=
  ((resource.get? name).getD .null).toJson?

namespace Assembler

/-- A member of a type is visible, and in the fieldset of the type, if there is one. -/
def exposes (assembler : Assembler) (fieldsets : Fieldsets) (type : EntityType) (name : String) :
    Bool :=
  (assembler.visibility type.name).exposes name &&
    (fieldsets.get? type.name).all fun names => names.contains name

/-- Why a resource can not be rendered: its type is unknown, or an attribute that it shows has no JSON. -/
def failure? (assembler : Assembler) (schema : Schema) (fieldsets : Fieldsets) (resource : Instance) :
    Option RenderError :=
  match schema.type? resource.type with
  | none => some ⟨resource.identifier, "unknown type"⟩
  | some type =>
    (type.attributes.filter fun field => assembler.exposes fieldsets type field.name).findSome? fun field =>
      if (resource.attribute? field.name).isNone then
        some ⟨resource.identifier, s!"{field.name} has no JSON representation"⟩
      else none

/-- An object shows a resource that is rendered among others: its identity, the attributes and the relationships
that are exposed and nothing else of them, and without a fieldset its own link. -/
structure Restricted (assembler : Assembler) (schema : Schema) (database : Database)
    (fieldsets : Fieldsets) (resources : List Instance) (type : EntityType) (resource : Instance)
    (object : Json) : Prop where
  id : object.get? "id" = some (.string resource.id)
  typed : object.get? "type" = some (.string resource.type)
  attributes : ∀ name json, object.inner? "attributes" name = some json ↔
    ∃ field ∈ type.attributes, field.name = name ∧ assembler.exposes fieldsets type name = true ∧
      resource.attribute? name = some json
  relationships : ∀ name json, object.inner? "relationships" name = some json ↔
    ∃ relationship ∈ type.relationships, relationship.name = name ∧
      assembler.exposes fieldsets type name = true ∧
      ∃ links, linksFor schema database type relationship (idsOf type resources) = .ok links ∧
        json = (Serializer.relationship (assembler.resourceUrl type.name resource.id)
          (relationship, .ofTargets relationship (links.of resource.id))).2
  links : (object.get? "links").isSome ↔ fieldsets.get? type.name = none
  others : ∀ name ∉ ["id", "type", "attributes", "relationships", "links"], object.get? name = none

theorem default_others {rendered : Rendered} {json : Json}
    (written : Serializer.default rendered = .ok json) {name : String}
    (other : name ∉ ["id", "type", "attributes", "relationships", "links"]) :
    json.get? name = none := by
  obtain ⟨attributes, _, same⟩ := bind_ok written
  cases same
  simp only [List.mem_cons, List.not_mem_nil, or_false, not_or] at other
  simp only [Json.ofMembers, Json.get?, Keyed.get?, Keyed.ofList, List.foldl_append, List.foldl_cons,
    List.foldl_nil, List.isEmpty_map]
  cases attributes.isEmpty <;> cases rendered.relationships.isEmpty <;> cases rendered.fieldset.isNone <;>
    simp [Keyed.lookup_put, other]

theorem inner_held {α : Type} {json : Json} {group : String} {items : List α}
    {entry : α → String × Json}
    (held : json.get? group = if items.isEmpty then none else some (.ofMembers (items.map entry)))
    (name : String) : json.inner? group name = (Keyed.ofList (items.map entry)).lookup name := by
  unfold Json.inner?
  rw [held]
  cases items <;> rfl

theorem attributes_exact {rendered : Rendered} {attributes : List (String × Json)}
    (distinct : (rendered.type.attributes.map Field.name).Nodup)
    (written : Serializer.attributes rendered = .ok attributes) (name : String) (json : Json) :
    (Keyed.ofList attributes).lookup name = some json ↔
      ∃ field ∈ rendered.type.attributes, field.name = name ∧ rendered.shows name = true ∧
        rendered.resource.attribute? name = some json := by
  have each : List.Forall₂ (fun field entry => entry.1 = field.name ∧
        rendered.resource.attribute? field.name = some entry.2)
      (rendered.type.attributes.filter fun field => rendered.shows field.name) attributes := by
    refine (mapM_forall₂ written).imp fun field entry one => ?_
    split at one
    · cases one
      exact ⟨rfl, by assumption⟩
    · cases one
  have names : attributes.map Prod.fst =
      (rendered.type.attributes.filter fun field => rendered.shows field.name).map Field.name := by
    rw [← List.forall₂_eq_eq_eq, List.forall₂_map_left_iff, List.forall₂_map_right_iff]
    exact each.flip.imp fun _ _ one => one.1
  have apart : (attributes.map Prod.fst).Nodup := by
    rw [names]
    exact distinct.sublist (List.filter_sublist.map _)
  rw [Keyed.lookup_ofList apart]
  constructor
  · intro member
    obtain ⟨field, shown, rfl, valued⟩ := mem_of_forall₂ each.flip member
    obtain ⟨own, exposed⟩ := List.mem_filter.mp shown
    exact ⟨field, own, rfl, exposed, valued⟩
  · rintro ⟨field, own, rfl, exposed, valued⟩
    obtain ⟨⟨name, json'⟩, member, rfl, valued'⟩ := mem_of_forall₂ each (List.mem_filter.mpr ⟨own, exposed⟩)
    cases valued.symm.trans valued'
    exact member

theorem default_fails (rendered : Rendered) (error : RenderError) :
    Serializer.default rendered = .error error ↔
      ((rendered.type.attributes.filter fun field => rendered.shows field.name).findSome? fun field =>
        if (rendered.resource.attribute? field.name).isNone then
          some ⟨rendered.resource.identifier, s!"{field.name} has no JSON representation"⟩
        else none) = some error := by
  have attributes : Serializer.default rendered = .error error ↔
      Serializer.attributes rendered = .error error := by
    unfold Serializer.default
    cases Serializer.attributes rendered <;> simp [bind, Except.bind]
  rw [attributes]
  unfold Serializer.attributes
  rw [mapM_first_error, iff_iff_eq]
  congr 2
  funext field
  unfold Instance.attribute?
  cases ((rendered.resource.get? field.name).getD .null).toJson? <;> rfl

theorem mem_relationships {url : String} {relationships : List Relationship}
    (distinct : (relationships.map Relationship.name).Nodup) (linkage : Relationship → Linkage)
    (name : String) (json : Json) :
    (Keyed.ofList ((relationships.map fun relationship => (relationship, linkage relationship)).map
        (Serializer.relationship url))).lookup name = some json ↔
      ∃ relationship ∈ relationships, relationship.name = name ∧
        json = (Serializer.relationship url (relationship, linkage relationship)).2 := by
  have names : ((relationships.map fun relationship => (relationship, linkage relationship)).map
      (Serializer.relationship url)).map Prod.fst = relationships.map Relationship.name := by
    simp [Serializer.relationship]
  rw [Keyed.lookup_ofList (names ▸ distinct)]
  simp only [List.map_map, List.mem_map, Function.comp_apply]
  constructor
  · rintro ⟨relationship, own, same⟩
    exact ⟨relationship, own, congrArg Prod.fst same, (congrArg Prod.snd same).symm⟩
  · rintro ⟨relationship, own, rfl, rfl⟩
    exact ⟨relationship, own, rfl⟩

theorem default_restricted (formed : schema.Formed) (known : type ∈ schema.types)
    (typed : resource.type = type.name) {linkage : Relationship → Linkage}
    (linked : ∀ relationship ∈ assembler.shownRelationships type fieldsets,
      ∃ links, linksFor schema database type relationship (idsOf type resources) = .ok links ∧
        linkage relationship = .ofTargets relationship (links.of resource.id)) {object : Json}
    (written : Serializer.default (assembler.rendered fieldsets type resource
      ((assembler.shownRelationships type fieldsets).map fun relationship =>
        (relationship, linkage relationship))) = .ok object) :
    Restricted assembler schema database fieldsets resources type resource object := by
  obtain ⟨attributes, listed, id, named, valued, related, links⟩ := default_members written
  have distinct := formed.members type known
  rw [EntityType.memberNames, List.nodup_append] at distinct
  refine ⟨id, typed ▸ named, fun name json => ?_, fun name json => ?_, ?_,
    fun _ other => default_others written other⟩
  · rw [← List.map_id attributes, List.isEmpty_map] at valued
    rw [inner_held valued, List.map_id]
    exact attributes_exact (List.nodup_cons.mp distinct.1).2 listed name json
  · rw [inner_held related]
    refine (mem_relationships (distinct.2.1.sublist (List.filter_sublist.map _)) linkage name
      json).trans ?_
    constructor
    · rintro ⟨relationship, shown, rfl, rfl⟩
      obtain ⟨own, exposed⟩ := List.mem_filter.mp shown
      obtain ⟨links, loaded, same⟩ := linked relationship shown
      exact ⟨relationship, own, rfl, exposed, links, loaded, same ▸ rfl⟩
    · rintro ⟨relationship, own, rfl, exposed, links, loaded, rfl⟩
      have shown : relationship ∈ assembler.shownRelationships type fieldsets :=
        List.mem_filter.mpr ⟨own, exposed⟩
      obtain ⟨links', loaded', same⟩ := linked relationship shown
      cases loaded.symm.trans loaded'
      exact ⟨relationship, shown, rfl, same ▸ rfl⟩
  · rw [links]
    cases fieldset : fieldsets.get? type.name <;> simp [rendered, fieldset]

/-! All links that some resources show are loaded, or a failure to load some of them is the outcome. -/

/-- Loading the links of a relationship that some resources show fails. -/
def FailsToLink (assembler : Assembler) (schema : Schema) (database : Database) (fieldsets : Fieldsets)
    (resources : List Instance) (error : RequestError) : Prop :=
  ∃ type ∈ schema.types, (∃ resource ∈ resources, resource.type = type.name) ∧
    ∃ relationship ∈ assembler.shownRelationships type fieldsets,
      linksFor schema database type relationship (idsOf type resources) = .error error

def Linked (assembler : Assembler) (schema : Schema) (database : Database) (fieldsets : Fieldsets)
    (resources : List Instance) : Prop :=
  ∀ error, ¬assembler.FailsToLink schema database fieldsets resources error

def linksShown (assembler : Assembler) (schema : Schema) (database : Database) (fieldsets : Fieldsets)
    (resources : List Instance) : Except RequestError (List LoadedLinks) := do
  let present := schema.types.filter fun type => resources.any fun resource => resource.type = type.name
  let loaded ← present.mapM fun type =>
    (assembler.shownRelationships type fieldsets).mapM fun relationship => do
      let links ← linksFor schema database type relationship (idsOf type resources)
      .ok ⟨type.name, relationship.name, links⟩
  .ok loaded.flatten

theorem loadLinks_comes :
    ComesTo database (assembler.loadLinks schema resources fieldsets)
      (assembler.linksShown schema database fieldsets resources) := by
  refine ComesTo.bind (comesTo_mapM fun type => comesTo_mapM fun relationship => ?_) fun loaded =>
    comesTo_pure loaded.flatten
  exact (loadRelation_comes (idsOf type resources)).bind fun links => comesTo_pure _

theorem linksShown_error {error : RequestError}
    (failed : assembler.linksShown schema database fieldsets resources = .error error) :
    assembler.FailsToLink schema database fieldsets resources error := by
  obtain all | ⟨_, _, done⟩ := bind_error failed
  swap
  · cases done
  obtain ⟨type, present, one⟩ := mapM_error_mem all
  obtain ⟨relationship, shown, one⟩ := mapM_error_mem one
  obtain ⟨known, some⟩ := List.mem_filter.mp present
  obtain ⟨resource, member, typed⟩ := List.any_eq_true.mp some
  refine ⟨type, known, ⟨resource, member, of_decide_eq_true typed⟩, relationship, shown, ?_⟩
  obtain failed | ⟨_, _, done⟩ := bind_error one
  · exact failed
  · cases done

theorem linksShown_ok {loaded : List LoadedLinks}
    (done : assembler.linksShown schema database fieldsets resources = .ok loaded) :
    assembler.Linked schema database fieldsets resources := by
  rintro error ⟨type, known, ⟨resource, member, typed⟩, relationship, shown, failed⟩
  obtain ⟨groups, all, _⟩ := bind_ok done
  have present : type ∈ schema.types.filter fun type =>
      resources.any fun resource => resource.type = type.name :=
    List.mem_filter.mpr ⟨known, List.any_eq_true.mpr ⟨resource, member, decide_eq_true typed⟩⟩
  obtain ⟨_, _, one⟩ := mem_of_forall₂ (mapM_forall₂ all) present
  obtain ⟨_, _, one⟩ := mem_of_forall₂ (mapM_forall₂ one) shown
  obtain ⟨_, linked, _⟩ := bind_ok one
  rw [failed] at linked
  cases linked

def Shows (assembler : Assembler) (schema : Schema) (database : Database) (fieldsets : Fieldsets)
    (resources : List Instance) (resource : Instance) (object : Json) : Prop :=
  ∃ type, schema.type? resource.type = some type ∧
    Restricted assembler schema database fieldsets resources type resource object

theorem renderOne_fails (plain : ∀ name, assembler.serializer name = Serializer.default)
    (loaded : List LoadedLinks) (error : RenderError) :
    assembler.renderOne schema loaded fieldsets resource = .error error ↔
      assembler.failure? schema fieldsets resource = some error := by
  unfold renderOne failure?
  cases found : schema.type? resource.type with
  | none => simp
  | some type =>
      dsimp only
      rw [plain]
      exact default_fails (assembler.rendered fieldsets type resource _) error

theorem renderOne_shows (formed : schema.Formed)
    (plain : ∀ name, assembler.serializer name = Serializer.default) {loaded : List LoadedLinks}
    (links : assembler.linksShown schema database fieldsets resources = .ok loaded)
    (member : resource ∈ resources) {object : Json}
    (written : assembler.renderOne schema loaded fieldsets resource = .ok object) :
    assembler.Shows schema database fieldsets resources resource object := by
  unfold renderOne at written
  cases found : schema.type? resource.type with
  | none =>
      rw [found] at written
      cases written
  | some type =>
      rw [found] at written
      dsimp only at written
      rw [plain] at written
      have known : type ∈ schema.types := List.mem_of_find?_eq_some found
      have typed : resource.type = type.name := by simpa [eq_comm] using List.find?_some found
      have run : Runs database (assembler.loadLinks schema resources fieldsets) loaded :=
        (links ▸ loadLinks_comes).runs
      refine ⟨type, found, default_restricted formed known typed (fun relationship shown => ?_) written⟩
      obtain ⟨links, loads, same⟩ := linkedTo_loaded formed run known member typed shown
      exact ⟨links, (loadRelation_comes _).of_runs loads, congrArg _ (same resource.id)⟩

/-- What rendering some resources comes to: the objects of those that can be rendered and the failures of the
others, both in order, unless some links can not be loaded. -/
def Renders (assembler : Assembler) (schema : Schema) (database : Database) (fieldsets : Fieldsets)
    (resources : List Instance) : Except RequestError (List Json × List RenderError) → Prop
  | .ok (objects, failures) =>
    assembler.Linked schema database fieldsets resources ∧
      List.Forall₂ (assembler.Shows schema database fieldsets resources)
        (resources.filter fun resource => (assembler.failure? schema fieldsets resource).isNone) objects ∧
      failures = resources.filterMap (assembler.failure? schema fieldsets)
  | .error error => assembler.FailsToLink schema database fieldsets resources error

/-- What assembling a document comes to: a failure with one entry for each resource that can not be rendered, if
there is one, the primary ones before the included ones. -/
def Assembles (assembler : Assembler) (schema : Schema) (database : Database) (fieldsets : Fieldsets)
    (primary included : List Instance) (outcome : Except RequestError Document) : Prop :=
  let failures := (primary ++ included).filterMap (assembler.failure? schema fieldsets)
  match outcome with
  | .ok _ =>
    assembler.Linked schema database fieldsets primary ∧
      assembler.Linked schema database fieldsets included ∧ failures = []
  | .error error =>
    assembler.FailsToLink schema database fieldsets primary error ∨
      assembler.Linked schema database fieldsets primary ∧
        (assembler.FailsToLink schema database fieldsets included error ∨
          assembler.Linked schema database fieldsets included ∧ failures ≠ [] ∧
            error = .unrenderable (failures.map RenderError.message))

section

variable (formed : schema.Formed) (plain : ∀ name, assembler.serializer name = Serializer.default)
  (database : Database) (fieldsets : Fieldsets)
include formed plain

theorem render_comes (resources : List Instance) :
    ∃ outcome, ComesTo database (assembler.render schema resources fieldsets) outcome ∧
      assembler.Renders schema database fieldsets resources outcome := by
  refine ⟨_, loadLinks_comes.bind fun loaded => comesTo_pure _, ?_⟩
  cases links : assembler.linksShown schema database fieldsets resources with
  | error error => exact linksShown_error links
  | ok loaded =>
      exact ⟨linksShown_ok links, partition_exact
        (fun _ error => renderOne_fails plain loaded error)
        fun _ member _ written => renderOne_shows formed plain links member written⟩

theorem renderIncluded_comes (included : Option (List Instance)) :
    ∃ outcome, ComesTo database (assembler.renderIncluded schema fieldsets included) outcome ∧
      match outcome with
      | .ok (_, failures) =>
        assembler.Linked schema database fieldsets (included.getD []) ∧
          failures = (included.getD []).filterMap (assembler.failure? schema fieldsets)
      | .error error => assembler.FailsToLink schema database fieldsets (included.getD []) error := by
  cases included with
  | none =>
      refine ⟨_, comesTo_pure _, ?_, rfl⟩
      rintro _ ⟨_, _, ⟨_, none, _⟩, _⟩
      cases none
  | some resources =>
      obtain ⟨outcome, comes, exactly⟩ := render_comes formed plain database fieldsets resources
      refine ⟨_, comes.bind fun both => comesTo_pure (some both.1, both.2), ?_⟩
      cases outcome with
      | error error => exact exactly
      | ok both => exact ⟨exactly.1, exactly.2.2⟩

theorem assemble_comes (data : PrimaryData) (included : Option (List Instance)) (page : Option Page)
    (url : Url) :
    ∃ outcome, ComesTo database (assembler.assemble schema data included page url fieldsets) outcome ∧
      assembler.Assembles schema database fieldsets data.resources (included.getD []) outcome := by
  obtain ⟨first, primary, exactly⟩ := render_comes formed plain database fieldsets data.resources
  obtain ⟨second, others, exactly'⟩ := renderIncluded_comes formed plain database fieldsets included
  rw [assemble_eq]
  dsimp only
  refine ⟨_, primary.bind fun _ => others.bind fun _ => comesTo_guard _ _, ?_⟩
  unfold Assembles
  rw [List.filterMap_append]
  cases first with
  | error error => exact .inl exactly
  | ok one =>
      obtain ⟨linked, _, failures⟩ := exactly
      cases second with
      | error error => exact .inr ⟨linked, .inl exactly'⟩
      | ok other =>
          obtain ⟨linked', failures'⟩ := exactly'
          rw [← failures, ← failures']
          dsimp only [bind, Except.bind]
          by_cases all : (one.2 ++ other.2).isEmpty = true
          · rw [if_pos all]
            exact ⟨linked, linked', List.isEmpty_iff.mp all⟩
          · rw [if_neg all]
            exact .inr ⟨linked, .inr ⟨linked', fun empty => all (List.isEmpty_iff.mpr empty), rfl⟩⟩

end

/-! Fieldsets take members away. -/

/-- What is rendered under a narrower selection is rendered under the wider one, with every member shown as it is
there. -/
structure Narrows (assembler : Assembler) (schema : Schema) (database : Database)
    (fieldsets narrowed : Fieldsets) (resources : List Instance) : Prop where
  linked : assembler.Linked schema database fieldsets resources →
    assembler.Linked schema database narrowed resources
  rendered : ∀ resource, assembler.failure? schema fieldsets resource = none →
    assembler.failure? schema narrowed resource = none
  objects : ∀ resource wide narrow,
    assembler.Shows schema database fieldsets resources resource wide →
    assembler.Shows schema database narrowed resources resource narrow →
    ∀ group ∈ ["attributes", "relationships"], ∀ name json,
      narrow.inner? group name = some json → wide.inner? group name = some json

theorem exposes_put {name : String} (fresh : fieldsets.get? name = none) (names : List String)
    {member : String} (exposed : assembler.exposes (fieldsets.put name names) type member = true) :
    assembler.exposes fieldsets type member = true := by
  unfold exposes Keyed.get? at exposed ⊢
  rw [Keyed.lookup_put] at exposed
  by_cases same : type.name = name
  · have absent : fieldsets.lookup type.name = none := same ▸ fresh
    rw [absent]
    simpa using (Bool.and_eq_true_iff.mp exposed).1
  · rwa [if_neg same] at exposed

theorem narrows_of_exposes {narrowed : Fieldsets}
    (fewer : ∀ {type : EntityType} {member : String}, assembler.exposes narrowed type member = true →
      assembler.exposes fieldsets type member = true) :
    assembler.Narrows schema database fieldsets narrowed resources where
  linked linked error := by
    rintro ⟨type, known, present, relationship, shown, failed⟩
    obtain ⟨own, exposed⟩ := List.mem_filter.mp shown
    exact linked error ⟨type, known, present, relationship,
      List.mem_filter.mpr ⟨own, fewer exposed⟩, failed⟩
  rendered resource none := by
    unfold failure? at none ⊢
    cases found : schema.type? resource.type with
    | none =>
        rw [found] at none
        cases none
    | some type =>
        rw [found] at none
        dsimp only at none ⊢
        rw [List.findSome?_eq_none_iff] at none ⊢
        intro field shown
        obtain ⟨own, exposed⟩ := List.mem_filter.mp shown
        exact none field (List.mem_filter.mpr ⟨own, fewer exposed⟩)
  objects resource wide narrow := by
    rintro ⟨type, found, shows⟩ ⟨type', found', shows'⟩ group among name json shown
    cases found.symm.trans found'
    rcases List.mem_pair.mp among with rfl | rfl
    · obtain ⟨field, own, named, exposed, valued⟩ := (shows'.attributes name json).mp shown
      exact (shows.attributes name json).mpr ⟨field, own, named, fewer exposed, valued⟩
    · obtain ⟨relationship, own, named, exposed, linked⟩ := (shows'.relationships name json).mp shown
      exact (shows.relationships name json).mpr ⟨relationship, own, named, fewer exposed, linked⟩

end Assembler

/-- Resources are rendered completely and as they are restricted, whatever is visible and asked for: there is one
object or one failure of each, in order, unless some of the links that they show can not be loaded. A fieldset
that is added takes members away. A document is assembled unless a primary or an included resource fails. -/
theorem rendering_restricted {types : List EntityType} (valid : Schema.ofTypes types = .ok schema)
    (plain : ∀ name, assembler.serializer name = Serializer.default) (fieldsets : Fieldsets)
    (connection : Connection) :
    (∀ resources, assembler.Renders schema connection.database fieldsets resources
      (execute (assembler.render schema resources fieldsets) connection).1) ∧
    (∀ name names resources, fieldsets.get? name = none →
      assembler.Narrows schema connection.database fieldsets (fieldsets.put name names) resources) ∧
    ∀ data included page url, assembler.Assembles schema connection.database fieldsets
      data.resources (included.getD [])
      (execute (assembler.assemble schema data included page url fieldsets) connection).1 := by
  have formed := ofTypes_formed valid
  refine ⟨fun resources => ?_, fun name names resources fresh => ?_, fun data included page url => ?_⟩
  · obtain ⟨outcome, comes, renders⟩ :=
      Assembler.render_comes formed plain connection.database fieldsets resources
    rw [(comes connection rfl).1]
    exact renders
  · exact Assembler.narrows_of_exposes (Assembler.exposes_put fresh names)
  · obtain ⟨outcome, comes, assembles⟩ :=
      Assembler.assemble_comes formed plain connection.database fieldsets data included page url
    rw [(comes connection rfl).1]
    exact assembles

end

/-! Two painters, one of them of no finite height. -/

namespace Gallery

def painter : EntityType :=
  { name := "painter"
    table := none
    identity := ⟨"id", .string, false⟩
    attributes := [⟨"name", .string, false⟩, ⟨"height", .decimal, false⟩]
    relationships := [⟨"paintings", .toMany, "painting", true, .targetKey "painter_id"⟩]
    extraKey := [] }

def painting : EntityType :=
  ⟨"painting", none, ⟨"id", .string, false⟩, [], [], []⟩

def schema : Schema := ⟨[painter, painting]⟩

def serving : Connection :=
  ⟨⟨[⟨"painter", [⟨"id", .text⟩, ⟨"name", .text⟩, ⟨"height", .decimal⟩], [],
      [[.text "ann", .text "Ann", Cell.decimal (.signed false Number.Binary64.infinity)],
        [.text "bob", .text "Bob", .null]], 1⟩,
    ⟨"painting", [⟨"id", .text⟩, ⟨"painter_id", .text⟩], [], [[.text "sea", .text "bob"]], 1⟩]⟩,
    none, []⟩

def painters : List Instance :=
  [⟨⟨"painter", "ann"⟩, [("name", .string "Ann"), ("height", .decimal (.signed false Number.Binary64.infinity))]⟩,
    ⟨⟨"painter", "bob"⟩, [("name", .string "Bob")]⟩]

def assembler : Assembler :=
  { baseUrl := "/api", visibilities := [("painter", .except ["name"])] }

end Gallery

theorem painters_rendered_apart :
    (∀ name, Gallery.assembler.serializer name = Serializer.default) ∧
      ∃ object, (execute (Gallery.assembler.render Gallery.schema Gallery.painters [])
          Gallery.serving).1 =
            .ok ([object], [⟨⟨"painter", "ann"⟩, "height has no JSON representation"⟩]) ∧
        object.get? "id" = some (.string "bob") ∧ object.inner? "attributes" "name" = none := by
  have valid : Schema.ofTypes [Gallery.painter, Gallery.painting] = .ok Gallery.schema := rfl
  have plain (name : String) : Gallery.assembler.serializer name = Serializer.default := rfl
  obtain ⟨renders, _, _⟩ := rendering_restricted valid plain [] Gallery.serving
  have rendered (resources : List Instance) {outcome : Except RequestError _}
      (run : (execute (Gallery.assembler.render Gallery.schema resources []) Gallery.serving).1 =
        outcome) :
      Gallery.assembler.Renders Gallery.schema Gallery.serving.database [] resources outcome :=
    run ▸ renders resources
  have fine : ((execute (Gallery.assembler.render Gallery.schema Gallery.painters [])
      Gallery.serving).1.toOption).isSome = true := by decide +kernel
  have apart : (Gallery.painters.filter fun resource =>
      (Gallery.assembler.failure? Gallery.schema [] resource).isNone) = Gallery.painters.drop 1 := by
    decide +kernel
  have fails : Gallery.painters.filterMap (Gallery.assembler.failure? Gallery.schema []) =
      [⟨⟨"painter", "ann"⟩, "height has no JSON representation"⟩] := by decide +kernel
  cases outcome : (execute (Gallery.assembler.render Gallery.schema Gallery.painters [])
      Gallery.serving).1 with
  | error error =>
      rw [outcome] at fine
      cases fine
  | ok result =>
      obtain ⟨objects, failures⟩ := result
      obtain ⟨_, shown, rfl⟩ := rendered Gallery.painters outcome
      rw [apart] at shown
      rw [fails]
      cases shown with
      | @cons _ object _ _ one none =>
          cases none
          obtain ⟨type, found, shows⟩ := one
          cases found
          refine ⟨plain, object, rfl, shows.id, ?_⟩
          rw [Option.eq_none_iff_forall_ne_some]
          intro json named
          obtain ⟨_, _, _, exposed, _⟩ := (shows.attributes "name" json).mp named
          exact absurd exposed (by decide +kernel)

end ResourceServer
