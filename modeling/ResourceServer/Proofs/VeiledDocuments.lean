import ResourceServer.Proofs.PartialRendering
import ResourceServer.Proofs.VeiledResources

/-! Documents about resources that differ in secret attributes are the same. -/

namespace ResourceServer

open ResourceServer.Store ResourceServer.Mapping

section

variable {schema : Schema} {secret : Secrets} {resources others : List Instance}
  (alike : List.Forall₂ (Instance.Like schema secret) resources others)
include alike

theorem identifiers_like : resources.map Instance.identifier = others.map Instance.identifier := by
  induction alike with
  | nil => rfl
  | cons one _ ih => rw [List.map_cons, List.map_cons, one.identifier, ih]

theorem isEmpty_like : resources.isEmpty = others.isEmpty := by
  cases alike <;> rfl

theorem ids_like : resources.map Instance.id = others.map Instance.id := by
  have same := congrArg (List.map Identifier.id) (identifiers_like alike)
  rwa [List.map_map, List.map_map] at same

theorem getLast_like : Option.Rel (Instance.Like schema secret) resources.getLast? others.getLast? := by
  rw [List.getLast?_eq_head?_reverse, List.getLast?_eq_head?_reverse]
  have reversed := List.rel_reverse alike
  generalize resources.reverse = first, others.reverse = second at reversed
  cases reversed with
  | nil => exact .none
  | cons one _ => exact .some one

theorem linkage_like (relationship : Relationship) :
    Linkage.ofTargets relationship resources = Linkage.ofTargets relationship others := by
  unfold Linkage.ofTargets
  rw [← List.head?_map, ← List.head?_map, identifiers_like alike]

theorem any_like (name : String) : (resources.any fun resource => resource.type = name) =
    others.any fun resource => resource.type = name := by
  have same := congrArg (List.any · fun identifier => decide (identifier.type = name)) (identifiers_like alike)
  rwa [List.any_map, List.any_map] at same

theorem filter_like (name : String) : List.Forall₂ (Instance.Like schema secret)
    (resources.filter fun resource => resource.type = name) (others.filter fun resource => resource.type = name) :=
  List.rel_filter (fun one other like => by
    have same : one.type = other.type := congrArg Identifier.type like.identifier
    dsimp only
    rw [same]) alike

theorem distinct_like (seen : List Identifier) : List.Forall₂ (Instance.Like schema secret)
    (Inclusion.distinct seen resources) (Inclusion.distinct seen others) := by
  induction alike generalizing seen with
  | nil => exact .nil
  | cons one _ ih =>
      unfold Inclusion.distinct
      rw [← one.identifier]
      split
      · exact ih seen
      · exact .cons one (ih _)

end

section

variable {schema : Schema} {secret : Secrets}

theorem links_of_like {links links' : Links} (alike : links.Like schema secret links') (owner : String) :
    List.Forall₂ (Instance.Like schema secret) (links.of owner) (links'.of owner) := by
  unfold Links.of
  refine List.rel_filterMap (fun one other like => ?_) alike
  rw [like.1]
  split
  · exact .some like.2
  · exact .none

theorem reached_like {links links' : Links} (alike : links.Like schema secret links') (owners : List String) :
    List.Forall₂ (Instance.Like schema secret) (owners.flatMap links.of) (owners.flatMap links'.of) := by
  induction owners with
  | nil => exact .nil
  | cons owner rest ih =>
      rw [List.flatMap_cons, List.flatMap_cons]
      exact List.rel_append (links_of_like alike owner) ih

omit secret in
theorem targetOf?_known {type name : String} {target : EntityType} (found : schema.targetOf? type name = some target) :
    target ∈ schema.types := by
  unfold Schema.targetOf? at found
  obtain ⟨entity, _, found⟩ := Option.bind_eq_some_iff.mp found
  obtain ⟨relationship, _, found⟩ := Option.bind_eq_some_iff.mp found
  exact List.mem_of_find?_eq_some found

end

/-! Inclusion. -/

namespace Inclusion

/-- Resources met and included that differ in secret attributes at most. -/
structure Progress.Like (schema : Schema) (secret : Secrets) (progress other : Progress) : Prop where
  met : progress.met = other.met
  included : List.Forall₂ (Instance.Like schema secret) progress.included other.included

/-- Resources of one type that differ in secret attributes at most, from which the same paths go on. -/
structure Front.Like (schema : Schema) (secret : Secrets) (front other : Front) : Prop where
  known : front.type ∈ schema.types
  type : front.type = other.type
  tree : front.tree = other.tree
  resources : List.Forall₂ (Instance.Like schema secret) front.resources other.resources

def StepLike (schema : Schema) (secret : Secrets) (step other : Progress × List Front) : Prop :=
  step.1.Like schema secret other.1 ∧ List.Forall₂ (Front.Like schema secret) step.2 other.2

section

variable {schema : Schema} {secret : Secrets}

theorem visit_like {progress other : Progress} (alike : progress.Like schema secret other)
    {resource resource' : Instance} (like : Instance.Like schema secret resource resource') :
    (progress.visit resource).Like schema secret (other.visit resource') := by
  unfold Progress.visit
  rw [← alike.met, ← like.identifier]
  split
  · exact alike
  · exact ⟨rfl, .cons like alike.included⟩

theorem visits_like {progress other : Progress} (alike : progress.Like schema secret other)
    {resources others : List Instance} (like : List.Forall₂ (Instance.Like schema secret) resources others) :
    (resources.foldl Progress.visit progress).Like schema secret (others.foldl Progress.visit other) := by
  induction like generalizing progress other with
  | nil => exact alike
  | cons one _ ih => exact ih (visit_like alike one)

variable {left right : Database} (like : left.Like (schema.cover secret) right) (apart : schema.Apart)
  (reserved : ∀ type ∈ schema.types, tableName type ≠ "rel_owner" ∧ tableName type ≠ "rel_link")
include like apart reserved

theorem followChild_parallel {front other : Front} (alike : front.Like schema secret other)
    {progress progress' : Progress} (met : progress.Like schema secret progress') (name : String)
    (child : PathTree) :
    Parallel (Connected left right) (StepLike schema secret) (followChild schema front progress name child)
      (followChild schema other progress' name child) := by
  unfold followChild
  rw [← alike.type, ← ids_like alike.resources]
  split
  · rename_i relationship target named reached
    have own := List.mem_of_find?_eq_some named
    refine ((loadRelation_parallel like apart alike.known reserved own _).mapError _).bind
      fun links links' loaded => parallel_pure ?_
    have found := reached_like loaded (front.resources.map Instance.id).eraseDups
    refine ⟨visits_like met found, .cons ⟨targetOf?_known reached, rfl, rfl, ?_⟩ .nil⟩
    dsimp only
    split
    · exact .nil
    · exact distinct_like found []
  · exact parallel_pure ⟨met, .nil⟩

theorem followFront_parallel {front other : Front} (alike : front.Like schema secret other)
    {progress progress' : Progress} (met : progress.Like schema secret progress') :
    Parallel (Connected left right) (StepLike schema secret) (followFront schema front progress)
      (followFront schema other progress') := by
  unfold followFront
  rw [← isEmpty_like alike.resources, ← alike.tree]
  split
  · exact parallel_pure ⟨met, .nil⟩
  · refine Parallel.foldlM_same (fun entry _ step step' ⟨met, fronts⟩ => ?_) ⟨met, .nil⟩
    refine (followChild_parallel like apart reserved alike met entry.1 entry.2).bind fun _ _ ⟨met, more⟩ => ?_
    exact parallel_pure ⟨met, List.rel_append fronts more⟩

theorem followLevels_parallel (levels : Nat) {fronts others : List Front}
    (alike : List.Forall₂ (Front.Like schema secret) fronts others)
    {progress progress' : Progress} (met : progress.Like schema secret progress') :
    Parallel (Connected left right) (Progress.Like schema secret) (followLevels schema levels fronts progress)
      (followLevels schema levels others progress') := by
  induction levels generalizing fronts others progress progress' with
  | zero => exact parallel_pure met
  | succ levels ih =>
      have begun : StepLike schema secret (progress, []) (progress', []) := ⟨met, .nil⟩
      refine Parallel.bind (Parallel.foldlM alike (fun front other alike step step' ⟨met, fronts⟩ => ?_) begun)
        fun _ _ ⟨met, fronts⟩ => ih fronts met
      refine (followFront_parallel like apart reserved alike met).bind fun _ _ ⟨met, more⟩ => ?_
      exact parallel_pure ⟨met, List.rel_append fronts more⟩

theorem resolve_parallel {type : EntityType} (known : type ∈ schema.types) {roots others : List Instance}
    (alike : List.Forall₂ (Instance.Like schema secret) roots others) (paths : List String) :
    Parallel (Connected left right) (List.Forall₂ (Instance.Like schema secret)) (resolve schema type roots paths)
      (resolve schema type others paths) := by
  unfold resolve
  have front (tree : PathTree) : Front.Like schema secret ⟨type, roots, tree⟩ ⟨type, others, tree⟩ :=
    ⟨known, rfl, rfl, alike⟩
  have start : Progress.Like schema secret ⟨roots.map (·.identifier), []⟩ ⟨others.map (·.identifier), []⟩ :=
    ⟨identifiers_like alike, .nil⟩
  refine parallel_given fun _ _ => ?_
  exact (followLevels_parallel like apart reserved _ (.cons (front _) .nil) start).bind
    fun _ _ met => parallel_pure (List.rel_reverse met.included)

end

end Inclusion

/-! Rendering. -/

/-- Resources are written by default, without the attributes that are secret. -/
structure Assembler.Hides (assembler : Assembler) (schema : Schema) (secret : Secrets) : Prop where
  plain : ∀ name, assembler.serializer name = Serializer.default
  hidden : ∀ type ∈ schema.types, ∀ field ∈ type.attributes,
    (assembler.visibility type.name).exposes field.name → ¬secret type field.name

/-- Links of one relationship to resources that differ in secret attributes at most. -/
structure Assembler.LoadedLinks.Like (schema : Schema) (secret : Secrets) (links other : LoadedLinks) : Prop where
  type : links.type = other.type
  relationship : links.relationship = other.relationship
  links : links.links.Like schema secret other.links

section

variable {schema : Schema} {secret : Secrets} {assembler : Assembler} {fieldsets : Fieldsets}

theorem linkedTo_like {loaded loaded' : List Assembler.LoadedLinks}
    (alike : List.Forall₂ (Assembler.LoadedLinks.Like schema secret) loaded loaded')
    (type relationship owner : String) :
    List.Forall₂ (Instance.Like schema secret) (Assembler.linkedTo loaded type relationship owner)
      (Assembler.linkedTo loaded' type relationship owner) := by
  unfold Assembler.linkedTo
  induction alike with
  | nil => exact .nil
  | @cons entry entry' _ _ one _ ih =>
      rw [List.find?_cons, List.find?_cons, ← one.type, ← one.relationship]
      cases entry.type = type && entry.relationship = relationship
      · exact ih
      · exact links_of_like one.links owner

variable (hides : assembler.Hides schema secret)
include hides

theorem default_like {type : EntityType} (known : type ∈ schema.types) {resource other : Instance}
    (alike : Instance.Like schema secret resource other) (named : resource.type = type.name)
    (relationships : List (Relationship × Linkage)) :
    Serializer.default (assembler.rendered fieldsets type resource relationships) =
      Serializer.default (assembler.rendered fieldsets type other relationships) := by
  have id : resource.id = other.id := congrArg Identifier.id alike.identifier
  have attributes : Serializer.attributes (assembler.rendered fieldsets type resource relationships) =
      Serializer.attributes (assembler.rendered fieldsets type other relationships) := by
    refine mapM_congr fun field member => ?_
    obtain ⟨listed, shown⟩ := List.mem_filter.mp member
    have exposed := (Bool.and_eq_true_iff.mp shown).1
    have same := alike.values type known named field listed (hides.hidden type known field listed exposed)
    unfold Assembler.rendered
    dsimp only
    rw [same, alike.identifier]
  unfold Serializer.default
  rw [attributes]
  unfold Assembler.rendered
  rw [id]

theorem renderOne_like {loaded loaded' : List Assembler.LoadedLinks}
    (links : List.Forall₂ (Assembler.LoadedLinks.Like schema secret) loaded loaded') {resource other : Instance}
    (alike : Instance.Like schema secret resource other) :
    assembler.renderOne schema loaded fieldsets resource = assembler.renderOne schema loaded' fieldsets other := by
  have id : resource.id = other.id := congrArg Identifier.id alike.identifier
  have type : resource.type = other.type := congrArg Identifier.type alike.identifier
  unfold Assembler.renderOne
  rw [← type, ← alike.identifier]
  split
  · rfl
  · rename_i type found
    have known := List.mem_of_find?_eq_some found
    have named : type.name = resource.type := by simpa using List.find?_some found
    have shown (relationship : Relationship) :
        Linkage.ofTargets relationship (Assembler.linkedTo loaded type.name relationship.name resource.id) =
          Linkage.ofTargets relationship (Assembler.linkedTo loaded' type.name relationship.name other.id) := by
      rw [id]
      exact linkage_like (linkedTo_like links ..) relationship
    simp only [shown]
    rw [hides.plain]
    exact default_like hides known alike named.symm _

end

/-! Documents. -/

/-- Data of one kind, of resources that differ in secret attributes at most. -/
inductive PrimaryData.Like (schema : Schema) (secret : Secrets) : PrimaryData → PrimaryData → Prop
  | single {resource other : Option Instance} (alike : Option.Rel (Instance.Like schema secret) resource other) :
      PrimaryData.Like schema secret (.single resource) (.single other)
  | collection {resources others : List Instance}
      (alike : List.Forall₂ (Instance.Like schema secret) resources others) :
      PrimaryData.Like schema secret (.collection resources) (.collection others)

section

variable {schema : Schema} {secret : Secrets} {data other : PrimaryData} (alike : data.Like schema secret other)
include alike

theorem PrimaryData.Like.resources :
    List.Forall₂ (Instance.Like schema secret) data.resources other.resources := by
  cases alike with
  | collection alike => exact alike
  | single alike =>
      cases alike with
      | none => exact .nil
      | some one => exact .cons one .nil

theorem PrimaryData.Like.toJson (objects : List Json) : data.toJson objects = other.toJson objects := by
  cases alike <;> rfl

end

section

variable {schema : Schema} {secret : Secrets} {left right : Database}
  (like : left.Like (schema.cover secret) right) (apart : schema.Apart)
  (reserved : ∀ type ∈ schema.types, tableName type ≠ "rel_owner" ∧ tableName type ≠ "rel_link")
  {assembler : Assembler} {fieldsets : Fieldsets} {resources others : List Instance}
include like apart reserved

theorem loadLinks_parallel (alike : List.Forall₂ (Instance.Like schema secret) resources others) :
    Parallel (Connected left right) (List.Forall₂ (Assembler.LoadedLinks.Like schema secret))
      (assembler.loadLinks schema resources fieldsets) (assembler.loadLinks schema others fieldsets) := by
  unfold Assembler.loadLinks
  simp only [any_like alike]
  refine Parallel.bind (Parallel.mapM_same fun type member => ?_) fun _ _ loaded =>
    parallel_pure (List.rel_flatten loaded)
  have known := (List.mem_filter.mp member).1
  rw [ids_like (filter_like alike type.name)]
  refine Parallel.mapM_same fun relationship member => ?_
  have own := (List.mem_filter.mp member).1
  exact ((loadRelation_parallel like apart known reserved own _).mapError _).bind fun _ _ links =>
    parallel_pure ⟨rfl, rfl, links⟩

variable (hides : assembler.Hides schema secret)
include hides

theorem render_parallel (alike : List.Forall₂ (Instance.Like schema secret) resources others) :
    Parallel (Connected left right) Eq (assembler.render schema resources fieldsets)
      (assembler.render schema others fieldsets) := by
  unfold Assembler.render
  refine (loadLinks_parallel like apart reserved alike).bind fun loaded loaded' links => parallel_pure ?_
  congr 1
  rw [← List.forall₂_eq_eq_eq, List.forall₂_map_left_iff, List.forall₂_map_right_iff]
  exact alike.imp fun _ _ one => renderOne_like hides links one

/-- Documents are assembled alike of resources that differ in secret attributes. -/
theorem assemble_parallel {data other : PrimaryData} (alike : data.Like schema secret other)
    {included included' : Option (List Instance)}
    (besides : Option.Rel (List.Forall₂ (Instance.Like schema secret)) included included') (page : Option Paging.Page)
    (url : Url) :
    Parallel (Connected left right) Eq (assembler.assemble schema data included page url fieldsets)
      (assembler.assemble schema other included' page url fieldsets) := by
  rw [Assembler.assemble_eq, Assembler.assemble_eq]
  refine (render_parallel like apart reserved hides alike.resources).bind ?_
  rintro primary _ rfl
  have rendered : Parallel (Connected left right) Eq (assembler.renderIncluded schema fieldsets included)
      (assembler.renderIncluded schema fieldsets included') := by
    cases besides with
    | none => exact parallel_pure rfl
    | some besides =>
        refine (render_parallel like apart reserved hides besides).bind ?_
        rintro objects _ rfl
        exact parallel_pure rfl
  refine rendered.bind ?_
  rintro others _ rfl
  rw [alike.toJson]
  by_cases written : (primary.2 ++ others.2).isEmpty
  · rw [if_pos written]
    exact parallel_pure rfl
  · rw [if_neg written]
    exact parallel_throw _

end

end ResourceServer
