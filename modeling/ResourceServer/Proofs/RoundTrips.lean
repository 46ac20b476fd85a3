import ResourceServer.Api.Body
import ResourceServer.Proofs.IdleLinkage
import ResourceServer.Proofs.PartialRendering
import ResourceServer.Proofs.PlainRequests

/-! What is written of resources reads back as what was stored. -/

namespace ResourceServer

open ResourceServer.Store ResourceServer.Mapping ResourceServer.Api

theorem FieldType.ofJson_toJson {type : FieldType} (whole : type ≠ .duration) {cell : Cell}
    (stored : type.stores cell) {value : Value} (valued : valueOf type cell = .ok value) {json : Json}
    (written : value.toJson? = some json) :
    ∃ again, type.ofJson? json = some again ∧ cellOf again = cell := by
  have reread (exact : type.Exact) (given : cell ≠ .null) := FieldType.stores_reread exact stored given valued
  unfold FieldType.stores at stored
  split at stored
  · have none : value = .null := by
      cases type <;> exact (Except.ok.inj valued).symm
    subst none
    cases written
    exact ⟨.null, by cases type <;> rfl, rfl⟩
  · cases valued
    cases written
    exact ⟨_, rfl, rfl⟩
  · obtain ⟨read, same⟩ := reread ⟨nofun, nofun⟩ nofun
    cases valued
    cases written
    exact ⟨_, read, same⟩
  · cases valued
    cases written
    refine ⟨.integer _, ?_, rfl⟩
    simp [FieldType.ofJson?, Json.integer?, stored]
  · -- A number that is not finite has no JSON form.
    cases valued
    unfold Value.toJson? Json.ofBinary64? at written
    dsimp only at written
    split at written
    · cases written
      exact ⟨_, rfl, rfl⟩
    · cases written
  · cases valued
    cases written
    exact ⟨_, rfl, rfl⟩
  · obtain ⟨read, same⟩ := reread ⟨nofun, nofun⟩ nofun
    cases valued
    cases written
    exact ⟨_, read, same⟩
  · obtain ⟨read, same⟩ := reread ⟨nofun, nofun⟩ nofun
    cases valued
    cases written
    exact ⟨_, read, same⟩
  · obtain ⟨read, same⟩ := reread ⟨nofun, nofun⟩ nofun
    cases valued
    cases written
    exact ⟨_, read, same⟩
  · exact absurd rfl whole
  · cases stored

theorem Linkage.ofJson_toJson {relationship : Relationship} {linkage : Linkage}
    (kind : linkage.isToMany = relationship.isToMany)
    (types : ∀ target ∈ linkage.identifiers, target.type = relationship.target) :
    Linkage.ofJson relationship linkage.toJson = .ok linkage := by
  have each (target : Identifier) (named : target.type = relationship.target) :
      Identifier.ofJson relationship target.toJson = .ok target := by
    have fits : ¬target.type ≠ relationship.target := not_not.mpr named
    simp [Identifier.ofJson, Identifier.toJson, Json.get?, Keyed.get?, List.lookup_cons, Json.string?,
      Identifier.idText?, fits]
  unfold Linkage.ofJson
  rw [← kind]
  cases linkage with
  | toOne target =>
      cases target with
      | none => rfl
      | some target =>
          have one := each target (types target (by simp [Linkage.identifiers]))
          change (Identifier.ofJson relationship target.toJson).map _ = _
          rw [one]
          rfl
  | toMany targets =>
      change ((targets.map Identifier.toJson).mapM (Identifier.ofJson relationship)).map toMany = _
      have all : targets.mapM (Identifier.ofJson relationship ∘ Identifier.toJson) = .ok (targets.map id) :=
        mapM_ok id fun target member => each target (types target member)
      rw [List.mapM_map, all, List.map_id]
      rfl

section

variable {schema : Schema} {type : EntityType} {record : Record} {resource : Instance}

theorem readFields_get {fields : List Field} (distinct : (fields.map Field.name).Nodup)
    {values : Keyed Value}
    (read : readFields fields (fields.map fun field => record (columnName field.name)) = .ok values)
    {field : Field} (own : field ∈ fields) :
    ∃ value, valueOf field.type (record (columnName field.name)) = .ok value ∧
      values.get? field.name = some value := by
  induction fields generalizing values with
  | nil => cases own
  | cons first rest ih =>
      obtain ⟨value, valued, read⟩ := bind_ok read
      obtain ⟨others, remaining, same⟩ := bind_ok read
      cases same
      rcases List.mem_cons.mp own with rfl | later
      · exact ⟨value, valued, List.lookup_cons_self⟩
      · obtain ⟨given, valued', found⟩ := ih (List.nodup_cons.mp distinct).2 remaining later
        refine ⟨given, valued', ?_⟩
        have apart : field.name ≠ first.name := fun same =>
          (List.nodup_cons.mp distinct).1 (same ▸ List.mem_map_of_mem later)
        unfold Keyed.get? at found ⊢
        rw [List.lookup_cons, beq_eq_false_iff_ne.mpr apart]
        exact found

variable {rendered : Rendered} {json : Json}

theorem innerMembers_shown {name : String} {members : List (String × Json)}
    (held : json.get? name = (if members.isEmpty then none else some (.ofMembers members))) :
    innerMembers json name = .ok (Keyed.ofList members) := by
  unfold innerMembers
  rw [held]
  cases members <;> rfl

theorem attributes_shown {attributes : List (String × Json)}
    (written : Serializer.attributes rendered = .ok attributes) {entry : String × Json}
    (member : entry ∈ attributes) :
    ∃ field ∈ rendered.type.attributes, field.name = entry.1 ∧
      ((rendered.resource.get? field.name).getD .null).toJson? = some entry.2 := by
  obtain ⟨field, shown, one⟩ := mem_of_forall₂ (mapM_forall₂ written).flip member
  refine ⟨field, (List.mem_filter.mp shown).1, ?_⟩
  split at one
  · cases one
    exact ⟨rfl, by assumption⟩
  · cases one

theorem readAttributes_shown (formed : schema.Formed) (known : type ∈ schema.types)
    (stored : ∀ field ∈ type.fields, field.type.stores (record (columnName field.name)))
    (whole : ∀ field ∈ type.attributes, field.type ≠ .duration)
    (read : readRecord type record = .ok resource) (typed : rendered.type = type)
    (about : rendered.resource = resource) (written : Serializer.default rendered = .ok json) :
    ∃ values, readAttributes type json = .ok values ∧ ∀ entry ∈ values, ∃ field ∈ type.attributes,
      field.name = entry.1 ∧ cellOf entry.2 = record (columnName field.name) := by
  subst typed about
  obtain ⟨attributes, listed, _, _, held, _⟩ := default_members written
  have distinct := formed.members rendered.type known
  rw [EntityType.memberNames, List.nodup_append] at distinct
  obtain ⟨given, fields, same⟩ := map_ok read
  have each : ∀ entry ∈ Keyed.ofList attributes, ∃ value, readAttribute rendered.type entry = .ok value ∧
      ∃ field ∈ rendered.type.attributes, field.name = value.1 ∧
        cellOf value.2 = record (columnName field.name) := by
    rintro ⟨name, written⟩ member
    obtain ⟨field, own, rfl, shown⟩ := attributes_shown listed (Keyed.mem_ofList member)
    have inside : field ∈ rendered.type.fields := List.mem_cons_of_mem _ own
    obtain ⟨value, valued, found⟩ := readFields_get distinct.1 fields inside
    have present : rendered.resource.get? field.name = some value := same ▸ found
    rw [present] at shown
    obtain ⟨again, reread, stored⟩ :=
      FieldType.ofJson_toJson (whole field own) (stored field inside) valued shown
    refine ⟨(field.name, again), ?_, field, own, rfl, stored⟩
    unfold readAttribute
    dsimp only
    rw [find_unique Field.name (List.nodup_cons.mp distinct.1).2 own]
    dsimp only
    rw [reread]
  obtain ⟨values, all⟩ := mapM_succeeds fun entry member => (each entry member).imp fun _ made => made.1
  refine ⟨values, bind_of_ok (innerMembers_shown held) all, fun value member => ?_⟩
  obtain ⟨entry, inside, made⟩ := mem_of_forall₂ (mapM_forall₂ all).flip member
  obtain ⟨value', made', own⟩ := each entry inside
  cases made.symm.trans made'
  exact own

theorem relationship_data (url : String) (entry : Relationship × Linkage) :
    (Serializer.relationship url entry).2.get? "data" = some entry.2.toJson := by
  simp [Serializer.relationship, Json.get?, Keyed.get?]

theorem readRelationships_shown (formed : schema.Formed) (known : rendered.type ∈ schema.types)
    (fits : ∀ entry ∈ rendered.relationships, entry.1 ∈ rendered.type.relationships ∧
      entry.2.isToMany = entry.1.isToMany ∧ ∀ target ∈ entry.2.identifiers, target.type = entry.1.target)
    (written : Serializer.default rendered = .ok json) :
    ∃ linkages, readRelationships rendered.type json = .ok linkages ∧
      ∀ entry ∈ linkages, entry ∈ rendered.relationships := by
  obtain ⟨_, _, _, _, _, held, _⟩ := default_members written
  have shown : innerMembers json "relationships" =
      .ok (Keyed.ofList (rendered.relationships.map (Serializer.relationship rendered.url))) :=
    innerMembers_shown (by rw [held, List.isEmpty_map])
  have each : ∀ member ∈ Keyed.ofList (rendered.relationships.map (Serializer.relationship rendered.url)),
      ∃ entry, readRelationship rendered.type member = .ok entry ∧ entry ∈ rendered.relationships := by
    intro member inside
    obtain ⟨entry, among, rfl⟩ := List.mem_map.mp (Keyed.mem_ofList inside)
    obtain ⟨own, kind, types⟩ := fits entry among
    refine ⟨entry, ?_, among⟩
    have named : (Serializer.relationship rendered.url entry).1 = entry.1.name := rfl
    unfold readRelationship
    dsimp only
    rw [named, formed.owns known own]
    dsimp only
    rw [relationship_data]
    dsimp only
    rw [Linkage.ofJson_toJson kind types]
    rfl
  obtain ⟨linkages, all⟩ := mapM_succeeds fun member inside => (each member inside).imp fun _ made => made.1
  refine ⟨linkages, bind_of_ok shown all, fun entry member => ?_⟩
  obtain ⟨json, inside, made⟩ := mem_of_forall₂ (mapM_forall₂ all).flip member
  obtain ⟨entry', made', among⟩ := each json inside
  cases made.symm.trans made'
  exact among

end

/-! The links that the objects of some resources show are those that are loaded for them. -/

/-- The identities of those of some resources that are of one type. -/
def idsOf (type : EntityType) (resources : List Instance) : List String :=
  (resources.filter fun resource => resource.type = type.name).map Instance.id

/-- The links of one relationship, as they are loaded for some owners. -/
structure LoadedFor (schema : Schema) (database : Database) (type : EntityType) (owners : List String)
    (relationship : Relationship) (entry : Assembler.LoadedLinks) : Prop where
  typed : entry.type = type.name
  named : entry.relationship = relationship.name
  loads : Runs database (SourceAction.reading (loadRelation schema type relationship owners)) entry.links

section

variable {schema : Schema} {database : Database} {assembler : Assembler} {fieldsets : Fieldsets}
  {type target : EntityType} {relationship : Relationship} {resource : Instance}
  {resources : List Instance} {loaded : List Assembler.LoadedLinks}

theorem runs_loadLinks_each
    (run : Runs database (assembler.loadLinks schema resources fieldsets) loaded) :
    ∃ groups, loaded = groups.flatten ∧
      List.Forall₂ (fun type group => List.Forall₂
          (LoadedFor schema database type (idsOf type resources))
          (assembler.shownRelationships type fieldsets) group)
        (schema.types.filter fun type => resources.any fun resource => resource.type = type.name)
        groups := by
  unfold Assembler.loadLinks at run
  have stepKeeps (type : EntityType) (owners : List String) (relationship : Relationship) :
      Keeps Connection.stored (do
        let links ← SourceAction.reading (loadRelation schema type relationship owners)
        return (⟨type.name, relationship.name, links⟩ : Assembler.LoadedLinks)) :=
    keeps_bind (reading_keeps (loadRelation_keeps ..)) fun _ => keeps_pure _
  obtain ⟨groups, loaded', same⟩ := runs_bind (keeps_mapM fun type =>
    keeps_mapM fun _ => stepKeeps type _ _) run
  refine ⟨groups, runs_pure same, ?_⟩
  refine (runs_mapM (fun _ => keeps_mapM fun _ => stepKeeps _ _ _) loaded').imp fun type group read => ?_
  refine (runs_mapM (fun _ => stepKeeps type _ _) read).imp fun relationship entry one => ?_
  obtain ⟨links, read, same⟩ := runs_bind (reading_keeps (loadRelation_keeps ..)) one
  cases runs_pure same
  exact ⟨rfl, rfl, read⟩

theorem linkedTo_loaded (formed : schema.Formed)
    (run : Runs database (assembler.loadLinks schema resources fieldsets) loaded)
    (known : type ∈ schema.types) (member : resource ∈ resources) (typed : resource.type = type.name)
    (shown : relationship ∈ assembler.shownRelationships type fieldsets) :
    ∃ links, Runs database (SourceAction.reading
        (loadRelation schema type relationship (idsOf type resources))) links ∧
      ∀ owner, Assembler.linkedTo loaded type.name relationship.name owner = links.of owner := by
  obtain ⟨groups, rfl, each⟩ := runs_loadLinks_each run
  have among : type ∈ schema.types.filter fun type =>
      resources.any fun resource => resource.type = type.name :=
    List.mem_filter.mpr ⟨known, List.any_eq_true.mpr ⟨resource, member, decide_eq_true typed⟩⟩
  obtain ⟨group, among, ofType⟩ := mem_of_forall₂ each among
  obtain ⟨entry, inside, one⟩ := mem_of_forall₂ ofType shown
  have present : entry ∈ groups.flatten := List.mem_flatten.mpr ⟨group, among, inside⟩
  unfold Assembler.linkedTo
  cases found : groups.flatten.find? fun entry =>
      entry.type = type.name && entry.relationship = relationship.name with
  | none =>
      have missing := List.find?_eq_none.mp found entry present
      simp [one.typed, one.named] at missing
  | some entry' =>
      have same := List.find?_some found
      simp only [Bool.and_eq_true, decide_eq_true_eq] at same
      obtain ⟨group', among', inside'⟩ := List.mem_flatten.mp (List.mem_of_find?_eq_some found)
      obtain ⟨type', present', ofType'⟩ := mem_of_forall₂ each.flip among'
      obtain ⟨relationship', shown', one'⟩ := mem_of_forall₂ (List.Forall₂.flip ofType') inside'
      have known' := (List.mem_filter.mp present').1
      obtain rfl : type' = type := List.inj_on_of_nodup_map formed.names known' known
        (one'.typed.symm.trans same.1)
      have own' := formed.owns known' (Assembler.shownRelationships_own shown')
      have own := formed.owns known' (Assembler.shownRelationships_own shown)
      rw [one'.named.symm.trans same.2] at own'
      cases own'.symm.trans own
      exact ⟨entry'.links, one'.loads, fun _ => rfl⟩

theorem idsOf_single (typed : resource.type = type.name) : idsOf type [resource] = [resource.id] := by
  simp [idsOf, typed]

def LoadsOne (schema : Schema) (type : EntityType) (relationship : Relationship)
    (connection : Connection) (owner : String) : Prop :=
  ∀ id other, Loads schema type relationship connection owner id →
    Loads schema type relationship connection owner other → id = other

theorem identifiers_ofTargets (relationship : Relationship) (targets : List Instance)
    (one : relationship.isToMany = false →
      ∀ first ∈ targets, ∀ other ∈ targets, first.identifier = other.identifier)
    (identifier : Identifier) :
    identifier ∈ (Linkage.ofTargets relationship targets).identifiers ↔
      identifier ∈ targets.map Instance.identifier := by
  unfold Linkage.ofTargets
  cases kind : relationship.isToMany with
  | true => rfl
  | false =>
      cases targets with
      | nil => rfl
      | cons first rest =>
          have same : ∀ other ∈ rest, other.identifier = first.identifier := fun other member =>
            one kind other (List.mem_cons_of_mem _ member) first List.mem_cons_self
          simp only [Bool.false_eq_true, ↓reduceIte, List.head?_cons, Option.map_some, Linkage.identifiers,
            Option.toList_some, List.map_cons, List.mem_cons, List.mem_map, List.not_mem_nil, or_false]
          refine ⟨.inl, ?_⟩
          rintro (rfl | ⟨other, member, rfl⟩)
          · rfl
          · exact same other member

theorem Coherent.accessible (coherent : Coherent schema database) (separate : schema.Separate) :
    Accessible schema database :=
  ⟨separate.formed, separate.columns, separate.reserved, coherent.stocked.housed.shaped separate⟩

/-- The linkage of what is loaded for an owner shows the owner's links. -/
theorem shows_loaded {connection : Connection} (separate : schema.Separate)
    (coherent : Coherent schema connection.database) (relates : schema.Relates type relationship target)
    {owner : String}
    (one : relationship.isToMany = false → LoadsOne schema type relationship connection owner)
    {links : Links}
    (loaded : (execute (loadRelation schema type relationship [owner]) connection).1 = .ok links) :
    ShowsLinks schema type relationship connection owner
      (.ofTargets relationship (links.of owner)) := by
  have accessible := coherent.accessible separate
  have typed : ∀ resource ∈ links.of owner, resource.identifier.type = relationship.target := by
    intro resource member
    obtain ⟨_, _, loads⟩ := (mem_links accessible relates loaded _).mp (mem_linksOf.mp member)
    obtain ⟨record, _, read⟩ := loads.stored
    exact (readRecord_type read).trans relates.named
  have loads (id : String) : Loads schema type relationship connection owner id ↔
      id ∈ (links.of owner).map Instance.id := by
    unfold Loads loadedTargets
    rw [loaded]
    simp [Except.map]
  have same : relationship.isToMany = false → ∀ first ∈ links.of owner, ∀ other ∈ links.of owner,
      first.identifier = other.identifier := by
    intro kind first member other member'
    have ids := one kind first.id other.id ((loads _).mpr (List.mem_map_of_mem member))
      ((loads _).mpr (List.mem_map_of_mem member'))
    exact congrArg₂ Identifier.mk ((typed first member).trans (typed other member').symm) ids
  have shown := identifiers_ofTargets relationship (links.of owner) same
  refine ⟨?_, fun identifier member => ?_, fun id => (loads id).trans ?_⟩
  · unfold Linkage.ofTargets
    cases relationship.isToMany <;> rfl
  · obtain ⟨resource, inside, rfl⟩ := List.mem_map.mp ((shown identifier).mp member)
    exact typed resource inside
  · simp only [List.mem_map, shown, exists_exists_and_eq_and]
    rfl

end

end ResourceServer
