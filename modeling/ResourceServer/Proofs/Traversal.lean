import ResourceServer.Proofs.Atomicity
import ResourceServer.Proofs.Occurrences
import ResourceServer.Proofs.Paths

/-! Following relationships level by level: which resources are met, and in which order. -/

namespace ResourceServer

open ResourceServer.Store ResourceServer.Mapping ResourceServer.Inclusion

def LinkedTo (database : Database) (type target : EntityType) (storage : Storage) (owner : String)
    (other : Instance) : Prop :=
  ∃ record ∈ database.records (tableName target), readRecord target record = .ok other ∧
    ∃ cell ∈ ownerCells database type target storage record, cell ≠ .null ∧
      (valueOf type.identity.type cell).map Value.text = .ok owner

instance (database : Database) (type target : EntityType) (storage : Storage) (owner : String)
    (other : Instance) : Decidable (LinkedTo database type target storage owner other) :=
  inferInstanceAs (Decidable (∃ _ ∈ _, _ ∧ ∃ _ ∈ _, _))

/-- A text is the key to the links of a resource: it spells just those stored identities of owners that are written
as that text. -/
def KeyedBy (schema : Schema) (database : Database) (type : EntityType) (id : String) : Prop :=
  ∀ relationship target, schema.Relates type relationship target →
    ∀ record ∈ database.records (tableName target),
      ∀ cell ∈ ownerCells database type target relationship.storage record, cell ≠ .null →
        ((valueOf type.identity.type cell).map Value.text = .ok id ↔
          ∃ asked ∈ idCell? type id, cell.agrees asked = true)

/-- The links of all stored resources are kept under the texts that the resources are written with. -/
def RenderedAlike (schema : Schema) (database : Database) : Prop :=
  ∀ type ∈ schema.types, ∀ id, IsStored database type id → KeyedBy schema database type id

/-- A database from which the links of a schema that is accepted can be loaded. It has tables of the shape of the
schema; no type is called like one of the two tables of the statement that loads links, which would take its columns
for theirs; and all fields hold values of their types, since one that does not fails the whole statement. Key columns
may hold any values: what is no identity of an owner is not loaded. -/
structure Loadable (schema : Schema) (database : Database) : Prop where
  valid : ∃ types, Schema.ofTypes types = .ok schema
  reserved : ∀ type ∈ schema.types, tableName type ≠ "rel_owner" ∧ tableName type ≠ "rel_link"
  shaped : Shaped schema database
  typed : FieldsTyped schema database

/-- A path of relationships, with at least one segment, leads from a resource of a type to another resource. -/
inductive Reaches (schema : Schema) (database : Database) :
    EntityType → String → List String → Identifier → Prop
  | last {type target : EntityType} {name owner : String} {relationship : Relationship}
      {other : Instance} (found : findRelationship schema type name = .ok (relationship, target))
      (link : LinkedTo database type target relationship.storage owner other) :
      Reaches schema database type owner [name] other.identifier
  | step {type target : EntityType} {name owner : String} {path : List String}
      {relationship : Relationship} {other : Instance} {far : Identifier}
      (found : findRelationship schema type name = .ok (relationship, target))
      (link : LinkedTo database type target relationship.storage owner other)
      (later : Reaches schema database target other.id path far) :
      Reaches schema database type owner (name :: path) far

section

variable {schema : Schema} {type target : EntityType} {relationship : Relationship}

theorem Loadable.formed {database : Database} (loadable : Loadable schema database) : schema.Formed :=
  loadable.valid.elim fun _ accepted => ofTypes_formed accepted

theorem readLink_iff {cell : Cell} {record : Record} {owner : String}
    {other : Instance} :
    readLink type target (cell :: fieldRow target record) = .ok (owner, other) ↔
      (valueOf type.identity.type cell).map Value.text = .ok owner ∧
        readRecord target record = .ok other := by
  constructor
  · intro read
    obtain ⟨value, valued, read⟩ := bind_ok read
    obtain ⟨resource, reads, same⟩ := bind_ok read
    cases same
    rw [valued]
    exact ⟨rfl, reads⟩
  · rintro ⟨written, reads⟩
    obtain ⟨value, valued, rfl⟩ := map_ok written
    exact readLink_ok valued reads

theorem given_of_agrees {left right : Cell} (agree : left.agrees right = true) : left ≠ .null := by
  rintro rfl
  cases (Cell.agrees_null right).symm.trans (Cell.agrees_symm agree)

theorem loadRelation_links {connection : Connection} (loadable : Loadable schema connection.database)
    (known : type ∈ schema.types) {name : String}
    (found : findRelationship schema type name = .ok (relationship, target)) {owners : List String}
    (keyed : ∀ owner ∈ owners, KeyedBy schema connection.database type owner) :
    ∃ links after,
      execute (loadRelation schema type relationship owners) connection = (.ok links, after) ∧
        after.database = connection.database ∧ ∀ owner ∈ owners, ∀ other,
          other ∈ links.of owner ↔
            LinkedTo connection.database type target relationship.storage owner other := by
  obtain ⟨relates, named⟩ := findRelationship_relates known found
  obtain rfl := relationship?_name named
  have readable : ∃ links, (loadedRows connection.database type target relationship.storage
      (idCells type owners)).mapM (readLink type target) = .ok links := by
    apply mapM_succeeds
    intro row member
    obtain ⟨record, inside, cell, stored, rfl, agrees⟩ := mem_loadedRows.mp member
    obtain ⟨key, asked, agree⟩ := List.any_eq_true.mp agrees
    obtain ⟨owner, given, spelled⟩ := List.mem_filterMap.mp asked
    -- What agrees with an identity that is asked for is written as the identity.
    have written := (keyed owner given relationship target relates record inside cell stored
      (given_of_agrees agree)).mpr ⟨key, spelled, agree⟩
    obtain ⟨other, reads⟩ := readRecord_ok (loadable.typed target relates.known' record inside)
    exact ⟨_, readLink_iff.mpr ⟨written, reads⟩⟩
  obtain ⟨links, read⟩ := readable
  have loaded := execute_loadRelation loadable.shaped
    (loadable.reserved target relates.known') known relates.own found rfl owners
  have kept := congrArg Prod.fst
    ((loadRelation_keeps schema type relationship owners).same connection)
  refine ⟨links, _, Prod.ext (loaded.trans read) rfl, kept, fun owner asked other => ?_⟩
  have all := mapM_forall₂ read
  have listed : other ∈ Links.of links owner ↔ (owner, other) ∈ links := by
    unfold Links.of
    simp
  rw [listed]
  constructor
  · intro among
    obtain ⟨row, member, made⟩ := mem_of_forall₂ all.flip among
    obtain ⟨record, inside, cell, stored, rfl, agrees⟩ := mem_loadedRows.mp member
    obtain ⟨written, reads⟩ := readLink_iff.mp made
    obtain ⟨key, _, agree⟩ := List.any_eq_true.mp agrees
    exact ⟨record, inside, reads, cell, stored, given_of_agrees agree, written⟩
  · rintro ⟨record, inside, reads, cell, stored, given, written⟩
    obtain ⟨key, spelled, agrees⟩ :=
      (keyed owner asked relationship target relates record inside cell stored given).mp written
    have row : cell :: fieldRow target record ∈
        loadedRows connection.database type target relationship.storage (idCells type owners) := by
      refine mem_loadedRows.mpr ⟨record, inside, cell, stored, rfl, List.any_eq_true.mpr ?_⟩
      exact ⟨key, List.mem_filterMap.mpr ⟨owner, asked, spelled⟩, agrees⟩
    obtain ⟨link, among, made⟩ := mem_of_forall₂ all row
    cases (readLink_iff.mpr ⟨written, reads⟩).symm.trans made
    exact among

end

namespace Inclusion

structure Front.Sound (schema : Schema) (database : Database) (front : Front) : Prop where
  known : front.type ∈ schema.types
  keyed : ∀ resource ∈ front.resources, KeyedBy schema database front.type resource.id

def ReachedAt (schema : Schema) (database : Database) (fronts : List Front) (length : Nat)
    (far : Identifier) : Prop :=
  ∃ front ∈ fronts, ∃ resource ∈ front.resources, ∃ path, path.length = length ∧
    front.tree.Has path ∧ Reaches schema database front.type resource.id path far

/-- What is met of some news: those of them that were not met before are included, each once. -/
structure Visits (before after : Progress) (news : Identifier → Prop) (fresh : List Instance) :
    Prop where
  included : after.included = fresh.reverse ++ before.included
  met : ∀ far, far ∈ after.met ↔ far ∈ before.met ∨ news far
  once : (fresh.map (·.identifier)).Nodup
  members : ∀ far, far ∈ fresh.map (·.identifier) ↔ far ∉ before.met ∧ news far

theorem Visits.none (progress : Progress) {news : Identifier → Prop} (without : ∀ far, ¬news far) :
    Visits progress progress news [] :=
  ⟨rfl, fun far => (or_iff_left (without far)).symm, .nil, fun far => by simp [without far]⟩

theorem Visits.trans {before middle after : Progress} {news news' : Identifier → Prop}
    {fresh fresh' : List Instance} (first : Visits before middle news fresh)
    (second : Visits middle after news' fresh') :
    Visits before after (fun far => news far ∨ news' far) (fresh ++ fresh') := by
  refine ⟨?_, fun far => ?_, ?_, fun far => ?_⟩
  · rw [second.included, first.included, List.reverse_append, List.append_assoc]
  · rw [second.met, first.met, or_assoc]
  · rw [List.map_append]
    refine first.once.append second.once fun far one other => ?_
    have met := (first.met far).mpr (.inr ((first.members far).mp one).2)
    exact ((second.members far).mp other).1 met
  · rw [List.map_append, List.mem_append, first.members, second.members, first.met]
    tauto

theorem Visits.congr {before after : Progress} {news news' : Identifier → Prop}
    {fresh : List Instance} (visits : Visits before after news fresh)
    (same : ∀ far, news far ↔ news' far) : Visits before after news' fresh := by
  obtain rfl : news = news' := funext fun far => propext (same far)
  exact visits

theorem visit_visits (progress : Progress) (resource : Instance) :
    ∃ fresh, Visits progress (progress.visit resource) (resource.identifier = ·) fresh := by
  unfold Progress.visit
  split
  · rename_i known
    have met := List.contains_iff_mem.mp known
    refine ⟨[], rfl, fun far => (or_iff_left_of_imp ?_).symm, .nil, fun far => ?_⟩
    · rintro rfl
      exact met
    · refine iff_of_false List.not_mem_nil ?_
      rintro ⟨fresh, rfl⟩
      exact fresh met
  · rename_i unknown
    have fresh : resource.identifier ∉ progress.met := fun met =>
      unknown (List.contains_iff_mem.mpr met)
    refine ⟨[resource], rfl, fun far => ?_, List.nodup_singleton _, fun far => ?_⟩
    · rw [List.mem_cons, or_comm, eq_comm]
    · rw [List.map_singleton, List.mem_singleton]
      constructor
      · rintro rfl
        exact ⟨fresh, rfl⟩
      · rintro ⟨_, rfl⟩
        rfl

theorem visits_all (resources : List Instance) (progress : Progress) :
    ∃ fresh, Visits progress (resources.foldl Progress.visit progress)
      (fun far => ∃ resource ∈ resources, resource.identifier = far) fresh := by
  induction resources generalizing progress with
  | nil => exact ⟨[], .none progress (by simp)⟩
  | cons resource rest ih =>
      obtain ⟨first, one⟩ := visit_visits progress resource
      obtain ⟨others, later⟩ := ih (progress.visit resource)
      exact ⟨first ++ others, (one.trans later).congr fun far => by simp⟩

theorem mem_distinct {seen : List Identifier} {resources : List Instance} {resource : Instance}
    (member : resource ∈ distinct seen resources) : resource ∈ resources := by
  induction resources generalizing seen with
  | nil => cases member
  | cons first rest ih =>
      unfold distinct at member
      split at member
      · exact List.mem_cons_of_mem _ (ih member)
      · rcases List.mem_cons.mp member with rfl | inside
        · exact List.mem_cons_self
        · exact List.mem_cons_of_mem _ (ih inside)

theorem distinct_covers {seen : List Identifier} {resources : List Instance} {resource : Instance}
    (member : resource ∈ resources) (unseen : resource.identifier ∉ seen) :
    ∃ other ∈ distinct seen resources, other.identifier = resource.identifier := by
  induction resources generalizing seen with
  | nil => cases member
  | cons first rest ih =>
      unfold distinct
      by_cases same : first.identifier = resource.identifier
      · rw [if_neg (by simpa [same] using unseen)]
        exact ⟨first, List.mem_cons_self, same⟩
      · have inside : resource ∈ rest := by
          rcases List.mem_cons.mp member with rfl | inside
          · exact absurd rfl same
          · exact inside
        split
        · exact ih inside unseen
        · obtain ⟨other, among, equal⟩ := ih inside
            (List.not_mem_cons_of_ne_of_not_mem (Ne.symm same) unseen)
          exact ⟨other, List.mem_cons_of_mem _ among, equal⟩

end Inclusion

section

variable {schema : Schema} {database : Database}

theorem targetOf?_found (formed : schema.Formed) {type target : EntityType}
    (known : type ∈ schema.types) {name : String} {relationship : Relationship}
    (found : findRelationship schema type name = .ok (relationship, target)) :
    schema.targetOf? type.name name = some target := by
  have itself : schema.type? type.name = some type := find_unique EntityType.name formed.names known
  have step := PathTree.check_step schema type name
  rw [found] at step
  unfold Schema.targetOf?
  rw [itself]
  exact step

def Spreads (schema : Schema) (database : Database)
    (step : Progress → SourceAction (Progress × List Front)) (news : Identifier → Prop)
    (later : Nat → Identifier → Prop) : Prop :=
  ∀ progress connection, connection.database = database → ∃ after progress' next fresh,
    execute (step progress) connection = (.ok (progress', next), after) ∧
      after.database = database ∧ Visits progress progress' news fresh ∧
      (∀ front ∈ next, front.Sound schema database) ∧
      ∀ length far, 0 < length → (ReachedAt schema database next length far ↔ later length far)

theorem spreads_nothing {news : Identifier → Prop} {later : Nat → Identifier → Prop}
    (without : ∀ far, ¬news far) (ends : ∀ length far, ¬later length far) :
    Spreads schema database (fun progress => pure (progress, [])) news later :=
  fun progress connection here =>
    ⟨connection, progress, [], [], rfl, here, .none progress without, nofun, fun length far _ =>
      iff_of_false (by simp [ReachedAt]) (ends length far)⟩

theorem reachedAt_append (fronts more : List Front) (length : Nat) (far : Identifier) :
    ReachedAt schema database (fronts ++ more) length far ↔
      ReachedAt schema database fronts length far ∨ ReachedAt schema database more length far := by
  simp only [ReachedAt, List.mem_append, or_and_right, exists_or]

theorem spreads_foldlM {α : Type} (items : List α)
    (step : α → Progress → SourceAction (Progress × List Front)) {news : α → Identifier → Prop}
    {later : α → Nat → Identifier → Prop}
    (each : ∀ item ∈ items, Spreads schema database (step item) (news item) (later item)) :
    Spreads schema database
      (fun progress => items.foldlM (fun (progress, fronts) item => do
        let (progress, more) ← step item progress
        return (progress, fronts ++ more)) (progress, []))
      (fun far => ∃ item ∈ items, news item far)
      fun length far => ∃ item ∈ items, later item length far := by
  have gathered (items : List α)
      (each : ∀ item ∈ items, Spreads schema database (step item) (news item) (later item))
      (start : List Front) :
      ∀ progress connection, connection.database = database → ∃ after progress' next fresh,
        execute (items.foldlM (fun (progress, fronts) item => do
            let (progress, more) ← step item progress
            return (progress, fronts ++ more)) (progress, start)) connection =
          (.ok (progress', start ++ next), after) ∧
        after.database = database ∧
        Visits progress progress' (fun far => ∃ item ∈ items, news item far) fresh ∧
        (∀ front ∈ next, front.Sound schema database) ∧
        ∀ length far, 0 < length → (ReachedAt schema database next length far ↔
          ∃ item ∈ items, later item length far) := by
    induction items generalizing start with
    | nil =>
        intro progress connection here
        refine ⟨connection, progress, [], [], ?_, here, .none progress (by simp), nofun, ?_⟩
        · rw [List.append_nil]
          rfl
        · simp [ReachedAt]
    | cons item rest ih =>
        intro progress connection here
        obtain ⟨middle, progress', more, fresh, run, kept, visits, sound, further⟩ :=
          each item List.mem_cons_self progress connection here
        obtain ⟨after, progress'', next, fresh', run', kept', visits', sound', further'⟩ :=
          ih (fun other member => each other (List.mem_cons_of_mem _ member)) (start ++ more)
            progress' middle kept
        refine ⟨after, progress'', more ++ next, fresh ++ fresh', ?_, kept',
          (visits.trans visits').congr fun far => by simp, fun front member => ?_,
          fun length far positive => ?_⟩
        · rw [List.foldlM_cons, execute_bind, execute_bind, run]
          dsimp only
          rw [execute_pure, ← List.append_assoc]
          exact run'
        · exact (List.mem_append.mp member).elim (sound front) (sound' front)
        · rw [reachedAt_append, further length far positive, further' length far positive]
          simp
  intro progress connection here
  obtain ⟨after, progress', next, fresh, run, rest⟩ := gathered items each [] progress connection here
  exact ⟨after, progress', next, fresh, run, rest⟩

theorem followChild_spreads (loadable : Loadable schema database)
    (rendered : RenderedAlike schema database)
    {front : Front} (sound : front.Sound schema database) (name : String) (child : PathTree) :
    Spreads schema database (fun progress => followChild schema front progress name child)
      (fun far => ∃ resource ∈ front.resources,
        Reaches schema database front.type resource.id [name] far)
      fun length far => ∃ resource ∈ front.resources, ∃ path, path.length = length ∧
        child.Has path ∧ Reaches schema database front.type resource.id (name :: path) far := by
  unfold followChild
  cases found : findRelationship schema front.type name with
  | error error =>
      have lost := (findRelationship_lost loadable.formed sound.known).mp ⟨error, found⟩
      have nowhere {resource : Instance} {path : List String} {far : Identifier}
          (reaches : Reaches schema database front.type resource.id (name :: path) far) : False := by
        cases reaches with
        | last found' => cases found.symm.trans found'
        | step found' => cases found.symm.trans found'
      rw [lost]
      exact spreads_nothing (fun far => by rintro ⟨_, _, reaches⟩; exact nowhere reaches)
        fun length far => by rintro ⟨_, _, _, _, _, reaches⟩; exact nowhere reaches
  | ok both =>
      obtain ⟨relationship, target⟩ := both
      obtain ⟨relates, named⟩ := findRelationship_relates sound.known found
      rw [named, targetOf?_found loadable.formed sound.known found]
      rintro progress connection rfl
      let owners := front.resources.map Instance.id
      have keyed : ∀ owner ∈ owners, KeyedBy schema connection.database front.type owner := by
        intro owner member
        obtain ⟨resource, inside, rfl⟩ := List.mem_map.mp member
        exact sound.keyed resource inside
      obtain ⟨links, after, run, kept, linked⟩ :=
        loadRelation_links loadable sound.known found keyed
      let reached := owners.eraseDups.flatMap links.of
      have mem_reached (other : Instance) : other ∈ reached ↔ ∃ resource ∈ front.resources,
          LinkedTo connection.database front.type target relationship.storage resource.id other := by
        unfold reached
        rw [List.mem_flatMap]
        constructor
        · rintro ⟨owner, member, inside⟩
          rw [List.mem_eraseDups] at member
          obtain ⟨resource, given, rfl⟩ := List.mem_map.mp member
          exact ⟨resource, given, (linked _ member other).mp inside⟩
        · rintro ⟨resource, given, link⟩
          have member : resource.id ∈ owners := List.mem_map_of_mem given
          exact ⟨resource.id, List.mem_eraseDups.mpr member, (linked _ member other).mpr link⟩
      let next := if child.children.isEmpty then [] else distinct [] reached
      have inside {other : Instance} (member : other ∈ next) : other ∈ reached := by
        unfold next at member
        split at member
        · cases member
        · exact mem_distinct member
      obtain ⟨fresh, visits⟩ := visits_all reached progress
      refine ⟨after, _, [⟨target, next, child⟩], fresh, ?_, kept, visits.congr fun far => ?_,
        fun front' member => ?_, fun length far positive => ?_⟩
      · dsimp only
        unfold SourceAction.reading
        rw [execute_bind, execute_mapError, run]
        rfl
      · constructor
        · rintro ⟨other, member, rfl⟩
          obtain ⟨resource, given, link⟩ := (mem_reached other).mp member
          exact ⟨resource, given, .last found link⟩
        · rintro ⟨resource, given, reaches⟩
          cases reaches with
          | last found' link =>
              cases found.symm.trans found'
              exact ⟨_, (mem_reached _).mpr ⟨resource, given, link⟩, rfl⟩
          | step _ _ later => cases later
      · obtain rfl := List.mem_singleton.mp member
        refine ⟨relates.known', fun other member => ?_⟩
        obtain ⟨_, _, record, stored, read, _⟩ := (mem_reached other).mp (inside member)
        exact rendered target relates.known' other.id ⟨record, stored, other, read, rfl⟩
      · unfold ReachedAt
        simp only [List.mem_singleton, exists_eq_left]
        constructor
        · rintro ⟨other, member, path, exact, has, later⟩
          obtain ⟨resource, given, link⟩ := (mem_reached other).mp (inside member)
          exact ⟨resource, given, path, exact, has, .step found link later⟩
        · rintro ⟨resource, given, path, exact, has, reaches⟩
          cases reaches with
          | last _ _ =>
              rw [← exact] at positive
              cases positive
          | @step _ target' _ _ _ relationship' other _ found' link later =>
              cases found.symm.trans found'
              -- The path goes on, so the child has children and its resources are kept.
              have goes : child.children.isEmpty = false := by
                cases path with
                | nil => cases later
                | cons first rest =>
                    obtain ⟨below, among, _⟩ := PathTree.has_cons.mp has
                    exact List.isEmpty_eq_false_iff.mpr (List.ne_nil_of_mem among)
              obtain ⟨other', among, same⟩ := distinct_covers
                ((mem_reached other).mpr ⟨resource, given, link⟩) List.not_mem_nil
              refine ⟨other', ?_, path, exact, has, ?_⟩
              · unfold next
                rw [goes]
                exact among
              · have id : other'.id = other.id := congrArg Identifier.id same
                rw [id]
                exact later

theorem followFront_spreads (loadable : Loadable schema database)
    (rendered : RenderedAlike schema database)
    {front : Front} (sound : front.Sound schema database) :
    Spreads schema database (fun progress => followFront schema front progress)
      (fun far => ReachedAt schema database [front] 1 far)
      fun length far => ReachedAt schema database [front] (length + 1) far := by
  have all := spreads_foldlM front.tree.children
    (fun entry progress => followChild schema front progress entry.1 entry.2)
    fun entry _ => followChild_spreads loadable rendered sound entry.1 entry.2
  have beyond (length : Nat) (far : Identifier) :
      ReachedAt schema database [front] (length + 1) far ↔ ∃ entry ∈ front.tree.children,
        ∃ resource ∈ front.resources, ∃ path, path.length = length ∧ entry.2.Has path ∧
          Reaches schema database front.type resource.id (entry.1 :: path) far := by
    unfold ReachedAt
    simp only [List.mem_singleton, exists_eq_left]
    constructor
    · rintro ⟨resource, given, path, long, has, reaches⟩
      cases path with
      | nil => cases long
      | cons name rest =>
          obtain ⟨child, among, below⟩ := PathTree.has_cons.mp has
          exact ⟨(name, child), among, resource, given, rest, Nat.succ.inj long, below, reaches⟩
    · rintro ⟨⟨name, child⟩, among, resource, given, rest, rfl, below, reaches⟩
      exact ⟨resource, given, name :: rest, rfl, PathTree.has_cons.mpr ⟨child, among, below⟩, reaches⟩
  unfold followFront
  by_cases empty : front.resources.isEmpty
  · simp only [empty, if_true]
    have none (length : Nat) (far : Identifier) : ¬ReachedAt schema database [front] length far := by
      rintro ⟨other, member, resource, given, _⟩
      rw [List.mem_singleton.mp member, List.isEmpty_iff.mp empty] at given
      cases given
    exact spreads_nothing (none 1) fun length => none (length + 1)
  · simp only [empty]
    intro progress connection here
    obtain ⟨after, progress', next, fresh, run, kept, visits, fronts, further⟩ :=
      all progress connection here
    refine ⟨after, progress', next, fresh, run, kept, visits.congr fun far => ?_, fronts,
      fun length far positive => (further length far positive).trans (beyond length far).symm⟩
    rw [beyond]
    refine exists_congr fun entry => and_congr_right fun _ => exists_congr fun resource =>
      and_congr_right fun _ => ⟨fun reaches => ⟨[], rfl, PathTree.has_nil _, reaches⟩, ?_⟩
    rintro ⟨path, none, _, reaches⟩
    rwa [List.length_eq_zero_iff.mp none] at reaches

def Within (schema : Schema) (database : Database) (fronts : List Front) (length : Nat)
    (far : Identifier) : Prop :=
  ∃ steps, 0 < steps ∧ steps ≤ length ∧ ReachedAt schema database fronts steps far

/-- Following fronts for some levels includes what is reached so far, nearer resources first. -/
theorem followLevels_visits (loadable : Loadable schema database)
    (rendered : RenderedAlike schema database)
    (levels : Nat) {fronts : List Front} (sound : ∀ front ∈ fronts, front.Sound schema database)
    (progress : Progress) {connection : Connection} (here : connection.database = database) :
    ∃ after progress' fresh,
      execute (followLevels schema levels fronts progress) connection = (.ok progress', after) ∧
        Visits progress progress' (Within schema database fronts levels) fresh ∧
        fresh.Pairwise fun left right => ∀ length,
          Within schema database fronts length right.identifier →
            Within schema database fronts length left.identifier := by
  induction levels generalizing fronts progress connection with
  | zero =>
      refine ⟨connection, progress, [], rfl, .none progress ?_, .nil⟩
      rintro far ⟨steps, positive, few, _⟩
      exact absurd (positive.trans_le few) (Nat.lt_irrefl 0)
  | succ levels ih =>
      have level := spreads_foldlM fronts
        (fun front progress => followFront schema front progress)
        fun front member => followFront_spreads loadable rendered (sound front member)
      have gathered (length : Nat) (far : Identifier) :
          (∃ front ∈ fronts, ReachedAt schema database [front] length far) ↔
            ReachedAt schema database fronts length far := by
        unfold ReachedAt
        simp only [List.mem_singleton, exists_eq_left]
      obtain ⟨middle, progress', next, fresh, run, kept, visits, sound', further⟩ :=
        level progress connection here
      obtain ⟨after, progress'', fresh', run', visits', ordered⟩ := ih sound' progress' kept
      have first (far : Identifier) (reached : ReachedAt schema database fronts 1 far) (length : Nat)
          (some : 0 < length) : Within schema database fronts length far :=
        ⟨1, Nat.one_pos, some, reached⟩
      -- Whatever is reached by longer paths is reached from the next fronts by paths one shorter.
      have shorter (far : Identifier) (length : Nat) :
          Within schema database fronts (length + 1) far ↔
            ReachedAt schema database fronts 1 far ∨ Within schema database next length far := by
        constructor
        · rintro ⟨steps, positive, few, reached⟩
          obtain ⟨steps, rfl⟩ := Nat.exists_eq_succ_of_ne_zero positive.ne'
          rcases Nat.eq_zero_or_pos steps with rfl | more
          · exact .inl reached
          · exact .inr ⟨steps, more, Nat.le_of_succ_le_succ few,
              (further steps far more).mpr ((gathered _ far).mpr reached)⟩
        · rintro (reached | ⟨steps, positive, few, reached⟩)
          · exact first far reached _ (Nat.succ_pos _)
          · exact ⟨steps + 1, Nat.succ_pos _, Nat.succ_le_succ few,
              (gathered _ far).mp ((further steps far positive).mp reached)⟩
      refine ⟨after, progress'', fresh ++ fresh', ?_, (visits.trans visits').congr fun far => ?_, ?_⟩
      · unfold followLevels
        have ran : execute (fronts.foldlM (fun (progress, fronts) front => do
            let (progress, more) ← followFront schema front progress
            return (progress, fronts ++ more)) (progress, [])) connection =
              (.ok (progress', next), middle) := run
        rw [execute_bind, ran]
        exact run'
      · rw [shorter, gathered]
      · have near {resource : Instance} (member : resource ∈ fresh) :
            ReachedAt schema database fronts 1 resource.identifier :=
          (gathered 1 _).mp ((visits.members _).mp (List.mem_map_of_mem member)).2
        have positive {length : Nat} {far : Identifier}
            (within : Within schema database fronts length far) : 0 < length := by
          obtain ⟨steps, positive, few, _⟩ := within
          exact positive.trans_le few
        refine List.pairwise_append.mpr ⟨?_, ordered.imp_of_mem ?_, ?_⟩
        · exact List.pairwise_of_forall_mem_list fun left member _ _ length within =>
            first _ (near member) length (positive within)
        · intro left right member member' before length within
          obtain ⟨length, rfl⟩ := Nat.exists_eq_succ_of_ne_zero (positive within).ne'
          have unmet := ((visits'.members _).mp (List.mem_map_of_mem member')).1
          refine (shorter _ _).mpr (.inr (before length (((shorter _ _).mp within).resolve_left ?_)))
          intro reached
          exact unmet ((visits.met _).mpr (.inr ((gathered 1 _).mpr reached)))
        · exact fun left member right _ length within => first _ (near member) length (positive within)

end

end ResourceServer
