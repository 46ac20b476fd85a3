import ResourceServer.Proofs.PartialLoading
import ResourceServer.Proofs.Readings
import ResourceServer.Proofs.Traversal

/-! What is included with some of the resources of a collection is found with all of them as well. -/

namespace ResourceServer

open ResourceServer.Store ResourceServer.Mapping ResourceServer.Inclusion

section

variable {schema : Schema} {database : Database} {type target : EntityType} {relationship : Relationship}

theorem runs_loadRelation (accessible : Accessible schema database)
    (relates : schema.Relates type relationship target) {owners : List String} {links : Links}
    (run : Runs database (SourceAction.reading (loadRelation schema type relationship owners)) links) :
    (∀ owner ∈ owners, ReadsLinks database type target relationship.storage owner) ∧
      ∀ link, link ∈ links ↔
        ∃ owner ∈ owners, LoadsLink database type target relationship.storage owner link := by
  obtain ⟨start, rfl, loaded⟩ := runs_reading run
  exact ⟨(loadRelation_succeeds accessible relates).mp ⟨links, loaded⟩, mem_links accessible relates loaded⟩

theorem delivers_loadRelation (accessible : Accessible schema database)
    (relates : schema.Relates type relationship target) {owners : List String}
    (reads : ∀ owner ∈ owners, ReadsLinks database type target relationship.storage owner) :
    Delivers database (SourceAction.reading (loadRelation schema type relationship owners)) fun links =>
      ∀ link, link ∈ links ↔
        ∃ owner ∈ owners, LoadsLink database type target relationship.storage owner link := by
  refine delivers_reading (loadRelation_keeps ..) ?_
  rintro start rfl
  obtain ⟨links, loaded⟩ := (loadRelation_succeeds accessible relates).mpr reads
  exact ⟨links, loaded, mem_links accessible relates loaded⟩

end

namespace Inclusion

/-- A front on a type of a schema that has some of the resources of another front, by their identities. -/
structure Front.Below (schema : Schema) (part front : Front) : Prop where
  known : front.type ∈ schema.types
  type : part.type = front.type
  tree : part.tree = front.tree
  ids : ∀ resource ∈ part.resources, ∃ other ∈ front.resources, other.id = resource.id

def Covered (schema : Schema) (parts fronts : List Front) : Prop :=
  ∀ part ∈ parts, ∃ front ∈ fronts, part.Below schema front

/-- Nothing that was met is forgotten, and what is met newly is included. -/
structure Grows (before after : Progress) : Prop where
  met : ∀ far ∈ before.met, far ∈ after.met
  included : ∀ resource ∈ before.included, resource ∈ after.included
  only : ∀ far ∈ after.met, far ∈ before.met ∨ ∃ resource ∈ after.included, resource.identifier = far

theorem Grows.refl (progress : Progress) : Grows progress progress :=
  ⟨fun _ met => met, fun _ included => included, fun _ met => .inl met⟩

theorem Grows.trans {before middle after : Progress} (first : Grows before middle)
    (second : Grows middle after) : Grows before after := by
  refine ⟨fun far met => second.met far (first.met far met),
    fun resource member => second.included resource (first.included resource member), fun far met => ?_⟩
  rcases second.only far met with known | found
  · rcases first.only far known with known | ⟨resource, member, same⟩
    · exact .inl known
    · exact .inr ⟨resource, second.included resource member, same⟩
  · exact .inr found

theorem visit_grows (resources : List Instance) (progress : Progress) :
    Grows progress (resources.foldl Progress.visit progress) ∧
      (∀ resource ∈ resources, resource.identifier ∈ (resources.foldl Progress.visit progress).met) ∧
      ∀ resource ∈ (resources.foldl Progress.visit progress).included,
        resource ∈ progress.included ∨ resource ∈ resources := by
  induction resources generalizing progress with
  | nil => exact ⟨.refl progress, nofun, fun resource member => .inl member⟩
  | cons first rest ih =>
      obtain ⟨grows, met, only⟩ := ih (progress.visit first)
      have one : Grows progress (progress.visit first) ∧ first.identifier ∈ (progress.visit first).met ∧
          ∀ resource ∈ (progress.visit first).included, resource ∈ progress.included ∨ resource = first := by
        unfold Progress.visit
        split
        · rename_i known
          exact ⟨.refl progress, List.contains_iff_mem.mp known, fun resource member => .inl member⟩
        · refine ⟨⟨fun far => List.mem_cons_of_mem _, fun resource => List.mem_cons_of_mem _, fun far met => ?_⟩,
            List.mem_cons_self, fun resource member => (List.mem_cons.mp member).symm⟩
          rcases List.mem_cons.mp met with rfl | known
          · exact .inr ⟨first, List.mem_cons_self, rfl⟩
          · exact .inl known
      obtain ⟨begun, here, added⟩ := one
      refine ⟨begun.trans grows, fun resource member => ?_, fun resource member => ?_⟩
      · rcases List.mem_cons.mp member with rfl | later
        · exact grows.met _ here
        · exact met resource later
      · rcases only resource member with old | later
        · rcases added resource old with old | rfl
          · exact .inl old
          · exact .inr List.mem_cons_self
        · exact .inr (List.mem_cons_of_mem _ later)

section

variable {schema : Schema} {database : Database}

/-- A step that includes, besides what was included, stored resources that are met, and leads on to fronts below
given ones. -/
structure Advances (schema : Schema) (database : Database) (met : List Identifier) (fronts : List Front)
    (before : Progress) (result : Progress × List Front) : Prop where
  included : ∀ resource ∈ result.1.included,
    resource ∈ before.included ∨ IsResource schema database resource ∧ resource.identifier ∈ met
  fronts : Covered schema result.2 fronts

theorem Advances.mono {met met' : List Identifier} {fronts fronts' : List Front} {before : Progress}
    {result : Progress × List Front} (advances : Advances schema database met fronts before result)
    (more : ∀ far ∈ met, far ∈ met') (further : ∀ front ∈ fronts, front ∈ fronts') :
    Advances schema database met' fronts' before result := by
  refine ⟨fun resource member => ?_, fun part member => ?_⟩
  · exact (advances.included resource member).imp_right fun one => ⟨one.1, more _ one.2⟩
  · obtain ⟨front, inside, below⟩ := advances.fronts part member
    exact ⟨front, further front inside, below⟩

theorem advances_nothing (met : List Identifier) (fronts : List Front) (progress : Progress) :
    Advances schema database met fronts progress (progress, []) :=
  ⟨fun _ member => .inl member, nofun⟩

section

variable {α : Type} {items : List α} {step : α → Progress → SourceAction (Progress × List Front)}

def gather (step : α → Progress → SourceAction (Progress × List Front)) (items : List α)
    (progress : Progress) (fronts : List Front) : SourceAction (Progress × List Front) :=
  items.foldlM (fun (progress, fronts) item => do
    let (progress, more) ← step item progress
    return (progress, fronts ++ more)) (progress, fronts)

theorem runs_gather (kept : ∀ item progress, Keeps Connection.stored (step item progress))
    (grows : ∀ item ∈ items, ∀ before after, Runs database (step item before) after → Grows before after.1)
    {before after : Progress} {start next : List Front}
    (run : Runs database (gather step items before start) (after, next)) :
    Grows before after ∧ (∀ front ∈ start, front ∈ next) ∧
      ∀ item ∈ items, ∃ first between more, Runs database (step item first) (between, more) ∧
        (∀ far ∈ between.met, far ∈ after.met) ∧ ∀ front ∈ more, front ∈ next := by
  induction items generalizing before start with
  | nil =>
      cases runs_pure run
      exact ⟨.refl _, fun _ member => member, nofun⟩
  | cons item rest ih =>
      unfold gather at run
      rw [List.foldlM_cons] at run
      obtain ⟨reached, first, run⟩ := runs_bind (keeps_bind (kept item before) fun _ => keeps_pure _) run
      obtain ⟨⟨middle, more⟩, one, same⟩ := runs_bind (kept item before) first
      cases runs_pure same
      obtain ⟨grows', inside, each⟩ := ih (fun other member => grows other (List.mem_cons_of_mem _ member)) run
      refine ⟨(grows item List.mem_cons_self _ _ one).trans grows',
        fun front member => inside front (List.mem_append_left _ member), fun other member => ?_⟩
      rcases List.mem_cons.mp member with rfl | later
      · exact ⟨before, middle, more, one, grows'.met,
          fun front member => inside front (List.mem_append_right _ member)⟩
      · exact each other later

theorem delivers_gather {met : List Identifier} {fronts : List Front}
    (each : ∀ item ∈ items, ∀ before,
      Delivers database (step item before) (Advances schema database met fronts before))
    (before : Progress) {start : List Front} (covered : Covered schema start fronts) :
    Delivers database (gather step items before start) (Advances schema database met fronts before) := by
  induction items generalizing before start with
  | nil => exact delivers_pure ⟨fun _ member => .inl member, covered⟩
  | cons item rest ih =>
      unfold gather
      rw [List.foldlM_cons]
      have one : Delivers database (do
            let (progress, more) ← step item before
            return (progress, start ++ more)) (Advances schema database met fronts before) := by
        refine (each item List.mem_cons_self before).bind fun result advances => delivers_pure ⟨advances.included, ?_⟩
        intro part member
        exact (List.mem_append.mp member).elim (covered part) (advances.fronts part)
      refine one.bind fun reached begun => ?_
      obtain ⟨middle, further⟩ := reached
      have rest := ih (fun other member => each other (List.mem_cons_of_mem _ member)) middle begun.fronts
      refine rest.mono fun result advances => ⟨fun resource member => ?_, advances.fronts⟩
      exact (advances.included resource member).elim (begun.included resource) .inr

end

def spread (resources : List Instance) (progress : Progress) (target : EntityType) (child : PathTree)
    (links : Links) : Progress × List Front :=
  let reached := (resources.map Instance.id).eraseDups.flatMap links.of
  (reached.foldl Progress.visit progress,
    [⟨target, if child.children.isEmpty then [] else distinct [] reached, child⟩])

theorem followChild_cases (formed : schema.Formed) {type : EntityType} (known : type ∈ schema.types)
    (name : String) :
    (∀ resources tree progress child,
      followChild schema ⟨type, resources, tree⟩ progress name child = pure (progress, [])) ∨
      ∃ relationship target, schema.Relates type relationship target ∧
        ∀ resources tree progress child, followChild schema ⟨type, resources, tree⟩ progress name child =
          (SourceAction.reading (loadRelation schema type relationship (resources.map Instance.id)) >>=
            fun links => pure (spread resources progress target child links)) := by
  cases found : findRelationship schema type name with
  | error error =>
      have lost := (findRelationship_lost formed known).mp ⟨error, found⟩
      refine .inl fun resources tree progress child => ?_
      unfold followChild
      rw [lost]
  | ok both =>
      obtain ⟨relationship, target⟩ := both
      obtain ⟨relates, named⟩ := findRelationship_relates known found
      refine .inr ⟨relationship, target, relates, fun resources tree progress child => ?_⟩
      unfold followChild
      rw [named, targetOf?_found formed known found]
      rfl

theorem followChild_grows {front : Front} {before : Progress} {name : String} {child : PathTree}
    {after : Progress × List Front} (run : Runs database (followChild schema front before name child) after) :
    Grows before after.1 := by
  unfold followChild at run
  split at run
  · obtain ⟨links, _, same⟩ := runs_bind (reading_keeps (loadRelation_keeps ..)) run
    rw [runs_pure same]
    exact (visit_grows _ before).1
  · rw [runs_pure run]
    exact .refl before

theorem followChild_part (accessible : Accessible schema database) {part front : Front}
    (below : part.Below schema front) {before after : Progress} {name : String} {child : PathTree}
    {next : List Front} (run : Runs database (followChild schema front before name child) (after, next))
    (start : Progress) :
    Delivers database (followChild schema part start name child)
      (Advances schema database after.met next start) := by
  obtain ⟨type, resources, tree⟩ := part
  obtain ⟨type', resources', tree'⟩ := front
  obtain ⟨known, same, _, ids⟩ := below
  cases same
  rcases followChild_cases accessible.formed known name with lost | ⟨relationship, target, relates, whole⟩
  · rw [lost]
    exact delivers_pure (advances_nothing ..)
  · rw [whole] at run ⊢
    obtain ⟨links, loaded, same⟩ := runs_bind (reading_keeps (loadRelation_keeps ..)) run
    cases runs_pure same
    obtain ⟨reads, members⟩ := runs_loadRelation accessible relates loaded
    have asked : ∀ owner ∈ resources.map Instance.id, owner ∈ resources'.map Instance.id := by
      intro owner member
      obtain ⟨resource, inside, rfl⟩ := List.mem_map.mp member
      obtain ⟨other, among, equal⟩ := ids resource inside
      exact List.mem_map.mpr ⟨other, among, equal⟩
    refine (delivers_loadRelation accessible relates fun owner member => reads owner (asked owner member)).bind
      fun links' members' => delivers_pure ?_
    let reached := (resources.map Instance.id).eraseDups.flatMap links'.of
    have found : ∀ other ∈ reached,
        other ∈ (resources'.map Instance.id).eraseDups.flatMap links.of ∧ IsResource schema database other := by
      intro other member
      obtain ⟨owner, given, inside⟩ := List.mem_flatMap.mp member
      rw [List.mem_eraseDups] at given
      obtain ⟨key, listed, loads⟩ := (members' _).mp (mem_linksOf.mp inside)
      have link := (members _).mpr ⟨key, asked key listed, loads⟩
      refine ⟨List.mem_flatMap.mpr ⟨owner, List.mem_eraseDups.mpr (asked owner given), mem_linksOf.mpr link⟩, ?_⟩
      obtain ⟨record, stored, read⟩ := loads.stored
      exact ⟨target, relates.known', record, stored, read⟩
    constructor
    · intro resource member
      refine ((visit_grows reached start).2.2 resource member).imp_right fun among => ?_
      exact ⟨(found resource among).2, (visit_grows _ before).2.1 resource (found resource among).1⟩
    · intro further member
      obtain rfl := List.mem_singleton.mp member
      refine ⟨_, List.mem_singleton.mpr rfl, relates.known', rfl, rfl, fun resource inside => ?_⟩
      dsimp only at inside ⊢
      split at inside
      · cases inside
      · rename_i leads
        rw [if_neg leads]
        obtain ⟨among, _⟩ := found resource (mem_distinct inside)
        obtain ⟨other, left, equal⟩ := distinct_covers among List.not_mem_nil
        exact ⟨other, left, congrArg Identifier.id equal⟩

def followItem (schema : Schema) (front : Front) (item : String × PathTree) (progress : Progress) :
    SourceAction (Progress × List Front) :=
  followChild schema front progress item.1 item.2

theorem followFront_eq (front : Front) (progress : Progress) :
    followFront schema front progress =
      if front.resources.isEmpty then pure (progress, [])
      else gather (followItem schema front) front.tree.children progress [] := rfl

theorem followFront_grows {front : Front} {before : Progress} {after : Progress × List Front}
    (run : Runs database (followFront schema front before) after) : Grows before after.1 := by
  rw [followFront_eq] at run
  split at run
  · rw [runs_pure run]
    exact .refl before
  · exact (runs_gather (fun _ _ => followChild_keeps ..) (fun _ _ _ _ => followChild_grows) run).1

theorem followFront_part (accessible : Accessible schema database) {part front : Front}
    (below : part.Below schema front) {before after : Progress} {next : List Front}
    (run : Runs database (followFront schema front before) (after, next)) (start : Progress) :
    Delivers database (followFront schema part start) (Advances schema database after.met next start) := by
  rw [followFront_eq] at run ⊢
  by_cases empty : part.resources.isEmpty = true
  · rw [if_pos empty]
    exact delivers_pure (advances_nothing ..)
  · have given : ¬front.resources.isEmpty = true := by
      intro none
      cases listed : part.resources with
      | nil => exact empty (listed ▸ rfl)
      | cons resource rest =>
          obtain ⟨other, member, _⟩ := below.ids resource (listed ▸ List.mem_cons_self)
          rw [List.isEmpty_iff.mp none] at member
          cases member
    rw [if_neg given] at run
    rw [if_neg empty, below.tree]
    obtain ⟨_, _, each⟩ :=
      runs_gather (fun _ _ => followChild_keeps ..) (fun _ _ _ _ => followChild_grows) run
    refine delivers_gather (fun item member first => ?_) start nofun
    obtain ⟨_, between, more, one, met, further⟩ := each item member
    exact (followChild_part accessible below one first).mono fun _ advances => advances.mono met further

theorem followLevels_succ (levels : Nat) (fronts : List Front) (progress : Progress) :
    followLevels schema (levels + 1) fronts progress =
      (gather (followFront schema) fronts progress [] >>= fun reached =>
        followLevels schema levels reached.2 reached.1) := rfl

theorem followLevels_grows {levels : Nat} {fronts : List Front} {before after : Progress}
    (run : Runs database (followLevels schema levels fronts before) after) : Grows before after := by
  induction levels generalizing fronts before with
  | zero =>
      rw [runs_pure run]
      exact .refl before
  | succ levels ih =>
      rw [followLevels_succ] at run
      have kept : Keeps Connection.stored (gather (followFront schema) fronts before []) :=
        keeps_foldlM (fun _ _ => keeps_bind (followFront_keeps ..) fun _ => keeps_pure _) _
      obtain ⟨reached, first, later⟩ := runs_bind kept run
      exact (runs_gather (fun _ _ => followFront_keeps ..) (fun _ _ _ _ => followFront_grows) first).1.trans
        (ih later)

theorem followLevels_part (accessible : Accessible schema database) {levels : Nat}
    {parts fronts : List Front} (covered : Covered schema parts fronts) {before after : Progress}
    (run : Runs database (followLevels schema levels fronts before) after) (start : Progress) :
    Delivers database (followLevels schema levels parts start) fun progress =>
      ∀ resource ∈ progress.included, resource ∈ start.included ∨
        IsResource schema database resource ∧ resource.identifier ∈ after.met := by
  induction levels generalizing parts fronts before start with
  | zero => exact delivers_pure fun resource member => .inl member
  | succ levels ih =>
      rw [followLevels_succ] at run ⊢
      have kept : Keeps Connection.stored (gather (followFront schema) fronts before []) :=
        keeps_foldlM (fun _ _ => keeps_bind (followFront_keeps ..) fun _ => keeps_pure _) _
      obtain ⟨⟨middle, next⟩, first, later⟩ := runs_bind kept run
      obtain ⟨_, _, each⟩ :=
        runs_gather (fun _ _ => followFront_keeps ..) (fun _ _ _ _ => followFront_grows) first
      have grows := followLevels_grows later
      have level : Delivers database (gather (followFront schema) parts start [])
          (Advances schema database after.met next start) := by
        refine delivers_gather (fun part member progress => ?_) start nofun
        obtain ⟨front, inside, below⟩ := covered part member
        obtain ⟨_, between, more, one, met, further⟩ := each front inside
        exact (followFront_part accessible below one progress).mono fun _ advances =>
          advances.mono (fun far known => grows.met far (met far known)) further
      refine level.bind fun reached advances => ?_
      refine (ih advances.fronts later reached.1).mono fun progress found resource member => ?_
      exact (found resource member).elim (advances.included resource) .inr

/-- What is included with some of the roots is stored, and is included with all roots or is one of them. -/
theorem resolve_part (accessible : Accessible schema database) {type : EntityType}
    (known : type ∈ schema.types) {roots some : List Instance} (among : ∀ root ∈ some, root ∈ roots)
    {paths : List String} {included : List Instance}
    (run : Runs database (resolve schema type roots paths) included) :
    Delivers database (resolve schema type some paths) fun others =>
      ∀ resource ∈ others, IsResource schema database resource ∧
        ∃ other ∈ roots ++ included, other.identifier = resource.identifier := by
  unfold resolve at run ⊢
  dsimp only at run ⊢
  obtain ⟨_, checked, run⟩ := runs_bind (keeps_ofExcept _) run
  obtain ⟨progress, followed, same⟩ := runs_bind (followLevels_keeps ..) run
  rw [runs_pure same]
  have covered : Covered schema [⟨type, some, PathTree.ofPaths paths⟩] [⟨type, roots, PathTree.ofPaths paths⟩] := by
    intro part member
    obtain rfl := List.mem_singleton.mp member
    exact ⟨_, List.mem_singleton.mpr rfl, known, rfl, rfl, fun root inside => ⟨root, among root inside, rfl⟩⟩
  refine (delivers_ofExcept (runs_ofExcept checked)).bind fun _ _ => ?_
  refine (followLevels_part accessible covered followed _).bind fun progress' found => delivers_pure ?_
  intro resource member
  rcases found resource (List.mem_reverse.mp member) with nothing | ⟨stored, met⟩
  · cases nothing
  refine ⟨stored, ?_⟩
  rcases (followLevels_grows followed).only _ met with root | ⟨other, inside, same⟩
  · obtain ⟨other, inside, same⟩ := List.mem_map.mp root
    exact ⟨other, List.mem_append_left _ inside, same⟩
  · exact ⟨other, List.mem_append_right _ (List.mem_reverse.mpr inside), same⟩

end

end Inclusion

end ResourceServer
