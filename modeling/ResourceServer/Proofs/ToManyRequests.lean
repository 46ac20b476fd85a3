import ResourceServer.Proofs.StorageIndependence

/-! Requests that change the targets of a to-many relationship: what they check before they write, and the links
that they leave. -/

namespace ResourceServer

open ResourceServer.Store ResourceServer.Mapping ResourceServer.Relinking

theorem mem_distinctIds {seen ids : List String} {id : String} :
    id ∈ distinctIds seen ids ↔ id ∈ ids ∧ id ∉ seen := by
  induction ids generalizing seen with
  | nil => simp [distinctIds]
  | cons first rest ih =>
      unfold distinctIds
      split
      · rename_i known
        rw [ih, List.mem_cons]
        refine and_congr_left fun fresh => (or_iff_right ?_).symm
        rintro rfl
        exact fresh (List.contains_iff_mem.mp known)
      · rename_i fresh
        rw [List.mem_cons, List.mem_cons, ih, List.mem_cons]
        rw [List.contains_iff_mem] at fresh
        by_cases same : id = first
        · subst same
          simp [fresh]
        · simp [same]

theorem distinctIds_ordered (seen ids : List String) :
    (distinctIds seen ids).Pairwise fun left right => ids.idxOf left < ids.idxOf right := by
  induction ids generalizing seen with
  | nil => exact .nil
  | cons first rest ih =>
      have later (seen : List String) (known : first ∈ seen) : (distinctIds seen rest).Pairwise
          fun left right => (first :: rest).idxOf left < (first :: rest).idxOf right := by
        refine (ih seen).imp_of_mem fun {left right} member member' before => ?_
        have apart {id : String} (inside : id ∈ distinctIds seen rest) : first ≠ id := by
          rintro rfl
          exact (mem_distinctIds.mp inside).2 known
        rw [List.idxOf_cons_ne _ (apart member), List.idxOf_cons_ne _ (apart member')]
        exact Nat.succ_lt_succ before
      unfold distinctIds
      split
      · rename_i known
        exact later seen (List.contains_iff_mem.mp known)
      · refine .cons (fun id member => ?_) (later _ List.mem_cons_self)
        have apart : first ≠ id := by
          rintro rfl
          exact (mem_distinctIds.mp member).2 List.mem_cons_self
        rw [List.idxOf_cons_self, List.idxOf_cons_ne _ apart]
        exact Nat.succ_pos _

/-- The texts that are asked for but are no resource's identity, each once, in the order in which they are first
asked for. -/
structure Missing (database : Database) (type : EntityType) (asked missing : List String) : Prop where
  members : ∀ id, id ∈ missing ↔ id ∈ asked ∧ ¬IsStored database type id
  ordered : missing.Pairwise fun left right => asked.idxOf left < asked.idxOf right

/-- A request checks its targets before it writes. A target of another type is a conflict; if there is none,
targets that are not stored are not found, all of them; and in both cases the tables stay as they are. Any other
request is done. -/
structure ChecksTargets {α : Type} (connection : Connection) (target : EntityType)
    (targets : List Identifier) (request : SourceAction α) (done : α → Connection → Prop) :
    Prop where
  conflict : (∃ given ∈ targets, given.type ≠ target.name) →
    ∃ wrong after, targets.find? (fun given => given.type ≠ target.name) = some wrong ∧
      execute request connection =
        (.error (.conflict s!"Type must be {target.name}, not {wrong.type}"), after) ∧
      after.stored = connection.stored
  missing : (∀ given ∈ targets, given.type = target.name) →
    (∃ given ∈ targets, ¬IsStored connection.database target given.id) →
    ∃ missing after, Missing connection.database target (targets.map Identifier.id) missing ∧
      execute request connection =
        (.error (.notFound (s!"No resources of type {target.name} with IDs " ++
          ", ".intercalate missing)), after) ∧
      after.stored = connection.stored
  done : (∀ given ∈ targets, given.type = target.name ∧
      IsStored connection.database target given.id) →
    ∃ value after, execute request connection = (.ok value, after) ∧ done value after

theorem ChecksTargets.of_same {α : Type} {connection : Connection} {target : EntityType}
    {targets : List Identifier} {request request' : SourceAction α} {done : α → Connection → Prop}
    (same : execute request connection = execute request' connection)
    (checks : ChecksTargets connection target targets request' done) :
    ChecksTargets connection target targets request done := by
  obtain ⟨conflict, missing, done⟩ := checks
  rw [← same] at conflict missing done
  exact ⟨conflict, missing, done⟩

section

variable {schema : Schema} {connection : Connection} {type target : EntityType}
  {relationship : Relationship}

theorem find_done (separate : schema.Separate) (stocked : Stocked schema connection.database)
    (known : type ∈ schema.types) (ids : List String) :
    ∃ resources after, execute (Mapping.get type ids) connection = (.ok resources, after) ∧
      after.stored = connection.stored ∧
      ∀ id ∈ ids, id ∈ resources.map Instance.id ↔ IsStored connection.database type id := by
  have found :=
    execute_findResources ((stocked.housed.shaped separate).entities type known) separate.columns known rfl ids
  have among {record : Record} :
      record ∈ foundRecords connection.database type (idCells type ids) ↔
        record ∈ connection.database.records (tableName type) ∧
          (idCells type ids).any (record (idName type)).agrees = true := by
    unfold foundRecords
    rw [(stableSort_perm _ _).mem_iff, List.mem_filter]
  have readable : ∃ resources, (foundRecords connection.database type (idCells type ids)).mapM
      (readRecord type) = .ok resources :=
    mapM_succeeds fun record member => stocked.readable known (among.mp member).1
  obtain ⟨resources, read⟩ := readable
  have all := mapM_forall₂ read
  have kept := (get_keeps type ids).same connection
  rcases outcome : execute (Mapping.get type ids) connection with ⟨result, after⟩
  rw [outcome] at found kept
  refine ⟨resources, after, Prod.ext (found.trans read) rfl, kept, fun id asked => ?_⟩
  rw [List.mem_map]
  constructor
  · rintro ⟨resource, member, rfl⟩
    obtain ⟨record, inside, one⟩ := mem_of_forall₂ all.flip member
    exact ⟨record, (among.mp inside).1, resource, one, rfl⟩
  · rintro ⟨record, inside, resource, one, rfl⟩
    have named := stocked.names separate known inside one
    have exact := takes_exact (separate.exact type known) (.inr named.kind)
    have cell : record (idName type) ∈ idCells type ids :=
      List.mem_filterMap.mpr ⟨resource.id, asked, named.spelled⟩
    have member := among.mpr ⟨inside, List.any_eq_true.mpr
      ⟨_, cell, (Cell.agrees_exact exact exact).mpr ⟨rfl, named.given⟩⟩⟩
    obtain ⟨resource', member, other⟩ := mem_of_forall₂ all member
    cases one.symm.trans other
    exact ⟨resource, member, rfl⟩

theorem Schema.Relates.named (relates : schema.Relates type relationship target) :
    target.name = relationship.target := by
  simpa using List.find?_some relates.leads

theorem requireTargets_wrong (relates : schema.Relates type relationship target)
    {targets : List Identifier} {wrong : Identifier}
    (first : targets.find? (fun given => given.type ≠ target.name) = some wrong) :
    execute (requireTargets schema relationship targets) connection =
      (.error (.conflict s!"Type must be {target.name}, not {wrong.type}"), connection) := by
  unfold requireTargets
  rw [relates.leads]
  dsimp only
  rw [← relates.named, first]
  rfl

theorem requireTargets_right (separate : schema.Separate)
    (stocked : Stocked schema connection.database)
    (relates : schema.Relates type relationship target) {targets : List Identifier}
    (right : ∀ given ∈ targets, given.type = target.name) :
    ∃ missing after, Missing connection.database target (targets.map Identifier.id) missing ∧
      after.stored = connection.stored ∧
      execute (requireTargets schema relationship targets) connection =
        (if missing = [] then .ok (distinctIds [] (targets.map Identifier.id))
          else .error (.notFound (s!"No resources of type {target.name} with IDs " ++
            ", ".intercalate missing)), after) := by
  have none : targets.find? (fun given => given.type ≠ target.name) = none :=
    List.find?_eq_none.mpr fun given member => by simpa using right given member
  have asked {id : String} : id ∈ distinctIds [] (targets.map Identifier.id) ↔
      id ∈ targets.map Identifier.id := by
    rw [mem_distinctIds]
    simp
  have ordered := distinctIds_ordered [] (targets.map Identifier.id)
  unfold requireTargets
  rw [relates.leads]
  dsimp only
  rw [← relates.named, none]
  dsimp only
  generalize distinctIds [] (targets.map Identifier.id) = ids at asked ordered ⊢
  by_cases empty : ids.isEmpty = true
  · rw [if_pos empty]
    refine ⟨[], connection, ⟨fun id => ?_, .nil⟩, rfl, ?_⟩
    · rw [← asked, List.isEmpty_iff.mp empty]
      simp
    · rw [List.isEmpty_iff.mp empty]
      rfl
  · rw [if_neg empty]
    obtain ⟨resources, after, found, kept, stored⟩ := find_done separate stocked relates.known' ids
    let missing := ids.filter fun id => !(resources.map Instance.id).contains id
    have members : ∀ id, id ∈ missing ↔
        id ∈ targets.map Identifier.id ∧ ¬IsStored connection.database target id := by
      intro id
      unfold missing
      rw [List.mem_filter, ← asked]
      refine and_congr_right fun inside => ?_
      rw [← stored id inside]
      simp
    refine ⟨missing, after, ⟨members, ordered.filter _⟩, kept, ?_⟩
    have read : execute (SourceAction.reading (Mapping.get target ids)) connection =
        (.ok resources, after) := by
      unfold SourceAction.reading
      rw [execute_mapError, found]
      rfl
    rw [execute_bind, read]
    dsimp only
    change execute (if (!missing.isEmpty) = true then _ else _) after = _
    by_cases complete : missing = []
    · rw [if_neg (by simp [complete]), if_pos complete]
      rfl
    · rw [if_pos (by simp [complete]), if_neg complete]
      rfl

theorem checksTargets (separate : schema.Separate) (stocked : Stocked schema connection.database)
    (relates : schema.Relates type relationship target) {targets : List Identifier} {α : Type}
    {next : List String → SourceAction α} {done : α → Connection → Prop}
    (finish : ∀ ids middle, middle.stored = connection.stored →
      (∀ id, id ∈ ids ↔ id ∈ targets.map Identifier.id) →
      (∀ id ∈ ids, IsStored connection.database target id) →
      ∃ value after, execute (next ids) middle = (.ok value, after) ∧ done value after) :
    ChecksTargets connection target targets
      (requireTargets schema relationship targets >>= next) done := by
  refine ⟨fun wrong => ?_, fun right unknown => ?_, fun right => ?_⟩
  · have some : (targets.find? fun given => given.type ≠ target.name).isSome :=
      List.find?_isSome.mpr (by simpa using wrong)
    obtain ⟨given, first⟩ := Option.isSome_iff_exists.mp some
    refine ⟨given, connection, first, ?_, rfl⟩
    rw [execute_bind, requireTargets_wrong relates first]
  · obtain ⟨missing, after, listed, kept, run⟩ :=
      requireTargets_right separate stocked relates right
    obtain ⟨given, member, absent⟩ := unknown
    have inside := (listed.members given.id).mpr ⟨List.mem_map_of_mem member, absent⟩
    refine ⟨missing, after, listed, ?_, kept⟩
    rw [execute_bind, run, if_neg (List.ne_nil_of_mem inside)]
  · obtain ⟨missing, middle, listed, kept, run⟩ :=
      requireTargets_right separate stocked relates fun given member => (right given member).1
    have complete : missing = [] := by
      refine List.eq_nil_iff_forall_not_mem.mpr fun id member => ?_
      obtain ⟨inside, absent⟩ := (listed.members id).mp member
      obtain ⟨given, among, rfl⟩ := List.mem_map.mp inside
      exact absent (right given among).2
    have asked {id : String} : id ∈ distinctIds [] (targets.map Identifier.id) ↔
        id ∈ targets.map Identifier.id := by
      rw [mem_distinctIds]
      simp
    rw [execute_bind, run, if_pos complete]
    refine finish _ middle kept (fun _ => asked) fun id member => ?_
    obtain ⟨given, among, rfl⟩ := List.mem_map.mp (asked.mp member)
    exact (right given among).2

end

/-- The loaded links of a relationship have become others, and nothing is different but the place that they are
kept in. -/
structure Relinked (schema : Schema) (type : EntityType) (relationship : Relationship)
    (target : EntityType) (before after : Connection) (links : String → String → Prop) : Prop where
  loads : ∀ other, IsStored before.database type other →
    (∃ ids, loadedTargets schema type relationship after other = .ok ids) ∧
      ∀ id, Loads schema type relationship after other id ↔ links other id
  stored : ∀ holder ∈ schema.types, ∀ id,
    IsStored after.database holder id ↔ IsStored before.database holder id
  confined : Confined (relationship.storage.place type target) before.database after.database
  linkable : Linkable schema after.database type relationship target

/-- The links after the targets of an owner were replaced. -/
def replacedLinks (single : Prop) (owner : String) (before : String → String → Prop)
    (wanted : List String) (other target : String) : Prop :=
  other = owner ∧ target ∈ wanted ∨ other ≠ owner ∧ before other target ∧ ¬(single ∧ target ∈ wanted)

theorem replaced_iff {single : Prop} {owner other id : String} {before between : String → String → Prop}
    {stale fresh wanted : List String} (stale_iff : id ∈ stale ↔ before owner id ∧ id ∉ wanted)
    (fresh_iff : id ∈ fresh ↔ id ∈ wanted ∧ ¬before owner id)
    (own : between owner id ↔ (LinkChange.remove stale).links single owner before owner id)
    (removed : between other id ↔ (LinkChange.remove stale).links single owner before other id)
    (alone : single → before owner id → before other id → other = owner) :
    (LinkChange.add fresh).links single owner between other id ↔
      replacedLinks single owner before wanted other id := by
  unfold LinkChange.links replacedLinks at *
  dsimp only at *
  rw [own, removed, stale_iff, fresh_iff]
  by_cases same : other = owner
  · subst same
    simp only [ne_eq, not_true, true_and, false_and, or_false]
    -- A held target stays if it is wanted, any other one is added if it is.
    by_cases held : before other id
    · simp only [held, true_and, not_not, not_true, and_false, or_false]
    · simp only [held, false_and, false_or, not_false_iff, and_true]
  · simp only [ne_eq, same, not_false_iff, false_and, false_or, true_and, and_true]
    refine and_congr_right fun held => not_congr ⟨?_, ?_⟩
    · rintro ⟨one, member, _⟩
      exact ⟨one, member⟩
    · rintro ⟨one, member⟩
      exact ⟨one, member, fun linked => same (alone one linked held)⟩

section

variable {schema : Schema} {connection middle after : Connection} {type target : EntityType}
  {relationship : Relationship} {links : String → String → Prop}

theorem loadedTargets_same
    (linkable : Linkable schema connection.database type relationship target)
    (same : after.database = connection.database) :
    loadedTargets schema type relationship after =
      loadedTargets schema type relationship connection := by
  have ⟨separate, stocked, relates, _⟩ := linkable
  have load {reached : Connection} (here : reached.database = connection.database) :=
    execute_loadRelation (stocked.housed.shaped separate)
      (separate.reserved target relates.known') relates.known relates.own
      (relates.found separate.formed) here
  funext owner
  unfold loadedTargets
  rw [load same [owner], load rfl [owner]]

theorem loads_same (linkable : Linkable schema connection.database type relationship target)
    (same : after.database = connection.database) :
    Loads schema type relationship after = Loads schema type relationship connection := by
  unfold Loads
  rw [loadedTargets_same linkable same]

theorem held_single (linkable : Linkable schema connection.database type relationship target)
    (single : relationship.storage.Single) {owner other id : Cell}
    (held : Holds connection.database type target relationship.storage owner id)
    (held' : Holds connection.database type target relationship.storage other id) : other = owner := by
  unfold Storage.Single at single
  split at single
  · rename_i column storage
    rw [storage] at held held'
    obtain ⟨record, member, same, rfl⟩ := held
    obtain ⟨record', member', same', rfl⟩ := held'
    rw [linkable.stocked.record_eq linkable.relates.known' member member' (same.trans same'.symm)]
  · exact single.elim

theorem loads_single (linkable : Linkable schema connection.database type relationship target)
    (single : relationship.storage.Single) {owner other : String}
    (stored : IsStored connection.database type owner)
    (stored' : IsStored connection.database type other) {id : String}
    (linked : Loads schema type relationship connection owner id)
    (linked' : Loads schema type relationship connection other id) : other = owner := by
  have ⟨separate, stocked, relates, _⟩ := linkable
  obtain ⟨_, _, named⟩ := (stocked.isStored_iff separate relates.known).mp stored
  obtain ⟨_, _, named'⟩ := (stocked.isStored_iff separate relates.known).mp stored'
  obtain ⟨_, _, written, held⟩ := ((loads_iff linkable named).2 id).mp linked
  obtain ⟨_, _, written', held'⟩ := ((loads_iff linkable named').2 id).mp linked'
  rw [written'.cell_eq written] at held'
  rw [held_single linkable single held held'] at named'
  exact named'.text_eq named

theorem currentTargets_loaded {owner : String} {ids : List String}
    (loaded : loadedTargets schema type relationship connection owner = .ok ids) :
    ∃ after, execute (currentTargets schema type relationship owner) connection = (.ok ids, after) ∧
      after.stored = connection.stored := by
  obtain ⟨found, read, rfl⟩ := map_ok loaded
  have kept := (loadRelation_keeps schema type relationship [owner]).same connection
  rcases outcome : execute (loadRelation schema type relationship [owner]) connection with
    ⟨result, after⟩
  rw [outcome] at read kept
  cases read
  refine ⟨after, ?_, kept⟩
  unfold currentTargets SourceAction.reading
  rw [execute_bind, execute_mapError, outcome]
  rfl

theorem currentTargets_done
    (linkable : Linkable schema connection.database type relationship target) {owner : String}
    (stored : IsStored connection.database type owner) :
    ∃ ids after, execute (currentTargets schema type relationship owner) connection = (.ok ids, after) ∧
      after.stored = connection.stored ∧
      ∀ id, id ∈ ids ↔ Loads schema type relationship connection owner id := by
  have ⟨separate, stocked, relates, _⟩ := linkable
  obtain ⟨_, _, named⟩ := (stocked.isStored_iff separate relates.known).mp stored
  obtain ⟨⟨ids, loaded⟩, _⟩ := loads_iff linkable named
  obtain ⟨after, done, kept⟩ := currentTargets_loaded loaded
  refine ⟨ids, after, done, kept, fun id => ⟨fun member => ⟨ids, loaded, member⟩, ?_⟩⟩
  rintro ⟨ids', loaded', member⟩
  cases loaded.symm.trans loaded'
  exact member

theorem writing_done (linkable : Linkable schema connection.database type relationship target)
    (change : LinkChange String) (supported : change.Supported relationship) {owner : String}
    (stored : IsStored connection.database type owner)
    (known : ∀ id ∈ change.targets, IsStored connection.database target id) :
    ∃ after, execute (SourceAction.writing (change.action schema type relationship owner)) connection =
        (.ok (), after) ∧
      Relinked schema type relationship target connection after
        (change.links relationship.storage.Single owner
          (Loads schema type relationship connection)) := by
  obtain ⟨after, links, done, changed, loads⟩ := change_loads linkable supported stored known
  exact ⟨after, execute_writing_done done, fun other stored' => (loads other stored').2,
    fun holder known id => isStored_changed linkable changed known, changed.refilled.confined,
    linkable.changed changed⟩

theorem Relinked.after_reading (same : middle.database = connection.database)
    (relinked : Relinked schema type relationship target middle after links) :
    Relinked schema type relationship target connection after links := by
  obtain ⟨loads, stored, confined, linkable⟩ := relinked
  rw [same] at loads stored confined
  exact ⟨loads, stored, confined, linkable⟩

theorem Relinked.refl (linkable : Linkable schema connection.database type relationship target) :
    Relinked schema type relationship target connection connection
      (Loads schema type relationship connection) := by
  have ⟨separate, stocked, relates, _⟩ := linkable
  refine ⟨fun other stored => ⟨?_, fun _ => Iff.rfl⟩, fun _ _ _ => Iff.rfl,
    fun _ _ => alike_refl _, linkable⟩
  obtain ⟨_, _, named⟩ := (stocked.isStored_iff separate relates.known).mp stored
  exact (loads_iff linkable named).1

theorem Relinked.congr {links' : String → String → Prop}
    (relinked : Relinked schema type relationship target connection after links)
    (same : ∀ other, IsStored connection.database type other → ∀ id, links other id ↔ links' other id) :
    Relinked schema type relationship target connection after links' :=
  ⟨fun other stored => ⟨(relinked.loads other stored).1, fun id =>
    ((relinked.loads other stored).2 id).trans (same other stored id)⟩, relinked.stored,
    relinked.confined, relinked.linkable⟩

theorem execute_requireToMany (toMany : relationship.isToMany = true) (operation : String) {α : Type}
    (next : Unit → SourceAction α) :
    execute (Store.Action.ofExcept (requireToMany relationship operation) >>= next) connection =
      execute (next ()) connection := by
  rw [execute_bind, execute_ofExcept]
  unfold requireToMany
  rw [if_pos toMany]

theorem replace_done (linkable : Linkable schema connection.database type relationship target)
    (keyed : ∀ column, relationship.storage ≠ .ownerKey column) {owner : String}
    (stored : IsStored connection.database type owner) {current wanted : List String}
    (loaded : ∀ id, id ∈ current ↔ Loads schema type relationship connection owner id)
    (known : ∀ id ∈ wanted, IsStored connection.database target id) :
    ∃ after, execute (do
        SourceAction.writing (removeFromMany schema type relationship owner
          (current.filter fun id => !wanted.contains id))
        SourceAction.writing (addToMany schema type relationship owner
          (wanted.filter fun id => !current.contains id))) connection = (.ok (), after) ∧
      Relinked schema type relationship target connection after
        (replacedLinks relationship.storage.Single owner
          (Loads schema type relationship connection) wanted) := by
  let stale := current.filter fun id => !wanted.contains id
  let fresh := wanted.filter fun id => !current.contains id
  have ⟨separate, stocked, relates, _⟩ := linkable
  obtain ⟨_, _, named⟩ := (stocked.isStored_iff separate relates.known).mp stored
  have stale_iff {id : String} : id ∈ stale ↔
      Loads schema type relationship connection owner id ∧ id ∉ wanted := by
    unfold stale
    rw [List.mem_filter, loaded]
    simp
  have fresh_iff {id : String} : id ∈ fresh ↔
      id ∈ wanted ∧ ¬Loads schema type relationship connection owner id := by
    unfold fresh
    rw [List.mem_filter, ← loaded]
    simp
  have present : ∀ id ∈ (LinkChange.remove stale).targets, IsStored connection.database target id := by
    intro id member
    obtain ⟨linked, _⟩ := stale_iff.mp member
    obtain ⟨other, inside, written, _⟩ := ((loads_iff linkable named).2 id).mp linked
    exact (stocked.isStored_iff separate relates.known').mpr ⟨other, inside, written⟩
  obtain ⟨middle, removed, cleared⟩ := writing_done linkable (.remove stale) keyed stored present
  have present' : ∀ id ∈ (LinkChange.add fresh).targets, IsStored middle.database target id :=
    fun id member => (cleared.stored target relates.known' id).mpr (known id (fresh_iff.mp member).1)
  obtain ⟨after, added, relinked⟩ := writing_done cleared.linkable (.add fresh) keyed
    ((cleared.stored type relates.known owner).mpr stored) present'
  refine ⟨after, ?_, ?_⟩
  · refine (execute_bind _ _ _).trans ?_
    change execute (SourceAction.writing (removeFromMany schema type relationship owner stale))
      connection = _ at removed
    rw [removed]
    exact added
  · refine ⟨fun other stored' => ?_, fun holder known id =>
      (relinked.stored holder known id).trans (cleared.stored holder known id), ?_,
      relinked.linkable⟩
    · obtain ⟨loads, links⟩ :=
        relinked.loads other ((cleared.stored type relates.known other).mpr stored')
      refine ⟨loads, fun id => (links id).trans ?_⟩
      exact replaced_iff stale_iff fresh_iff ((cleared.loads owner stored).2 id)
        ((cleared.loads other stored').2 id) fun single => loads_single linkable single stored stored'
    · exact fun name apart =>
        forall₂_alike (cleared.confined name apart) (relinked.confined name apart)

theorem remove_done (linkable : Linkable schema connection.database type relationship target)
    (keyed : ∀ column, relationship.storage ≠ .ownerKey column) {owner : String}
    (stored : IsStored connection.database type owner) {current wanted : List String}
    (loaded : ∀ id, id ∈ current ↔ Loads schema type relationship connection owner id)
    (known : ∀ id ∈ wanted, IsStored connection.database target id) :
    ∃ any after, execute (do
        let present := wanted.filter current.contains
        if present.isEmpty then return false
        SourceAction.writing (Mapping.removeFromMany schema type relationship owner present)
        return true) connection = (.ok any, after) ∧
      (any = true ↔ ∃ id ∈ wanted, Loads schema type relationship connection owner id) ∧
      Relinked schema type relationship target connection after
        ((LinkChange.remove wanted).links relationship.storage.Single owner
          (Loads schema type relationship connection)) := by
  let present := wanted.filter current.contains
  have present_iff {id : String} : id ∈ present ↔
      id ∈ wanted ∧ Loads schema type relationship connection owner id := by
    unfold present
    rw [List.mem_filter, List.contains_iff_mem, loaded]
  have any_iff : present.isEmpty = false ↔
      ∃ id ∈ wanted, Loads schema type relationship connection owner id := by
    rw [List.isEmpty_eq_false_iff_exists_mem]
    exact exists_congr fun _ => present_iff
  -- Of what is wanted, what is not linked can not be unlinked.
  have same : ∀ other, IsStored connection.database type other → ∀ id,
      (LinkChange.remove present).links relationship.storage.Single owner
          (Loads schema type relationship connection) other id ↔
        (LinkChange.remove wanted).links relationship.storage.Single owner
          (Loads schema type relationship connection) other id := by
    intro other _ id
    unfold LinkChange.links
    dsimp only
    rw [present_iff]
    refine and_congr_right fun held => not_congr (and_congr_right fun owned => ?_)
    rw [← owned]
    exact and_iff_left held
  by_cases nothing : present.isEmpty = true
  · refine ⟨false, connection, ?_, ?_, (Relinked.refl linkable).congr fun other stored' id => ?_⟩
    · change execute (if present.isEmpty = true then _ else _) connection = _
      rw [if_pos nothing]
      rfl
    · rw [← any_iff, nothing]
      exact iff_of_false nofun nofun
    · rw [← same other stored' id, List.isEmpty_iff.mp nothing]
      simp [LinkChange.links]
  · obtain ⟨after, removed, relinked⟩ := writing_done linkable (.remove present) keyed stored
      fun id member => known id (present_iff.mp member).1
    refine ⟨true, after, ?_, ?_, relinked.congr same⟩
    · change execute (SourceAction.writing (Mapping.removeFromMany schema type relationship owner
        present)) connection = _ at removed
      change execute (if present.isEmpty = true then _ else _) connection = _
      rw [if_neg nothing, execute_bind, removed]
      rfl
    · exact iff_of_true rfl (any_iff.mp (Bool.eq_false_iff.mpr nothing))

/-- Requests on the targets of a to-many relationship that has room for more than one link, where relationships that
share a column agree on the type of the identities in it. They check the targets that they name, and write nothing if
one is of another type or not stored. Otherwise replacing leaves exactly the targets named, appending adds them to the
others, and removing takes them away and tells whether any of them was linked. With a key of the target, targets that
are newly linked leave their previous owners; other links of other owners stay. -/
theorem toMany_requests_change_links (separate : schema.Separate) (agree : schema.KeyTypesAgree)
    (stocked : Stocked schema connection.database) (filled : Filled schema connection.database)
    (relates : schema.Relates type relationship target)
    (toMany : relationship.isToMany = true)
    (keyed : ∀ column, relationship.storage ≠ .ownerKey column) {owner : String}
    (stored : IsStored connection.database type owner) (targets : List Identifier) :
    ChecksTargets connection target targets
        (Relinking.replaceToMany schema type relationship owner targets true)
        (fun _ after => Relinked schema type relationship target connection after
          (replacedLinks relationship.storage.Single owner
            (Loads schema type relationship connection) (targets.map Identifier.id))) ∧
      ChecksTargets connection target targets
        (Relinking.appendToMany schema type relationship owner targets)
        (fun _ after => Relinked schema type relationship target connection after
          ((LinkChange.add (targets.map Identifier.id)).links relationship.storage.Single owner
            (Loads schema type relationship connection))) ∧
      ChecksTargets connection target targets
        (Relinking.removeFromMany schema type relationship owner targets true)
        (fun any after =>
          (any = true ↔ ∃ id ∈ targets.map Identifier.id,
            Loads schema type relationship connection owner id) ∧
          Relinked schema type relationship target connection after
            ((LinkChange.remove (targets.map Identifier.id)).links relationship.storage.Single owner
              (Loads schema type relationship connection))) := by
  have linkable : Linkable schema connection.database type relationship target :=
    ⟨separate, stocked, relates, (filled.references separate agree stocked).keys relates⟩
  -- Reading leaves a connection on which the same is stored, linked and loaded.
  have read {middle : Connection} (same : middle.stored = connection.stored) :
      middle.database = connection.database := congrArg Prod.fst same
  have current {middle : Connection} (same : middle.stored = connection.stored) :
      ∃ ids reached, execute (currentTargets schema type relationship owner) middle =
          (.ok ids, reached) ∧ reached.database = connection.database ∧
        ∀ id, id ∈ ids ↔ Loads schema type relationship reached owner id := by
    have here := read same
    rw [← here] at linkable stored
    obtain ⟨ids, reached, done, kept, loaded⟩ := currentTargets_done linkable stored
    have there : reached.database = middle.database := congrArg Prod.fst kept
    rw [← loads_same linkable there] at loaded
    exact ⟨ids, reached, done, there.trans here, loaded⟩
  refine ⟨.of_same (execute_requireToMany toMany "replace" _) ?_,
    .of_same (execute_requireToMany toMany "add to" _) ?_,
    .of_same (execute_requireToMany toMany "remove from" _) ?_⟩
  · refine checksTargets separate stocked relates fun ids middle same asked known => ?_
    obtain ⟨linked, reached, loaded, here, members⟩ := current same
    rw [← here] at linkable stored known
    obtain ⟨after, done, relinked⟩ := replace_done linkable keyed stored members known
    refine ⟨(), after, ?_, (relinked.after_reading here).congr fun other _ id => ?_⟩
    · rw [execute_bind, loaded]
      exact done
    · unfold replacedLinks
      rw [loads_same linkable here.symm, asked]
  · refine checksTargets separate stocked relates fun ids middle same asked known => ?_
    have here := read same
    rw [← here] at linkable stored known
    obtain ⟨after, done, relinked⟩ := writing_done linkable (.add ids) keyed stored known
    refine ⟨(), after, done, (relinked.after_reading here).congr fun other _ id => ?_⟩
    unfold LinkChange.links
    dsimp only
    rw [loads_same linkable here.symm, asked]
  · refine checksTargets separate stocked relates fun ids middle same asked known => ?_
    obtain ⟨linked, reached, loaded, here, members⟩ := current same
    rw [← here] at linkable stored known
    obtain ⟨any, after, done, told, relinked⟩ := remove_done linkable keyed stored members known
    refine ⟨any, after, ?_, ?_, (relinked.after_reading here).congr fun other _ id => ?_⟩
    · rw [execute_bind, loaded]
      exact done
    · rw [told, loads_same linkable here.symm]
      exact exists_congr fun id => and_congr_left fun _ => asked id
    · unfold LinkChange.links
      dsimp only
      rw [loads_same linkable here.symm, asked]

end

theorem one_book_replaces_others :
    Shelf.schema.Separate ∧ Shelf.schema.KeyTypesAgree ∧
      Stocked Shelf.schema Shelf.connection.database ∧ Filled Shelf.schema Shelf.connection.database ∧
      Shelf.schema.Relates Shelf.author Shelf.books Shelf.book ∧
      Shelf.books.isToMany = true ∧ (∀ column, Shelf.books.storage ≠ .ownerKey column) ∧
      IsStored Shelf.connection.database Shelf.author "1" ∧
      ∃ after, execute (Relinking.replaceToMany Shelf.schema Shelf.author Shelf.books "1"
          [⟨"book", "2"⟩, ⟨"book", "2"⟩] true) Shelf.connection = (.ok (), after) ∧
        ∀ id, Loads Shelf.schema Shelf.author Shelf.books after "1" id ↔ id = "2" := by
  have keyed : ∀ column, Shelf.books.storage ≠ .ownerKey column := nofun
  have owner : IsStored Shelf.connection.database Shelf.author "1" := by decide +kernel
  refine ⟨Shelf.separate, Shelf.keyTypesAgree, Shelf.stocked, Shelf.filled, Shelf.relates, rfl, keyed, owner, ?_⟩
  obtain ⟨replaces, _, _⟩ := toMany_requests_change_links Shelf.separate Shelf.keyTypesAgree Shelf.stocked
    Shelf.filled Shelf.relates rfl keyed owner [⟨"book", "2"⟩, ⟨"book", "2"⟩]
  obtain ⟨⟨⟩, after, done, relinked⟩ := replaces.done (by decide +kernel)
  refine ⟨after, done, fun id => ((relinked.loads "1" owner).2 id).trans ?_⟩
  simp [replacedLinks]

/-- A day that is appended stays out where a note of the same text is linked in the same column. -/
theorem appended_day_stays_out :
    Diary.schema.Separate ∧ Stocked Diary.schema Diary.connection.database ∧
      Filled Diary.schema Diary.connection.database ∧ NoneDangles Diary.schema Diary.connection.database ∧
      Diary.schema.Relates Diary.post Diary.days Diary.day ∧ Diary.days.isToMany = true ∧
      (∀ column, Diary.days.storage ≠ .ownerKey column) ∧
      IsStored Diary.connection.database Diary.post "p" ∧
      IsStored Diary.connection.database Diary.day "2020-01-01" ∧
      ∃ after, execute (Relinking.appendToMany Diary.schema Diary.post Diary.days "p" [⟨"day", "2020-01-01"⟩])
          Diary.connection = (.ok (), after) ∧
        loadedTargets Diary.schema Diary.post Diary.days after "p" = .ok [] := by
  have appended : (execute (Relinking.appendToMany Diary.schema Diary.post Diary.days "p"
      [⟨"day", "2020-01-01"⟩]) Diary.connection).1 = .ok () := by decide +kernel
  exact ⟨Diary.separate, Diary.stocked, Diary.filled, Diary.undangling, Diary.relates, rfl, nofun,
    by decide +kernel, by decide +kernel, _, execute_outcome appended, by decide +kernel⟩

end ResourceServer
