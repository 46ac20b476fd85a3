import ResourceServer.Proofs.Removal
import ResourceServer.Proofs.Resources

/-! What changes preserve holds of every database that requests lead to. -/

namespace ResourceServer

open ResourceServer.Store ResourceServer.Mapping ResourceServer.Api

theorem ready_none {schema : Schema} {sound : Prop} {holds : Database → Prop} {database : Database} :
    Ready schema sound holds (fun _ _ => False) database ↔ Laid schema database ∧ holds database :=
  ⟨fun ready => ⟨ready.laid, ready.held⟩, fun both => ⟨both.1, both.2, fun _ _ _ _ none => none.elim⟩⟩

theorem maintains_ready {α ε : Type} {schema : Schema} {sound : Prop} {holds : Database → Prop}
    {action : Action ε α}
    (kept : Maintains (Ready schema sound holds fun _ _ => False) action) :
    Maintains (fun database => Laid schema database ∧ holds database) action :=
  establishes_weaken kept (fun _ => ready_none.mpr) fun _ _ => ready_none.mp

theorem establishes_forget {α ε : Type} {schema : Schema} {sound : Prop} {holds : Database → Prop}
    {present : EntityType → Cell → Prop} {action : Action ε α}
    (kept : Maintains (Ready schema sound holds present) action) :
    Establishes (fun connection => Ready schema sound holds present connection.database) action
      fun _ connection => Ready schema sound holds (fun _ _ => False) connection.database :=
  establishes_weaken kept (fun _ ready => ready) fun _ _ ready => ready.weaken fun _ _ => False.elim

/-- A request that links a new resource gives it an identity whose text settles, if it is a duration. -/
def StableIds (schema : Schema) (request : Request) : Prop :=
  ∀ endpoint : Endpoint, endpoint.type ∈ schema.types → ∀ values linkages,
    readCreation endpoint request = .ok (values, linkages) →
      (∃ entry ∈ linkages, entry.1.namesOwner) → endpoint.type.identity.type = .duration →
        ∀ value, values.get? endpoint.type.identity.name = some value → endpoint.type.Settles value

section

variable {api : Api} {sound : Prop} {holds : Database → Prop}
  (invariant : Invariant api.schema sound holds) {endpoint : Endpoint}
  (known : endpoint.type ∈ api.schema.types)
include invariant known

theorem storeResource_ready {request : Request} {values : Keyed Value}
    {linkages : List (Relationship × Linkage)} (stable : sound → StableIds api.schema request)
    (read : readCreation endpoint request = .ok (values, linkages)) :
    Maintains (Ready api.schema sound holds fun _ _ => False)
      (storeResource api endpoint request values linkages) := by
  obtain ⟨filled, own⟩ := readCreation_fills read
  refine establishes_bind (establishes_mapError _ (insert_ready invariant known _ filled
    fun holds named temporal => stable holds endpoint known values linkages read named temporal))
    fun resource => ?_
  have owned : ∀ entry ∈ linkages, Owned api.schema
      (fun other cell => (∃ entry ∈ linkages, entry.1.namesOwner) ∧ other = endpoint.type ∧
        idCell? endpoint.type resource.id = some cell) endpoint.type entry.1 resource.id := by
    intro entry member
    exact ⟨known, own entry member, fun named cell spelled =>
      ⟨⟨entry, member, named⟩, rfl, spelled⟩⟩
  refine establishes_forget (establishes_bind (writeLinkages_ready invariant.links owned true) fun _ => ?_)
  exact establishes_given fun _ _ =>
    establishes_bind (maintains_of_keeps (assemble_keeps ..)) fun _ =>
      maintains_of_keeps (keeps_pure _)

theorem changeResource_ready {request : Request} {id : String} {values : Keyed Value}
    {linkages : List (Relationship × Linkage)}
    (read : readChange endpoint request id = .ok (values, linkages)) :
    Maintains (Ready api.schema sound holds fun _ _ => False)
      (changeResource api endpoint id values linkages) := by
  obtain ⟨filled, own⟩ := readChange_fills read
  refine establishes_bind (establishes_mapError _ (update_ready invariant known filled))
    fun existed => ?_
  have owned : ∀ entry ∈ linkages, Owned api.schema
      (fun other cell => other = endpoint.type ∧ idCell? endpoint.type id = some cell)
      endpoint.type entry.1 id :=
    fun entry member => ⟨known, own entry member, fun _ cell spelled => ⟨rfl, spelled⟩⟩
  refine establishes_guard fun failed => ?_
  have existing : existed = true := by simpa using failed
  exact establishes_weaken (establishes_forget (writeLinkages_ready invariant.links owned _))
    (fun _ ready => ready existing) fun _ _ ready => ready

omit invariant in
theorem changeLinks_ready (links : LinkInvariant api.schema sound holds) {operation : Operation}
    {id : String} {relationship : Relationship} (own : endpoint.type.Owns relationship) (linkage : Linkage) :
    Maintains (Ready api.schema sound holds fun _ _ => False)
      (changeLinks api endpoint operation id relationship linkage) := by
  have owned : Owned api.schema
      (fun other cell => other = endpoint.type ∧ idCell? endpoint.type id = some cell)
      endpoint.type relationship id := ⟨known, own.mem, fun _ cell spelled => ⟨rfl, spelled⟩⟩
  have required : Establishes
      (fun connection => Ready api.schema sound holds (fun _ _ => False) connection.database)
      (requireResource endpoint.type id)
      fun _ connection => Ready api.schema sound holds
        (fun other cell => other = endpoint.type ∧ idCell? endpoint.type id = some cell)
        connection.database := by
    refine ⟨fun {connection after resource} ready run => ?_⟩
    obtain ⟨same, present⟩ := requireResource_run ready.laid.wide run
    rw [same]
    refine ⟨ready.laid, ready.held, ?_⟩
    rintro _ other _ cell ⟨rfl, spelled⟩
    exact present cell spelled
  refine establishes_bind required fun _ => establishes_forget ?_
  split
  · exact establishes_bind (appendToMany_ready links owned _) fun _ =>
      maintains_of_keeps (keeps_pure _)
  · exact establishes_bind (writeLinkage_ready links owned linkage _) fun _ =>
      maintains_of_keeps (keeps_pure _)
  · exact establishes_bind (removeFromMany_maintains links owned _ _) fun _ =>
      maintains_of_keeps (keeps_pure _)

end

theorem writes_keep {api : Api} {allowed : Request → Prop} {sound : Prop} {holds : Database → Prop}
    (invariant : Invariant api.schema sound holds)
    (stable : sound → ∀ request, allowed request → StableIds api.schema request) :
    WritesKeep api allowed fun database => Laid api.schema database ∧ holds database where
  store known fits read := maintains_ready (storeResource_ready invariant known
    (fun holds => stable holds _ fits) read)
  change known read := maintains_ready (changeResource_ready invariant known read)
  delete known := maintains_ready (delete_ready invariant known _)
  links known own := maintains_ready (changeLinks_ready known invariant.links own _)

/-- What holds without rows and is preserved by changes holds of every reachable database. -/
theorem reachable_invariant {api : Api} {allowed : Request → Prop} {sound : Prop}
    {holds : Database → Prop} (invariant : Invariant api.schema sound holds)
    (stable : sound → ∀ request, allowed request → StableIds api.schema request)
    (start : ∀ connection, execute (register api.schema) ⟨Database.empty, none, []⟩ =
      (.ok (), connection) → holds connection.database)
    {database : Database} (reachable : Reachable api allowed database) :
    Laid api.schema database ∧ holds database :=
  reachable_holds (writes_keep invariant stable)
    (fun connection done => ⟨registered_laid invariant.tables done, start connection done⟩) reachable

end ResourceServer
