import ResourceServer.Mapping.Registration
import ResourceServer.Proofs.Atomicity

/-! What every request keeps, and the databases that requests lead to. -/

namespace ResourceServer

open ResourceServer.Store ResourceServer.Mapping ResourceServer.Api

variable {α : Type}

def EntityType.Owns (type : EntityType) (relationship : Relationship) : Prop :=
  type.relationship? relationship.name = some relationship

theorem owns_of_found {type : EntityType} {name : String} {relationship : Relationship}
    (found : type.relationship? name = some relationship) : type.Owns relationship := by
  have named : relationship.name = name := by simpa using List.find?_some found
  unfold EntityType.Owns
  rw [named]
  exact found

theorem EntityType.Owns.mem {type : EntityType} {relationship : Relationship}
    (owned : type.Owns relationship) : relationship ∈ type.relationships :=
  List.mem_of_find?_eq_some owned

def Maintains {ε : Type} (holds : Database → Prop) (action : Action ε α) : Prop :=
  Establishes (fun connection => holds connection.database) action
    fun _ connection => holds connection.database

def Yields {ε : Type} (before : Database → Prop) (action : Action ε α) (after : Database → Prop) : Prop :=
  Establishes (fun connection => before connection.database) action
    fun _ connection => after connection.database

def Passes (before : Database → Prop) (step : Handler α) (after : Database → Prop) : Prop :=
  Establishes (fun handling => before handling.connection.database) step
    fun _ handling => after handling.connection.database

theorem maintains_of_keeps {ε : Type} {holds : Database → Prop} {action : Action ε α}
    (kept : Keeps Connection.stored action) : Maintains holds action :=
  establishes_of_keeps Connection.database holds (keeps_view Prod.fst kept fun _ => rfl)

theorem passes_of_keeps {holds : Database → Prop} {step : Handler α}
    (kept : Keeps (fun handling => handling.connection.stored) step) : Passes holds step holds :=
  establishes_of_keeps (fun handling : Handling => handling.connection.database) holds
    (keeps_view Prod.fst kept fun _ => rfl)

section

variable {before after : Database → Prop}

theorem passes_transactionally {action : Handler α}
    (kept : Keeps (fun handling => handling.connection.savepoint) action)
    (inner : Passes before action after) : Passes before (Handler.transactionally action) after := by
  refine ⟨fun {handling ended value} start run => ?_⟩
  rw [execute_transactionally action kept] at run
  rcases opened : handling.connection.savepoint with _ | saved
  · rw [opened] at run
    rcases outcome : execute action (openTransaction handling) with ⟨result, inside⟩
    rw [outcome] at run
    cases result with
    | error failure => cases run
    | ok found =>
        cases run
        have begun : before (openTransaction handling).connection.database := start
        have done : after inside.connection.database := inner.sound begun outcome
        exact done
  · rw [opened] at run
    cases run

theorem carryOut_passes {endpoint : Endpoint} {context : Context}
    {action : SourceAction (Option Bool)} (kept : Keeps Connection.savepoint action)
    (inner : Yields before action after) : Passes before (carryOut endpoint context action) after := by
  refine establishes_bind (passes_transactionally ?_ ?_) fun _ => passes_of_keeps (keeps_pure _)
  · exact keeps_bind (preprocess_keeps ..) fun _ =>
      keeps_bind (keeps_source kept) fun _ => postprocessEmpty_keeps ..
  · exact establishes_bind (passes_of_keeps (preprocess_keeps ..)) fun _ =>
      establishes_bind (establishes_source inner) fun _ =>
        passes_of_keeps (postprocessEmpty_keeps ..)

end

/-- What the part of a request that writes leads to, whichever part it is. -/
structure WritesYield (api : Api) (request : Request) (before after : Database → Prop) : Prop where
  idle : ∀ database, before database → after database
  store : ∀ {endpoint : Endpoint} {values : Keyed Value} {linkages : List (Relationship × Linkage)},
    request.verb = .post → api.route request.url.path = .ok (endpoint, .collection) →
      readCreation endpoint request = .ok (values, linkages) →
        Yields before (storeResource api endpoint request values linkages) after
  change : ∀ {endpoint : Endpoint} {id : String} {values : Keyed Value}
    {linkages : List (Relationship × Linkage)},
    request.verb = .patch → api.route request.url.path = .ok (endpoint, .resource id) →
      readChange endpoint request id = .ok (values, linkages) →
        Yields before (changeResource api endpoint id values linkages) after
  delete : ∀ {endpoint : Endpoint} {id : String},
    request.verb = .delete → api.route request.url.path = .ok (endpoint, .resource id) →
      Yields before (Mapping.delete api.schema endpoint.type id) after
  links : ∀ {endpoint : Endpoint} {id name : String} {relationship : Relationship} {data : Json}
    {linkage : Linkage},
    request.verb ≠ .get → api.route request.url.path = .ok (endpoint, .relationship id name) →
      endpoint.type.relationship? name = some relationship → requestData request = .ok data →
        Linkage.ofJson relationship data = .ok linkage →
          Yields before
            (changeLinks api endpoint (linkOperation request.verb) id relationship linkage) after

/-- The part of each request of some kind that writes keeps a property of the database if it succeeds. -/
structure WritesKeep (api : Api) (allowed : Request → Prop) (holds : Database → Prop) : Prop where
  store : ∀ {endpoint : Endpoint} {request : Request} {values : Keyed Value}
    {linkages : List (Relationship × Linkage)}, endpoint.type ∈ api.schema.types →
      allowed request → readCreation endpoint request = .ok (values, linkages) →
        Maintains holds (storeResource api endpoint request values linkages)
  change : ∀ {endpoint : Endpoint} {request : Request} {id : String} {values : Keyed Value}
    {linkages : List (Relationship × Linkage)}, endpoint.type ∈ api.schema.types →
      readChange endpoint request id = .ok (values, linkages) →
        Maintains holds (changeResource api endpoint id values linkages)
  delete : ∀ {type : EntityType} {id : String}, type ∈ api.schema.types →
    Maintains holds (Mapping.delete api.schema type id)
  links : ∀ {endpoint : Endpoint} {operation : Operation} {id : String}
    {relationship : Relationship} {linkage : Linkage}, endpoint.type ∈ api.schema.types →
      endpoint.type.Owns relationship →
        Maintains holds (changeLinks api endpoint operation id relationship linkage)

theorem routeAmong_known {schema : Schema} {config : ApiConfig} {path : String}
    {resources : List (String × ResourceConfig)} {endpoint : Endpoint} {route : Route}
    (found : routeAmong schema config path resources = some (endpoint, route)) :
    endpoint.type ∈ schema.types := by
  induction resources with
  | nil => cases found
  | cons entry rest ih =>
      unfold routeAmong at found
      split at found
      · rename_i type segments known _
        obtain ⟨route', _, same⟩ := Option.map_eq_some_iff.mp found
        cases same
        exact List.mem_of_find?_eq_some known
      · exact ih found

theorem route_known {api : Api} {path : String} {endpoint : Endpoint} {route : Route}
    (found : api.route path = .ok (endpoint, route)) : endpoint.type ∈ api.schema.types := by
  unfold Api.route at found
  split at found
  · rename_i entry among
    cases found
    exact routeAmong_known among
  · cases found

section

variable {api : Api} {request : Request} {before after : Database → Prop}
  (writes : WritesYield api request before after)
include writes

theorem passes_idle {step : Handler α}
    (kept : Keeps (fun handling => handling.connection.stored) step) : Passes before step after :=
  establishes_weaken (passes_of_keeps kept) (fun _ start => start)
    fun _ handling => writes.idle handling.connection.database

theorem createResource_passes {endpoint : Endpoint} (posted : request.verb = .post)
    (routed : api.route request.url.path = .ok (endpoint, .collection)) :
    Passes before (createResource api endpoint request) after := by
  refine establishes_bind (establishes_result (fun read handling =>
    before handling.connection.database ∧ readCreation endpoint request = .ok read)
    fun read found handling start => ⟨start, found⟩) fun read => ?_
  obtain ⟨values, linkages⟩ := read
  refine ⟨fun {handling ended value} ⟨start, found⟩ => ?_⟩
  refine (establishes_bind (passes_transactionally ?_ ?_)
    fun _ => passes_of_keeps (keeps_pure _)).sound start
  · exact keeps_bind (preprocess_keeps ..) fun _ =>
      keeps_bind (keeps_source (storeResource_keeps ..)) fun _ =>
      keeps_bind (postprocess_keeps ..) fun _ => keeps_pure _
  · exact establishes_bind (passes_of_keeps (preprocess_keeps ..)) fun _ =>
      establishes_bind (establishes_source (writes.store posted routed found)) fun _ =>
        passes_of_keeps (keeps_bind (postprocess_keeps ..) fun _ => keeps_pure _)

theorem updateResource_passes {endpoint : Endpoint} {id : String} (patched : request.verb = .patch)
    (routed : api.route request.url.path = .ok (endpoint, .resource id)) :
    Passes before (updateResource api endpoint request id) after := by
  refine establishes_bind (establishes_result (fun read handling =>
    before handling.connection.database ∧ readChange endpoint request id = .ok read)
    fun read found handling start => ⟨start, found⟩) fun read => ?_
  obtain ⟨values, linkages⟩ := read
  refine ⟨fun {handling ended value} ⟨start, found⟩ => ?_⟩
  refine (carryOut_passes (keeps_bind (changeResource_keeps ..) fun _ => keeps_pure _) ?_).sound
    start
  exact establishes_bind (writes.change patched routed found)
    fun _ => maintains_of_keeps (keeps_pure _)

theorem deleteResource_passes {endpoint : Endpoint} {id : String} (deleted : request.verb = .delete)
    (routed : api.route request.url.path = .ok (endpoint, .resource id)) :
    Passes before (deleteResource api endpoint request id) after := by
  refine carryOut_passes
    (keeps_bind (writing_keeps (delete_keeps ..)) fun _ => keeps_guard (keeps_pure _)) ?_
  exact establishes_bind (establishes_mapError _ (writes.delete deleted routed)) fun _ =>
    establishes_guard fun _ => maintains_of_keeps (keeps_pure _)

theorem updateLinks_passes {endpoint : Endpoint} {id name : String} (writing : request.verb ≠ .get)
    (routed : api.route request.url.path = .ok (endpoint, .relationship id name))
    {relationship : Relationship} (found : endpoint.type.relationship? name = some relationship) :
    Passes before (updateLinks api endpoint request id relationship) after := by
  refine establishes_bind (passes_of_keeps (keeps_result _)) fun _ => ?_
  refine establishes_bind (establishes_result (fun data handling =>
    before handling.connection.database ∧ requestData request = .ok data)
    fun data read handling start => ⟨start, read⟩) fun data => ?_
  refine establishes_bind (establishes_result (fun linkage handling =>
    (before handling.connection.database ∧ requestData request = .ok data) ∧
      Linkage.ofJson relationship data = .ok linkage)
    fun linkage read handling start => ⟨start, read⟩) fun linkage => ?_
  refine ⟨fun {handling ended value} ⟨⟨start, given⟩, read⟩ => ?_⟩
  exact (carryOut_passes (changeLinks_keeps ..)
    (writes.links writing routed found given read)).sound start

theorem carryOutRoute_passes (now : Calendar.Timestamp) {endpoint : Endpoint} {route : Route}
    (routed : api.route request.url.path = .ok (endpoint, route)) :
    Passes before (carryOutRoute api now endpoint request route request.verb) after := by
  have refused (method path : String) :
      Passes before (throw (.methodNotAllowed method path) : Handler Response) after :=
    establishes_throw _
  have linked {id name : String} (writing : request.verb ≠ .get)
      (routed : api.route request.url.path = .ok (endpoint, .relationship id name)) :
      Passes before (do
        updateLinks api endpoint request id
          (← Handler.ofExcept (Api.findRelationship endpoint.type name))) after := by
    unfold Api.findRelationship
    cases found : endpoint.type.relationship? name with
    | none => exact establishes_throw_bind _
    | some relationship => exact updateLinks_passes writes writing routed found
  cases verb : request.verb with
  | get => exact passes_idle writes (reading_request_keeps ..)
  | post =>
      cases route with
      | collection => exact createResource_passes writes verb routed
      | relationship id name => exact linked (by rw [verb]; nofun) routed
      | resource id => exact refused ..
      | related id name => exact refused ..
  | patch =>
      cases route with
      | resource id => exact updateResource_passes writes verb routed
      | relationship id name => exact linked (by rw [verb]; nofun) routed
      | collection => exact refused ..
      | related id name => exact refused ..
  | delete =>
      cases route with
      | resource id => exact deleteResource_passes writes verb routed
      | relationship id name => exact linked (by rw [verb]; nofun) routed
      | collection => exact refused ..
      | related id name => exact refused ..

theorem dispatch_passes (now : Calendar.Timestamp) : Passes before (dispatch api now request) after := by
  refine establishes_bind (establishes_result (fun found handling =>
    before handling.connection.database ∧ api.route request.url.path = .ok found)
    fun found routed handling start => ⟨start, routed⟩) fun found => ?_
  obtain ⟨endpoint, route⟩ := found
  refine ⟨fun {handling ended value} ⟨start, routed⟩ run => ?_⟩
  dsimp only at run
  split at run
  · cases run
  · exact (carryOutRoute_passes writes now routed).sound start run

theorem handle_yields (now : Calendar.Timestamp) {database : Database} (start : before database) :
    after (handle api now request database).database := by
  have ended : (handle api now request database).database =
      (execute (dispatch api now request) ⟨⟨database, none, []⟩, []⟩).2.connection.database := rfl
  rw [ended]
  rcases outcome : execute (dispatch api now request) ⟨⟨database, none, []⟩, []⟩ with ⟨result, reached⟩
  cases result with
  | error error =>
      have undone := (dispatch_atomic api now request).undone outcome
      have same : reached.connection.database = database := congrArg Prod.fst undone
      dsimp only
      rw [same]
      exact writes.idle database start
  | ok response => exact (dispatch_passes writes now).sound start outcome

end

theorem WritesKeep.lead {api : Api} {allowed : Request → Prop} {holds : Database → Prop}
    (writes : WritesKeep api allowed holds) {request : Request} (fits : allowed request) :
    WritesYield api request holds holds where
  idle _ start := start
  store _ routed read := writes.store (route_known routed) fits read
  change _ routed read := writes.change (route_known routed) read
  delete _ routed := writes.delete (route_known routed)
  links _ routed found _ _ := writes.links (route_known routed) (owns_of_found found)

/-- The databases that requests of some kind lead to from the tables of a schema without rows. -/
inductive Reachable (api : Api) (allowed : Request → Prop) : Database → Prop
  | registered {connection : Connection}
      (done : execute (Mapping.register api.schema) ⟨Database.empty, none, []⟩ = (.ok (), connection)) :
      Reachable api allowed connection.database
  | handled {database : Database} (now : Calendar.Timestamp) {request : Request}
      (fits : allowed request) (before : Reachable api allowed database) :
      Reachable api allowed (handle api now request database).database

/-- What holds without rows and is kept by the writing part of each request holds of every reachable
database. -/
theorem reachable_holds {api : Api} {allowed : Request → Prop} {holds : Database → Prop}
    (writes : WritesKeep api allowed holds)
    (start : ∀ connection, execute (Mapping.register api.schema) ⟨Database.empty, none, []⟩ =
      (.ok (), connection) → holds connection.database)
    {database : Database} (reachable : Reachable api allowed database) : holds database := by
  induction reachable with
  | registered done => exact start _ done
  | handled now fits _ ih => exact handle_yields (writes.lead fits) now ih

end ResourceServer
