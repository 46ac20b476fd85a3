import ResourceServer.Proofs.Readings

/-! Requests on types without processors. -/

namespace ResourceServer

open ResourceServer.Store ResourceServer.Mapping ResourceServer.Api ResourceServer.Calendar

/-- The settings of a type that has no processors. -/
structure Api.ResourceConfig.Plain (config : ResourceConfig) : Prop where
  before : config.preprocessors = []
  after : config.postprocessors = []

section

variable {endpoint : Endpoint} {context : Context}

theorem answerDocument_plain (plain : endpoint.config.Plain) (document : Handler Document) :
    answerDocument endpoint context document = do return .ofDocument 200 (← document) := by
  unfold answerDocument ResourceConfig.before ResourceConfig.after
  rw [plain.before, plain.after]
  simp only [List.filterMap_nil, Handler.preprocess, Handler.postprocess, pure_bind]

theorem carryOut_plainly (plain : endpoint.config.Plain) (action : SourceAction (Option Bool)) :
    carryOut endpoint context action = do
      Handler.transactionally do
        let _ ← Handler.source action
        return PUnit.unit
      return .noContent := by
  unfold carryOut ResourceConfig.before ResourceConfig.after
  rw [plain.before, plain.after]
  simp only [List.filterMap_nil, Handler.preprocess, pure_bind]
  rfl

theorem source_keeps {action : SourceAction (Option Bool)} (kept : Keeps Connection.savepoint action) :
    Keeps (fun handling : Handling => handling.connection.savepoint) (do
      let _ ← Handler.source action
      return PUnit.unit) :=
  keeps_bind (keeps_source kept) fun _ => keeps_pure _

theorem carryOut_plain (plain : endpoint.config.Plain) {action : SourceAction (Option Bool)}
    (kept : Keeps Connection.savepoint action) {database : Database} {value : Option Bool}
    {after : Connection} (done : execute action ⟨database, some database, ["BEGIN"]⟩ = (.ok value, after)) :
    ∃ reached, execute (carryOut endpoint context action) ⟨⟨database, none, []⟩, []⟩ =
      (.ok .noContent, reached) ∧ reached.connection.database = after.database := by
  have begun : execute (do
      let _ ← Handler.source action
      return PUnit.unit) (openTransaction ⟨⟨database, none, []⟩, []⟩) = (.ok ⟨⟩, ⟨after, []⟩) := by
    have done' : execute action (openTransaction ⟨⟨database, none, []⟩, []⟩).connection =
        (.ok value, after) := done
    rw [execute_bind, execute_source, done']
    rfl
  rw [carryOut_plainly plain, execute_bind, execute_transactionally _ (source_keeps kept), begun]
  exact ⟨_, rfl, rfl⟩

theorem carryOut_refused (plain : endpoint.config.Plain) {action : SourceAction (Option Bool)}
    (kept : Keeps Connection.savepoint action) {database : Database} {error : RequestError}
    {after : Connection} (failed : execute action ⟨database, some database, ["BEGIN"]⟩ = (.error error, after)) :
    (execute (carryOut endpoint context action) ⟨⟨database, none, []⟩, []⟩).1 = .error error := by
  have begun : execute (do
      let _ ← Handler.source action
      return PUnit.unit) (openTransaction ⟨⟨database, none, []⟩, []⟩) = (.error error, ⟨after, []⟩) := by
    have failed' : execute action (openTransaction ⟨⟨database, none, []⟩, []⟩).connection =
        (.error error, after) := failed
    rw [execute_bind, execute_source, failed']
    rfl
  rw [carryOut_plainly plain, execute_bind, execute_transactionally _ (source_keeps kept), begun]

end

section

variable {api : Api} {endpoint : Endpoint} {request : Request} {id : String} {now : Timestamp}
  {database : Database}

theorem answered_ok {document : Document}
    (body : (handle api now request database).response.body = some document)
    (data : document.data.isSome) :
    ∃ after, execute (dispatch api now request) ⟨⟨database, none, []⟩, []⟩ =
      (.ok (handle api now request database).response, after) := by
  rw [handle_response] at body ⊢
  rcases run : execute (dispatch api now request) ⟨⟨database, none, []⟩, []⟩ with ⟨result, after⟩
  rw [run] at body
  cases result with
  | ok response => exact ⟨after, rfl⟩
  | error error =>
      cases body
      cases data

theorem resource_answered (routed : api.route request.url.path = .ok (endpoint, .resource id))
    (reading : request.verb = .get) (plain : endpoint.config.Plain) {document : Document}
    (body : (handle api now request database).response.body = some document)
    (data : document.data.isSome) :
    endpoint.config.allows .get = true ∧ ∃ parameters,
      Runs database (resourceDocument api endpoint request id parameters) document := by
  obtain ⟨after, run⟩ := answered_ok body data
  rw [dispatch_routed routed, reading] at run
  by_cases allowed : endpoint.config.allows .get = true
  swap
  · rw [if_neg allowed] at run
    cases run
  rw [if_pos allowed] at run
  refine ⟨allowed, ?_⟩
  unfold carryOutRoute getResource at run
  dsimp only at run
  rw [answerDocument_plain plain] at run
  obtain ⟨shown, handling, made, run⟩ := execute_bind_ok run
  obtain ⟨parameters, begun, read, made⟩ := execute_bind_ok made
  cases asked : parametersOf request with
  | error _ =>
      rw [asked] at read
      cases read
  | ok given =>
      rw [asked] at read
      cases read
      rw [execute_source] at made
      have response := (Except.ok.inj (congrArg Prod.fst run)).symm
      rw [response] at body
      cases body
      have result := congrArg Prod.fst made
      exact ⟨parameters, ⟨database, none, []⟩, _, rfl, Prod.ext result rfl⟩

end

/-! Requests that carry out an action with what they read from their body. -/

section

variable {api : Api} {endpoint : Endpoint} {request : Request} {now : Timestamp} {database : Database} {α : Type}
  {read : Except RequestError α} {context : Context} {action : α → SourceAction (Option Bool)}

theorem noContent_of_done (plain : endpoint.config.Plain) (kept : ∀ value, Keeps Connection.savepoint (action value))
    (handles : dispatch api now request =
      Handler.ofExcept read >>= fun value => carryOut endpoint context (action value))
    {value : α} {flag : Option Bool} {after : Connection} (given : read = .ok value)
    (done : execute (action value) ⟨database, some database, ["BEGIN"]⟩ = (.ok flag, after)) :
    (handle api now request database).response = .noContent ∧
      (handle api now request database).database = after.database := by
  obtain ⟨reached, run, same⟩ : ∃ reached, execute (dispatch api now request) ⟨⟨database, none, []⟩, []⟩ =
      (.ok .noContent, reached) ∧ reached.connection.database = after.database := by
    rw [handles, given]
    exact carryOut_plain plain (kept value) done
  constructor
  · rw [handle_response, run]
  · change (execute (dispatch api now request) ⟨⟨database, none, []⟩, []⟩).2.connection.database = _
    rw [run, same]

theorem dispatch_resource {id : String} (now : Timestamp)
    (routed : api.route request.url.path = .ok (endpoint, .resource id)) (writing : request.verb = .patch)
    (allowed : endpoint.config.allows .patch = true) :
    ∃ context : Context, dispatch api now request =
      Handler.ofExcept (readChange endpoint request id) >>= fun change => carryOut endpoint context do
        changeResource api endpoint id change.1 change.2
        return none := by
  rw [dispatch_routed routed, writing, if_pos allowed]
  exact ⟨_, rfl⟩

theorem changing_keeps (api : Api) (endpoint : Endpoint) (id : String)
    (change : Keyed Value × List (Relationship × Linkage)) : Keeps Connection.savepoint (do
      changeResource api endpoint id change.1 change.2
      return (none : Option Bool)) :=
  keeps_bind (changeResource_keeps ..) fun _ => keeps_pure _

/-- A change of a resource that can be carried out is kept, where there are no processors. -/
theorem resource_changed {id : String} (routed : api.route request.url.path = .ok (endpoint, .resource id))
    (writing : request.verb = .patch) (allowed : endpoint.config.allows .patch = true)
    (plain : endpoint.config.Plain) {values : Keyed Value} {linkages : List (Relationship × Linkage)}
    (change : readChange endpoint request id = .ok (values, linkages)) {after : Connection}
    (done : execute (changeResource api endpoint id values linkages)
      ⟨database, some database, ["BEGIN"]⟩ = (.ok (), after)) :
    (handle api now request database).response = .noContent ∧
      (handle api now request database).database = after.database := by
  obtain ⟨context, handles⟩ := dispatch_resource now routed writing allowed
  have finished : execute (do
      changeResource api endpoint id values linkages
      return (none : Option Bool)) ⟨database, some database, ["BEGIN"]⟩ = (.ok none, after) := by
    rw [execute_bind, done]
    rfl
  exact noContent_of_done plain (changing_keeps api endpoint id) handles change finished

end

end ResourceServer
