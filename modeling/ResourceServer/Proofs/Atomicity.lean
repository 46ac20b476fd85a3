import ResourceServer.Api.Dispatch
import ResourceServer.Proofs.Steps

/-! Requests are atomic: one that fails or only reads leaves every table as it was. -/

namespace ResourceServer

open ResourceServer.Store ResourceServer.Mapping ResourceServer.Api

variable {ε α β : Type}

def Store.Connection.stored (connection : Connection) : Database × Option Database :=
  (connection.database, connection.savepoint)

/-! Statements that read. -/

theorem select_keeps (select : Select) : Keeps Connection.stored (Action.select select) :=
  keeps_bind keeps_get fun _ => keeps_bind (keeps_modify fun _ => rfl) fun _ => keeps_ofExcept _

theorem selectAll_keeps (select : Select) : Keeps Connection.stored (selectAll select) :=
  keeps_bind (keeps_mapError _ (select_keeps select)) fun _ => keeps_ofExcept _

theorem query_keeps (schema : Schema) (type : EntityType) (query : Mapping.Query) :
    Keeps Connection.stored (Mapping.query schema type query) :=
  keeps_bind (keeps_ofExcept _) fun _ => keeps_bind (selectAll_keeps _) fun _ => keeps_ofExcept _

theorem count_keeps (schema : Schema) (type : EntityType) (predicate : Filter.Predicate) :
    Keeps Connection.stored (Mapping.count schema type predicate) := by
  refine keeps_bind (keeps_ofExcept _) fun _ => keeps_bind (keeps_mapError _ (select_keeps _))
    fun _ => keeps_bind (keeps_ofExcept _) fun row => ?_
  split
  · exact keeps_pure _
  · exact keeps_throw _
  · exact keeps_throw _

theorem get_keeps (type : EntityType) (ids : List String) :
    Keeps Connection.stored (Mapping.get type ids) := by
  unfold Mapping.get
  dsimp only
  split
  · exact keeps_pure _
  · exact keeps_bind (selectAll_keeps _) fun _ => keeps_ofExcept _

theorem loadRelation_keeps (schema : Schema) (type : EntityType) (relationship : Relationship)
    (owners : List String) :
    Keeps Connection.stored (loadRelation schema type relationship owners) := by
  refine keeps_bind (keeps_ofExcept _) fun found => ?_
  dsimp only
  split
  · exact keeps_pure _
  · exact keeps_bind (selectAll_keeps _) fun _ => keeps_ofExcept _

theorem reading_keeps {action : MappingAction α} (kept : Keeps Connection.stored action) :
    Keeps Connection.stored (SourceAction.reading action) :=
  keeps_mapError _ kept

/-! Reading for a document. -/

theorem followChild_keeps (schema : Schema) (front : Inclusion.Front)
    (progress : Inclusion.Progress) (name : String) (child : PathTree) :
    Keeps Connection.stored (Inclusion.followChild schema front progress name child) := by
  unfold Inclusion.followChild
  split
  · exact keeps_bind (reading_keeps (loadRelation_keeps ..)) fun _ => keeps_pure _
  · exact keeps_pure _

theorem followFront_keeps (schema : Schema) (front : Inclusion.Front)
    (progress : Inclusion.Progress) :
    Keeps Connection.stored (Inclusion.followFront schema front progress) := by
  unfold Inclusion.followFront
  split
  · exact keeps_pure _
  · exact keeps_foldlM (fun _ _ => keeps_bind (followChild_keeps ..) fun _ => keeps_pure _) _

theorem followLevels_keeps (schema : Schema) (levels : Nat) (fronts : List Inclusion.Front)
    (progress : Inclusion.Progress) :
    Keeps Connection.stored (Inclusion.followLevels schema levels fronts progress) := by
  induction levels generalizing fronts progress with
  | zero => exact keeps_pure _
  | succ levels ih =>
      refine keeps_bind (keeps_foldlM (fun _ _ => ?_) _) fun _ => ih _ _
      exact keeps_bind (followFront_keeps ..) fun _ => keeps_pure _

theorem resolve_keeps (schema : Schema) (type : EntityType) (roots : List Instance) (paths : List String) :
    Keeps Connection.stored (Inclusion.resolve schema type roots paths) :=
  keeps_bind (keeps_ofExcept _) fun _ => keeps_bind (followLevels_keeps ..) fun _ => keeps_pure _

theorem include_keeps (schema : Schema) (type : EntityType) (config : ResourceConfig)
    (parameters : Parameters) (roots : List Instance) :
    Keeps Connection.stored (includeFor schema type config parameters roots) := by
  unfold includeFor
  dsimp only
  split
  · exact keeps_pure _
  · exact keeps_bind (resolve_keeps ..) fun _ => keeps_pure _

theorem render_keeps (assembler : Assembler) (schema : Schema) (resources : List Instance)
    (fieldsets : Fieldsets) :
    Keeps Connection.stored (assembler.render schema resources fieldsets) := by
  refine keeps_bind (keeps_bind (keeps_mapM fun type => ?_) fun _ => keeps_pure _)
    fun _ => keeps_pure _
  refine keeps_mapM fun relationship => ?_
  exact keeps_bind (reading_keeps (loadRelation_keeps ..)) fun _ => keeps_pure _

theorem assemble_keeps (assembler : Assembler) (schema : Schema) (data : PrimaryData)
    (included : Option (List Instance)) (page : Option Paging.Page) (url : Url)
    (fieldsets : Fieldsets) :
    Keeps Connection.stored
      (assembler.assemble schema data included page url fieldsets) := by
  refine keeps_bind (render_keeps ..) fun rendered => ?_
  dsimp only
  split
  · refine keeps_bind (render_keeps ..) fun _ => keeps_bind (keeps_pure _) fun _ => ?_
    exact keeps_guard (keeps_pure _)
  · exact keeps_bind (keeps_pure _) fun _ => keeps_guard (keeps_pure _)

theorem requireResource_keeps (type : EntityType) (id : String) :
    Keeps Connection.stored (requireResource type id) := by
  refine keeps_bind (reading_keeps (get_keeps type [id])) fun found => ?_
  split
  · exact keeps_pure _
  · exact keeps_throw _

theorem loadTargets_keeps (schema : Schema) (type : EntityType) (relationship : Relationship)
    (id : String) : Keeps Connection.stored (loadTargets schema type relationship id) :=
  keeps_bind (reading_keeps (loadRelation_keeps ..)) fun _ => keeps_pure _

theorem collectionDocument_keeps (api : Api) (now : Calendar.Timestamp) (endpoint : Endpoint)
    (request : Request) (parameters : Parameters) :
    Keeps Connection.stored (collectionDocument api now endpoint request parameters) := by
  refine keeps_bind (keeps_ofExcept _) fun predicate => keeps_bind (keeps_ofExcept _) fun _ =>
    keeps_bind (keeps_ofExcept _) fun page => keeps_bind (reading_keeps (query_keeps ..))
    fun resources => ?_
  dsimp only
  split
  · exact keeps_bind (reading_keeps (count_keeps ..)) fun _ =>
      keeps_bind (include_keeps ..) fun _ => assemble_keeps ..
  · exact keeps_bind (keeps_pure _) fun _ =>
      keeps_bind (include_keeps ..) fun _ => assemble_keeps ..

theorem resourceDocument_keeps (api : Api) (endpoint : Endpoint) (request : Request) (id : String)
    (parameters : Parameters) :
    Keeps Connection.stored (resourceDocument api endpoint request id parameters) :=
  keeps_bind (requireResource_keeps ..) fun _ => keeps_bind (include_keeps ..) fun _ =>
    assemble_keeps ..

theorem relatedDocument_keeps (api : Api) (endpoint : Endpoint) (request : Request) (id : String)
    (relationship : Relationship) (parameters : Parameters) :
    Keeps Connection.stored
      (relatedDocument api endpoint request id relationship parameters) := by
  unfold relatedDocument
  split
  · exact keeps_throw _
  · exact keeps_bind (requireResource_keeps ..) fun _ => keeps_bind (loadTargets_keeps ..) fun _ =>
      keeps_bind (keeps_ofExcept _) fun _ => keeps_bind (include_keeps ..) fun _ =>
      assemble_keeps ..

theorem relationshipDocument_keeps (api : Api) (endpoint : Endpoint) (id : String)
    (relationship : Relationship) :
    Keeps Connection.stored (relationshipDocument api endpoint id relationship) :=
  keeps_bind (requireResource_keeps ..) fun _ => keeps_bind (loadTargets_keeps ..) fun _ =>
    keeps_pure _

/-! Statements that write stay in the transaction in which they are. -/

theorem savepoint_of_stored {action : Action ε α} (kept : Keeps Connection.stored action) :
    Keeps Connection.savepoint action :=
  keeps_view Prod.snd kept fun _ => rfl

theorem perform_keeps (change : Database → Except ε (α × Database)) :
    Keeps Connection.savepoint (Action.perform change) := by
  refine ⟨fun connection => ?_⟩
  rw [execute_perform]
  cases change connection.database <;> rfl

theorem insert_statement_keeps (statement : Store.Insert) :
    Keeps Connection.savepoint (Action.insert statement) :=
  keeps_bind (keeps_modify fun _ => rfl) fun _ => perform_keeps _

theorem update_statement_keeps (statement : Store.Update) :
    Keeps Connection.savepoint (Action.update statement) :=
  keeps_bind keeps_get fun _ => keeps_bind (keeps_modify fun _ => rfl) fun _ => perform_keeps _

theorem delete_statement_keeps (statement : Store.Delete) :
    Keeps Connection.savepoint (Action.delete statement) :=
  keeps_bind keeps_get fun _ => keeps_bind (keeps_modify fun _ => rfl) fun _ => perform_keeps _

theorem readBack_keeps (type : EntityType) (id : String) : Keeps Connection.savepoint (readBack type id) := by
  refine keeps_bind (savepoint_of_stored (get_keeps ..)) fun found => ?_
  split
  · exact keeps_pure _
  · exact keeps_throw _

theorem insert_keeps (type : EntityType) (values : Keyed Value) :
    Keeps Connection.savepoint (Mapping.insert type values) := by
  refine keeps_bind (keeps_ofExcept _) fun _ => keeps_guard
    (keeps_bind (keeps_mapError _ (insert_statement_keeps _)) fun returned => ?_)
  dsimp only
  split
  · exact keeps_bind (keeps_pure _) fun _ => readBack_keeps ..
  · exact keeps_bind (keeps_map _ (keeps_ofExcept _)) fun _ => readBack_keeps ..
  · exact keeps_bind (keeps_throw _) fun _ => readBack_keeps ..

theorem update_keeps (type : EntityType) (id : String) (values : Keyed Value) :
    Keeps Connection.savepoint (Mapping.update type id values) := by
  refine keeps_bind (keeps_ofExcept _) fun _ => ?_
  split
  · exact keeps_bind (savepoint_of_stored (get_keeps ..)) fun _ => keeps_pure _
  · split
    · exact keeps_pure _
    · exact keeps_bind (keeps_mapError _ (update_statement_keeps _)) fun _ => keeps_pure _

theorem clearKey_keeps (table column : String) (cell : Cell) :
    Keeps Connection.savepoint (clearKey table column cell) :=
  keeps_bind (keeps_mapError _ (update_statement_keeps _)) fun _ => keeps_pure _

theorem deletePairs_keeps (table column : String) (cell : Cell) :
    Keeps Connection.savepoint (deletePairs table column cell) :=
  keeps_bind (keeps_mapError _ (delete_statement_keeps _)) fun _ => keeps_pure _

theorem setColumn_keeps (table column : String) (cell : Cell) (filter : Clause) :
    Keeps Connection.savepoint (setColumn table column cell filter) :=
  keeps_bind (keeps_mapError _ (update_statement_keeps _)) fun _ => keeps_pure _

theorem insertPairs_keeps (table ownerColumn targetColumn : String) (pairs : List (Cell × Cell)) :
    Keeps Connection.savepoint (insertPairs table ownerColumn targetColumn pairs) :=
  keeps_bind (keeps_mapError _ (insert_statement_keeps _)) fun _ => keeps_pure _

theorem unlinkOwner_keeps (schema : Schema) (relationship : Relationship) (cell : Cell) :
    Keeps Connection.savepoint (unlinkOwner schema relationship cell) := by
  unfold unlinkOwner
  split
  · exact keeps_pure _
  · exact keeps_bind (keeps_ofExcept _) fun _ => clearKey_keeps ..
  · exact deletePairs_keeps ..

theorem unlinkTarget_keeps (owner : EntityType) (relationship : Relationship) (cell : Cell) :
    Keeps Connection.savepoint (unlinkTarget owner relationship cell) := by
  unfold unlinkTarget
  split
  · exact clearKey_keeps ..
  · exact keeps_pure _
  · exact deletePairs_keeps ..

theorem delete_keeps (schema : Schema) (type : EntityType) (id : String) :
    Keeps Connection.savepoint (Mapping.delete schema type id) := by
  unfold Mapping.delete
  split
  · exact keeps_pure _
  · refine keeps_bind (keeps_forM fun _ => unlinkOwner_keeps ..) fun _ =>
      keeps_bind (keeps_forM fun _ => keeps_forM fun _ => unlinkTarget_keeps ..) fun _ => ?_
    exact keeps_bind (keeps_mapError _ (delete_statement_keeps _)) fun _ => keeps_pure _

theorem setToOne_keeps (schema : Schema) (type : EntityType) (relationship : Relationship)
    (owner : String) (target : Option String) :
    Keeps Connection.savepoint (setToOne schema type relationship owner target) := by
  unfold setToOne
  refine keeps_guard (keeps_bind (keeps_ofExcept _) fun found =>
    keeps_bind (keeps_ofExcept _) fun _ => keeps_bind (keeps_ofExcept _) fun _ => ?_)
  split
  · exact setColumn_keeps ..
  · refine keeps_bind (clearKey_keeps ..) fun _ => ?_
    split
    · exact setColumn_keeps ..
    · exact keeps_pure _
  · refine keeps_bind (deletePairs_keeps ..) fun _ => ?_
    split
    · exact insertPairs_keeps ..
    · exact keeps_pure _

theorem addToMany_keeps (schema : Schema) (type : EntityType) (relationship : Relationship)
    (owner : String) (targets : List String) :
    Keeps Connection.savepoint (addToMany schema type relationship owner targets) := by
  refine keeps_bind (keeps_ofExcept _) fun found => keeps_bind (keeps_ofExcept _) fun _ => ?_
  dsimp only
  split
  · exact keeps_pure _
  split
  · exact setColumn_keeps ..
  · refine keeps_bind (savepoint_of_stored (selectAll_keeps _)) fun rows => ?_
    split
    · exact keeps_pure _
    · exact insertPairs_keeps ..
  · exact keeps_throw _

theorem removeFromMany_keeps (schema : Schema) (type : EntityType) (relationship : Relationship)
    (owner : String) (targets : List String) :
    Keeps Connection.savepoint (Mapping.removeFromMany schema type relationship owner targets) := by
  refine keeps_bind (keeps_ofExcept _) fun found => keeps_bind (keeps_ofExcept _) fun _ => ?_
  dsimp only
  split
  · exact keeps_pure _
  split
  · exact setColumn_keeps ..
  · exact keeps_bind (keeps_mapError _ (delete_statement_keeps _)) fun _ => keeps_pure _
  · exact keeps_throw _

/-! Changes that a request asks for stay in its transaction. -/

theorem writing_keeps {action : MappingAction α} (kept : Keeps Connection.savepoint action) :
    Keeps Connection.savepoint (SourceAction.writing action) :=
  keeps_mapError _ kept

theorem reading_in_transaction {action : MappingAction α}
    (kept : Keeps Connection.stored action) :
    Keeps Connection.savepoint (SourceAction.reading action) :=
  savepoint_of_stored (reading_keeps kept)

theorem requireTargets_keeps (schema : Schema) (relationship : Relationship)
    (targets : List Identifier) :
    Keeps Connection.savepoint (Relinking.requireTargets schema relationship targets) := by
  unfold Relinking.requireTargets
  split
  · exact keeps_throw _
  split
  · exact keeps_throw _
  dsimp only
  split
  · exact keeps_pure _
  · exact keeps_bind (reading_in_transaction (get_keeps ..)) fun _ => keeps_guard (keeps_pure _)

theorem currentTargets_keeps (schema : Schema) (type : EntityType) (relationship : Relationship)
    (owner : String) :
    Keeps Connection.stored (Relinking.currentTargets schema type relationship owner) :=
  keeps_bind (reading_keeps (loadRelation_keeps ..)) fun _ => keeps_pure _

theorem replaceToOne_keeps (schema : Schema) (type : EntityType) (relationship : Relationship)
    (owner : String) (target : Option Identifier) :
    Keeps Connection.savepoint
      (Relinking.replaceToOne schema type relationship owner target) := by
  unfold Relinking.replaceToOne
  refine keeps_guard ?_
  dsimp only
  split
  · exact keeps_bind (requireTargets_keeps ..) fun _ => writing_keeps (setToOne_keeps ..)
  · exact keeps_bind (keeps_pure _) fun _ => writing_keeps (setToOne_keeps ..)

theorem replaceToMany_keeps (schema : Schema) (type : EntityType) (relationship : Relationship)
    (owner : String) (targets : List Identifier) (allowed : Bool) :
    Keeps Connection.savepoint
      (Relinking.replaceToMany schema type relationship owner targets allowed) := by
  unfold Relinking.replaceToMany
  exact keeps_guard <| keeps_bind (keeps_ofExcept _) fun _ => keeps_bind (requireTargets_keeps ..) fun _ =>
    keeps_bind (savepoint_of_stored (currentTargets_keeps ..)) fun _ =>
    keeps_bind (writing_keeps (removeFromMany_keeps ..)) fun _ => writing_keeps (addToMany_keeps ..)

theorem appendToMany_keeps (schema : Schema) (type : EntityType) (relationship : Relationship)
    (owner : String) (targets : List Identifier) :
    Keeps Connection.savepoint
      (Relinking.appendToMany schema type relationship owner targets) :=
  keeps_bind (keeps_ofExcept _) fun _ => keeps_bind (requireTargets_keeps ..) fun _ =>
    writing_keeps (addToMany_keeps ..)

theorem removeTargets_keeps (schema : Schema) (type : EntityType) (relationship : Relationship)
    (owner : String) (targets : List Identifier) (allowed : Bool) :
    Keeps Connection.savepoint
      (Relinking.removeFromMany schema type relationship owner targets allowed) := by
  unfold Relinking.removeFromMany
  refine keeps_guard <| keeps_bind (keeps_ofExcept _) fun _ =>
    keeps_bind (requireTargets_keeps ..) fun _ =>
    keeps_bind (savepoint_of_stored (currentTargets_keeps ..)) fun _ => ?_
  dsimp only
  split
  · exact keeps_pure _
  · exact keeps_bind (writing_keeps (removeFromMany_keeps ..)) fun _ => keeps_pure _

theorem writeLinkage_keeps (schema : Schema) (type : EntityType) (relationship : Relationship)
    (owner : String) (linkage : Linkage) (allowed : Bool) :
    Keeps Connection.savepoint
      (writeLinkage schema type relationship owner linkage allowed) := by
  cases linkage with
  | toOne target => exact replaceToOne_keeps ..
  | toMany targets => exact replaceToMany_keeps ..

theorem writeLinkages_keeps (schema : Schema) (type : EntityType) (owner : String)
    (linkages : List (Relationship × Linkage)) (allowed : Bool) :
    Keeps Connection.savepoint (writeLinkages schema type owner linkages allowed) :=
  keeps_forM fun _ => writeLinkage_keeps ..

theorem storeResource_keeps (api : Api) (endpoint : Endpoint) (request : Request)
    (values : Keyed Value) (linkages : List (Relationship × Linkage)) :
    Keeps Connection.savepoint (storeResource api endpoint request values linkages) :=
  keeps_bind (writing_keeps (insert_keeps ..)) fun _ => keeps_bind (writeLinkages_keeps ..) fun _ =>
    keeps_bind (keeps_ofExcept _) fun _ =>
    keeps_bind (savepoint_of_stored (assemble_keeps ..)) fun _ => keeps_pure _

theorem changeResource_keeps (api : Api) (endpoint : Endpoint) (id : String)
    (values : Keyed Value) (linkages : List (Relationship × Linkage)) :
    Keeps Connection.savepoint (changeResource api endpoint id values linkages) :=
  keeps_bind (writing_keeps (update_keeps ..)) fun _ => keeps_guard (writeLinkages_keeps ..)

theorem changeLinks_keeps (api : Api) (endpoint : Endpoint) (operation : Operation) (id : String)
    (relationship : Relationship) (linkage : Linkage) :
    Keeps Connection.savepoint
      (changeLinks api endpoint operation id relationship linkage) := by
  refine keeps_bind (savepoint_of_stored (requireResource_keeps ..)) fun _ => ?_
  split
  · exact keeps_bind (appendToMany_keeps ..) fun _ => keeps_pure _
  · exact keeps_bind (writeLinkage_keeps ..) fun _ => keeps_pure _
  · exact keeps_bind (removeTargets_keeps ..) fun _ => keeps_pure _

/-! Transactions. -/

theorem execute_begin (connection : Connection) :
    execute (SourceAction.writing (statement Action.begin)) connection =
      match connection.savepoint with
      | some _ => (.error (.backend (MappingError.store .alreadyOpen).message true), connection)
      | none => (.ok (), ⟨connection.database, some connection.database, connection.log ++ ["BEGIN"]⟩) := by
  rcases connection with ⟨database, savepoint, log⟩
  cases savepoint <;> rfl

theorem execute_commit (connection : Connection) {saved : Database}
    (opened : connection.savepoint = some saved) :
    execute (SourceAction.writing (statement Action.commit)) connection =
      (.ok (), ⟨connection.database, none, connection.log ++ ["COMMIT"]⟩) := by
  rcases connection with ⟨database, savepoint, log⟩
  cases opened
  rfl

theorem execute_rollback (connection : Connection) {saved : Database}
    (opened : connection.savepoint = some saved) :
    execute (SourceAction.writing (statement Action.rollback)) connection =
      (.ok (), ⟨saved, none, connection.log ++ ["ROLLBACK"]⟩) := by
  rcases connection with ⟨database, savepoint, log⟩
  cases opened
  rfl

def openTransaction (handling : Handling) : Handling :=
  let connection := handling.connection
  { handling with
    connection := ⟨connection.database, some connection.database, connection.log ++ ["BEGIN"]⟩ }

/-- A transaction ends with the changes of its action if the action succeeds, and with none if it fails. -/
theorem execute_transactionally (action : Handler α)
    (kept : Keeps (fun handling => handling.connection.savepoint) action) (handling : Handling) :
    execute (Handler.transactionally action) handling =
      match handling.connection.savepoint with
      | some _ => (.error (.backend (MappingError.store .alreadyOpen).message true), handling)
      | none =>
        match execute action (openTransaction handling) with
        | (.ok value, inner) =>
          (.ok value, { inner with
            connection := ⟨inner.connection.database, none, inner.connection.log ++ ["COMMIT"]⟩ })
        | (.error error, inner) =>
          (.error error, { inner with
            connection :=
              ⟨handling.connection.database, none, inner.connection.log ++ ["ROLLBACK"]⟩ }) := by
  unfold Handler.transactionally
  rw [execute_bind, execute_source, execute_begin]
  rcases opened : handling.connection.savepoint with _ | saved
  · have inside := kept.same (openTransaction handling)
    rcases outcome : execute action (openTransaction handling) with ⟨result, inner⟩
    rw [outcome] at inside
    dsimp only [openTransaction] at inside outcome ⊢
    rw [execute_bind, execute_attempt, outcome]
    cases result with
    | ok value =>
        dsimp only
        rw [execute_bind, execute_source, execute_commit _ inside]
        rfl
    | error error =>
        dsimp only
        rw [execute_bind, execute_attempt, execute_source, execute_rollback _ inside]
        rfl
  · rfl

/-- A step that leaves the tables as they were unless it succeeds. -/
structure Atomic (step : Handler α) : Prop where
  undone : ∀ {handling after : Handling} {error : RequestError},
    execute step handling = (.error error, after) →
      after.connection.stored = handling.connection.stored

theorem atomic_of_keeps {step : Handler α}
    (kept : Keeps (fun handling => handling.connection.stored) step) : Atomic step := by
  refine ⟨fun {handling after error} run => ?_⟩
  have same := kept.same handling
  rw [run] at same
  exact same

theorem atomic_bind {step : Handler α} {next : α → Handler β}
    (first : Keeps (fun handling => handling.connection.stored) step)
    (second : ∀ value, Atomic (next value)) : Atomic (step >>= next) := by
  refine ⟨fun {handling after error} run => ?_⟩
  have same := first.same handling
  rw [execute_bind] at run
  rcases outcome : execute step handling with ⟨result, middle⟩
  rw [outcome] at run same
  cases result with
  | error failure =>
      cases run
      exact same
  | ok value => exact ((second value).undone run).trans same

theorem atomic_map {step : Handler α} (change : α → β) (first : Atomic step) :
    Atomic (step >>= fun value => pure (change value)) := by
  refine ⟨fun {handling after error} run => ?_⟩
  rw [execute_bind] at run
  rcases outcome : execute step handling with ⟨result, middle⟩
  rw [outcome] at run
  cases result with
  | error failure =>
      cases run
      exact first.undone outcome
  | ok value => cases run

theorem transactionally_atomic (action : Handler α)
    (kept : Keeps (fun handling => handling.connection.savepoint) action) :
    Atomic (Handler.transactionally action) := by
  refine ⟨fun {handling after error} run => ?_⟩
  rw [execute_transactionally action kept] at run
  rcases opened : handling.connection.savepoint with _ | saved
  · rw [opened] at run
    rcases outcome : execute action (openTransaction handling) with ⟨result, inner⟩
    rw [outcome] at run
    cases result with
    | ok value => cases run
    | error failure =>
        cases run
        exact Prod.ext rfl opened.symm
  · rw [opened] at run
    cases run
    rfl

/-! Processors do not touch the tables. -/

theorem note_keeps {γ : Type} {view : Connection → γ} (call : Call) :
    Keeps (fun handling => view handling.connection) (Handler.note call) :=
  keeps_modify fun _ => rfl

theorem preprocess_keeps {γ : Type} {view : Connection → γ} (context : Context)
    (processors : List Preprocessor) :
    Keeps (fun handling => view handling.connection) (Handler.preprocess context processors) := by
  induction processors with
  | nil => exact keeps_pure _
  | cons processor rest ih =>
      refine keeps_bind (note_keeps _) fun _ => ?_
      split
      · exact ih
      · exact keeps_throw _

theorem postprocess_keeps {γ : Type} {view : Connection → γ} (context : Context)
    (document : Document) (processors : List Postprocessor) :
    Keeps (fun handling => view handling.connection)
      (Handler.postprocess context document processors) := by
  induction processors generalizing document with
  | nil => exact keeps_pure _
  | cons processor rest ih => exact keeps_bind (note_keeps _) fun _ => ih _

theorem postprocessEmpty_keeps {γ : Type} {view : Connection → γ} (context : Context)
    (processors : List Postprocessor) :
    Keeps (fun handling => view handling.connection)
      (Handler.postprocessEmpty context processors) :=
  keeps_forM fun _ => note_keeps _

/-! Requests. -/

theorem answerDocument_keeps (endpoint : Endpoint) (context : Context) (document : Handler Document)
    (kept : Keeps (fun handling => handling.connection.stored) document) :
    Keeps (fun handling => handling.connection.stored) (answerDocument endpoint context document) :=
  keeps_bind (preprocess_keeps ..) fun _ => keeps_bind kept fun _ =>
    keeps_bind (postprocess_keeps ..) fun _ => keeps_pure _

theorem reading_request_keeps (api : Api) (now : Calendar.Timestamp) (endpoint : Endpoint)
    (request : Request) (route : Route) :
    Keeps (fun handling => handling.connection.stored)
      (carryOutRoute api now endpoint request route .get) := by
  cases route with
  | collection =>
      exact answerDocument_keeps _ _ _ (keeps_bind (keeps_result _) fun _ =>
        keeps_source (collectionDocument_keeps ..))
  | resource id =>
      exact answerDocument_keeps _ _ _ (keeps_bind (keeps_result _) fun _ =>
        keeps_source (resourceDocument_keeps ..))
  | related id name =>
      exact keeps_bind (keeps_result _) fun _ => answerDocument_keeps _ _ _
        (keeps_bind (keeps_result _) fun _ => keeps_source (relatedDocument_keeps ..))
  | relationship id name =>
      exact keeps_bind (keeps_result _) fun _ => answerDocument_keeps _ _ _
        (keeps_source (relationshipDocument_keeps ..))

theorem carryOut_atomic (endpoint : Endpoint) (context : Context)
    (action : SourceAction (Option Bool)) (kept : Keeps Connection.savepoint action) :
    Atomic (carryOut endpoint context action) :=
  atomic_map _ (transactionally_atomic _ (keeps_bind (preprocess_keeps ..) fun _ =>
    keeps_bind (keeps_source kept) fun _ => postprocessEmpty_keeps ..))

theorem createResource_atomic (api : Api) (endpoint : Endpoint) (request : Request) :
    Atomic (createResource api endpoint request) := by
  refine atomic_bind (keeps_result _) fun read => atomic_map _ (transactionally_atomic _ ?_)
  exact keeps_bind (preprocess_keeps ..) fun _ =>
    keeps_bind (keeps_source (storeResource_keeps ..)) fun _ =>
    keeps_bind (postprocess_keeps ..) fun _ => keeps_pure _

theorem updateResource_atomic (api : Api) (endpoint : Endpoint) (request : Request) (id : String) :
    Atomic (updateResource api endpoint request id) :=
  atomic_bind (keeps_result _) fun _ =>
    carryOut_atomic _ _ _ (keeps_bind (changeResource_keeps ..) fun _ => keeps_pure _)

theorem deleteResource_atomic (api : Api) (endpoint : Endpoint) (request : Request) (id : String) :
    Atomic (deleteResource api endpoint request id) :=
  carryOut_atomic _ _ _
    (keeps_bind (writing_keeps (delete_keeps ..)) fun _ => keeps_guard (keeps_pure _))

theorem updateLinks_atomic (api : Api) (endpoint : Endpoint) (request : Request) (id : String)
    (relationship : Relationship) : Atomic (updateLinks api endpoint request id relationship) :=
  atomic_bind (keeps_result _) fun _ => atomic_bind (keeps_result _) fun _ =>
    atomic_bind (keeps_result _) fun _ => carryOut_atomic _ _ _ (changeLinks_keeps ..)

theorem carryOutRoute_atomic (api : Api) (now : Calendar.Timestamp) (endpoint : Endpoint)
    (request : Request) (route : Route) (verb : Verb) :
    Atomic (carryOutRoute api now endpoint request route verb) := by
  have refused (method path : String) :
      Atomic (throw (.methodNotAllowed method path) : Handler Response) :=
    atomic_of_keeps (keeps_throw _)
  have linked (id name : String) : Atomic (do
      updateLinks api endpoint request id
        (← Handler.ofExcept (Api.findRelationship endpoint.type name))) :=
    atomic_bind (keeps_result _) fun _ => updateLinks_atomic ..
  cases verb with
  | get => exact atomic_of_keeps (reading_request_keeps ..)
  | post =>
      cases route with
      | collection => exact createResource_atomic ..
      | relationship id name => exact linked id name
      | resource id => exact refused ..
      | related id name => exact refused ..
  | patch =>
      cases route with
      | resource id => exact updateResource_atomic ..
      | relationship id name => exact linked id name
      | collection => exact refused ..
      | related id name => exact refused ..
  | delete =>
      cases route with
      | resource id => exact deleteResource_atomic ..
      | relationship id name => exact linked id name
      | collection => exact refused ..
      | related id name => exact refused ..

theorem dispatch_atomic (api : Api) (now : Calendar.Timestamp) (request : Request) :
    Atomic (dispatch api now request) := by
  refine atomic_bind (keeps_result _) fun found => ?_
  dsimp only
  split
  · exact atomic_bind (keeps_throw _) fun _ => carryOutRoute_atomic ..
  · exact carryOutRoute_atomic ..

theorem dispatch_get_keeps (api : Api) (now : Calendar.Timestamp) (request : Request)
    (reading : request.verb = .get) :
    Keeps (fun handling => handling.connection.stored) (dispatch api now request) := by
  unfold dispatch
  rw [reading]
  exact keeps_bind (keeps_result _) fun found => keeps_guard (reading_request_keeps ..)

/-- A request whose route is known is carried out if the type allows it. -/
theorem dispatch_routed {api : Api} {request : Request} {endpoint : Endpoint} {route : Route}
    (routed : api.route request.url.path = .ok (endpoint, route)) (now : Calendar.Timestamp) :
    dispatch api now request =
      if endpoint.config.allows request.verb then
        carryOutRoute api now endpoint request route request.verb
      else throw (.methodNotAllowed request.verb.name request.url.path) := by
  unfold dispatch
  simp only [routed, Handler.ofExcept, pure_bind]
  cases endpoint.config.allows request.verb <;> rfl

theorem handle_response (api : Api) (now : Calendar.Timestamp) (request : Request)
    (database : Database) : (handle api now request database).response =
      match (execute (dispatch api now request) ⟨⟨database, none, []⟩, []⟩).1 with
      | .ok response => response
      | .error error => .ofError error := rfl

def Fails (api : Api) (now : Calendar.Timestamp) (request : Request) (database : Database) : Prop :=
  ∃ error, (execute (dispatch api now request) ⟨⟨database, none, []⟩, []⟩).1 = .error error

/-- A request that fails, at whatever stage, or that reads leaves every table as it was. -/
theorem failed_or_reading_request_keeps_tables (api : Api) (now : Calendar.Timestamp)
    (request : Request) (database : Database)
    (idle : Fails api now request database ∨ request.verb = .get) :
    (handle api now request database).database = database := by
  have start : (handle api now request database).database =
      (execute (dispatch api now request) ⟨⟨database, none, []⟩, []⟩).2.connection.stored.1 := rfl
  rw [start]
  rcases idle with ⟨error, failed⟩ | reading
  · have undone := (dispatch_atomic api now request).undone (Prod.ext failed rfl)
    rw [undone]
    rfl
  · rw [(dispatch_get_keeps api now request reading).same]
    rfl

/-! A press with articles and their authors. -/

namespace Press

def author : EntityType := ⟨"author", none, ⟨"id", .string, false⟩, [], [], []⟩

def article : EntityType :=
  ⟨"article", none, ⟨"id", .string, false⟩, [],
    [⟨"author", .toOne, "author", true, .ownerKey "author_id"⟩], []⟩

def api : Api :=
  { Api.ofSchema ⟨[article, author]⟩ {} with
    resources := [("article", { allowClientIds := true })] }

def tables : Database :=
  ⟨[⟨"article", [⟨"id", .text⟩, ⟨"author_id", .text⟩], [[0]], [[.text "essay", .null]], 1⟩,
    ⟨"author", [⟨"id", .text⟩], [[0]], [], 1⟩]⟩

def noon : Calendar.Timestamp := ⟨⟨2000, 1, 1, by decide⟩, ⟨12, 0, 0, 0, by decide⟩⟩

def orphan : Request :=
  ⟨.post, ⟨"http", none, "/api/article", none, none⟩, some (.object [("data", .object [
    ("id", .string "novel"),
    ("relationships", .object [("author", .object [("data", .object [
      ("id", .string "nobody"), ("type", .string "author")])])]),
    ("type", .string "article")])])⟩

end Press

theorem orphan_keeps_tables :
    (Fails Press.api Press.noon Press.orphan Press.tables ∨ Press.orphan.verb = .get) ∧
      (handle Press.api Press.noon Press.orphan Press.tables).database = Press.tables := by
  -- The article is inserted before its author is looked up.
  have refused : (execute (dispatch Press.api Press.noon Press.orphan)
      ⟨⟨Press.tables, none, []⟩, []⟩).1.toOption.isNone = true := by decide +kernel
  have failed : Fails Press.api Press.noon Press.orphan Press.tables := by
    unfold Fails
    cases result : (execute (dispatch Press.api Press.noon Press.orphan)
        ⟨⟨Press.tables, none, []⟩, []⟩).1 with
    | error error => exact ⟨error, rfl⟩
    | ok response =>
        rw [result] at refused
        cases refused
  exact ⟨.inl failed, failed_or_reading_request_keeps_tables _ _ _ _ (.inl failed)⟩

end ResourceServer
