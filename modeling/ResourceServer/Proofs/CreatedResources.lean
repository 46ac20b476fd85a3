import ResourceServer.Proofs.PlainRequests
import ResourceServer.Proofs.StoredFields
import ResourceServer.Proofs.VeiledDocuments

/-! Resources that are created: what is shown of them is read of them again. -/

namespace ResourceServer

open ResourceServer.Store ResourceServer.Mapping ResourceServer.Api ResourceServer.Calendar

section

variable {schema : Schema} {type : EntityType} {database : Database}

theorem insert_stored {values : Keyed Value} {connection after : Connection} {resource : Instance}
    (columns : schema.ColumnsDistinct) (known : type ∈ schema.types) (laid : Laid schema after.database)
    (run : execute (Mapping.insert type values) connection = (.ok resource, after)) :
    ∃ record ∈ after.database.records (tableName type), readRecord type record = .ok resource := by
  unfold Mapping.insert at run
  obtain ⟨⟨⟩, checked, _, run⟩ := execute_bind_ok run
  dsimp only at run
  split at run
  · cases run
  obtain ⟨returned, written, _, run⟩ := execute_bind_ok run
  have finish : ∀ (text : String) (start : Connection), execute (readBack type text) start = (.ok resource, after) →
        ∃ record ∈ after.database.records (tableName type), readRecord type record = .ok resource := by
    intro text start run
    have same := readBack_same run
    obtain ⟨resources, reached, found, run⟩ := execute_bind_ok run
    cases resources with
    | nil => cases run
    | cons first rest =>
        cases run
        have read := congrArg Prod.fst found
        rw [execute_findResources (laid.tabled known) columns known same.symm] at read
        obtain ⟨record, among, read⟩ := mem_of_forall₂ (mapM_forall₂ read).flip List.mem_cons_self
        exact ⟨record, (List.mem_filter.mp ((stableSort_perm _ _).mem_iff.mp among)).1, read⟩
  split at run
  · exact finish _ _ run
  · obtain ⟨text, middle, _, run⟩ := execute_bind_ok run
    exact finish _ _ run
  · cases run

section

variable (kept : Kept schema database) (laid : Laid schema database) (tables : schema.TablesDistinct)
  (columns : schema.ColumnsDistinct) (known : type ∈ schema.types) (keyed : type.KeyedById)
  (exact : type.identity.type.Exact) {record : Record} (member : record ∈ database.records (tableName type))
  (stores : type.identity.type.stores (record (idName type))) (identified : record (idName type) ≠ .null)
  {resource : Instance} (read : readRecord type record = .ok resource)
include kept laid tables columns known keyed exact member stores identified read

theorem get_stored {start : Connection} (here : start.database = database) :
    (execute (Mapping.get type [resource.id]) start).1 = .ok [resource] := by
  obtain ⟨value, valued, text⟩ := readRow_id read
  have named : type.Names resource.id (record (idName type)) :=
    text ▸ .of_stored exact stores identified valued
  have kind : (record (idName type)).type? ≠ some .decimal :=
    takes_exact exact (kept.typed.identities known record member)
  have nonzero : ∀ number, type.readId? resource.id = some (.decimal number) → number.rank? ≠ some 0 := by
    intro number spelled
    have cell := named.spelled
    unfold idCell? at cell
    rw [spelled] at cell
    exact absurd (congrArg Cell.type? (Option.some.inj cell)).symm kind
  have few := kept.one_record tables known keyed nonzero named.spelled
  have found : foundRecords database type (idCells type [resource.id]) = [record] := by
    have cells : idCells type [resource.id] = [record (idName type)] := List.filterMap_cons_some named.spelled
    have among : record ∈ foundRecords database type [record (idName type)] := by
      refine (stableSort_perm _ _).mem_iff.mpr (List.mem_filter.mpr ⟨member, ?_⟩)
      rw [List.any_cons, (Cell.agrees_exact kind kind).mpr ⟨rfl, identified⟩, Bool.true_or]
    have short : (foundRecords database type [record (idName type)]).length ≤ 1 := by
      unfold foundRecords
      rw [(stableSort_perm _ _).length_eq]
      simpa using few
    rw [cells]
    obtain ⟨only, same⟩ := List.length_eq_one_iff.mp (Nat.le_antisymm short (List.length_pos_of_mem among))
    rw [same, List.mem_singleton] at among
    rw [same, among]
  rw [execute_findResources (laid.tabled known) columns known here, found, List.mapM_cons]
  exact bind_of_ok read rfl

theorem delivers_requireResource :
    Delivers database (requireResource type resource.id) (· = resource) := by
  have gives : Delivers database (SourceAction.reading (Mapping.get type [resource.id])) (· = [resource]) :=
    delivers_reading (get_keeps ..) fun start here =>
      ⟨[resource], get_stored kept laid tables columns known keyed exact member stores identified read here, rfl⟩
  unfold requireResource
  refine gives.bind ?_
  rintro _ rfl
  exact delivers_pure rfl

end

end

theorem writeLinkages_reads {schema : Schema} {type : EntityType} (formed : schema.Formed)
    (tables : schema.TablesDistinct) (keys : schema.KeysApart) (known : type ∈ schema.types)
    {linkages : List (Relationship × Linkage)} (own : ∀ entry ∈ linkages, entry.1 ∈ type.relationships)
    (resource : Instance) (owner : String) (allowed : Bool) :
    Maintains (fun database => Laid schema database ∧
        ∃ record ∈ database.records (tableName type), readRecord type record = .ok resource)
      (writeLinkages schema type owner linkages allowed) := by
  refine writeLinkages_maintains (fields_invariant formed tables keys ?_) known own owner allowed
  rintro before after alike ⟨record, member, read⟩
  have row : fieldRow type record ∈ fieldRows after type := alike type known ▸ List.mem_map_of_mem member
  obtain ⟨record', member', same⟩ := List.mem_map.mp row
  refine ⟨record', member', ?_⟩
  have rows : readRow type (fieldRow type record) = .ok resource := read
  rwa [← same] at rows

section

variable {api : Api} {endpoint : Endpoint} {request : Request}

theorem storeResource_shows (formed : api.schema.Formed) (tables : api.schema.TablesDistinct)
    (columns : api.schema.ColumnsDistinct) (keys : api.schema.KeysApart) (known : endpoint.type ∈ api.schema.types)
    {values : Keyed Value} {linkages : List (Relationship × Linkage)}
    (read : readCreation endpoint request = .ok (values, linkages)) {start after : Connection}
    (laid : Laid api.schema start.database) (stored : FieldsStored api.schema start.database)
    {id : String} {url : Url} {document : Document}
    (run : execute (storeResource api endpoint request values linkages) start = (.ok (id, url, document), after)) :
    ∃ record ∈ after.database.records (tableName endpoint.type), ∃ resource,
      readRecord endpoint.type record = .ok resource ∧ resource.id = id ∧
        Url.join request.url (api.assembler.resourceUrl endpoint.type.name id) = .ok url ∧
          Runs after.database (api.assembler.assemble api.schema (.single (some resource)) none none url [])
            document := by
  obtain ⟨filled, own⟩ := readCreation_fills read
  unfold storeResource at run
  obtain ⟨resource, written, inserted, run⟩ := execute_bind_ok run
  obtain ⟨⟨⟩, linked, joined, run⟩ := execute_bind_ok run
  obtain ⟨url', here, resolved, run⟩ := execute_bind_ok run
  obtain ⟨_, _, assembled, ended⟩ := execute_bind_ok run
  cases ended
  rw [execute_ofExcept] at resolved
  obtain rfl := congrArg Prod.snd resolved
  have location := mapError_ok (congrArg Prod.fst resolved)
  have created : execute (Mapping.insert endpoint.type values) start = (.ok resource, written) := by
    unfold SourceAction.writing at inserted
    rw [execute_mapError] at inserted
    obtain ⟨made, reached⟩ := Prod.mk.inj inserted
    exact Prod.ext (mapError_ok made) reached
  have ⟨laid', _⟩ := (insert_stores tables columns known filled).sound ⟨laid, stored⟩ created
  obtain ⟨_, record, member, read⟩ := (writeLinkages_reads formed tables keys known own resource resource.id
    true).sound ⟨laid', insert_stored columns known laid' created⟩ joined
  have same := (assemble_keeps api.assembler api.schema (.single (some resource)) none none url []).same linked
  rw [assembled] at same
  have kept : after.database = linked.database := congrArg Prod.fst same
  rw [← kept] at member
  exact ⟨record, member, resource, read, rfl, location, linked, after, kept.symm, assembled⟩

variable {now : Timestamp} {database : Database}

theorem ofDocument_location (status : Nat) (document : Document) :
    (Response.ofDocument status document).header? "Location" = none := by
  have type : ("Content-Type".toList.map Char.toLower = "Location".toList.map Char.toLower) = False := by decide
  have link : ("Link".toList.map Char.toLower = "Location".toList.map Char.toLower) = False := by decide
  unfold Response.ofDocument Response.header?
  cases document.linkHeader? <;>
    simp only [List.find?_cons, List.find?_nil, type, link, decide_false, Option.map_none]

theorem createResource_plain (plain : endpoint.config.Plain) :
    createResource api endpoint request = do
      let (values, linkages) ← Handler.ofExcept (readCreation endpoint request)
      let (url, document) ← Handler.transactionally do
        let (_, url, document) ← Handler.source (storeResource api endpoint request values linkages)
        return (url, document)
      let response := Response.ofDocument 201 document
      return { response with headers := response.headers ++ [("Location", url.text)] } := by
  unfold createResource ResourceConfig.before ResourceConfig.after
  rw [plain.before, plain.after]
  simp only [List.filterMap_nil, Handler.preprocess, Handler.postprocess, pure_bind]

theorem execute_createResource (plain : endpoint.config.Plain) {values : Keyed Value}
    {linkages : List (Relationship × Linkage)} (read : readCreation endpoint request = .ok (values, linkages)) :
    execute (createResource api endpoint request) ⟨⟨database, none, []⟩, []⟩ =
      match execute (storeResource api endpoint request values linkages) ⟨database, some database, ["BEGIN"]⟩ with
      | (.ok (_, url, document), after) =>
        let response := Response.ofDocument 201 document
        (.ok { response with headers := response.headers ++ [("Location", url.text)] },
          ⟨⟨after.database, none, after.log ++ ["COMMIT"]⟩, []⟩)
      | (.error error, after) => (.error error, ⟨⟨database, none, after.log ++ ["ROLLBACK"]⟩, []⟩) := by
  let store := storeResource api endpoint request values linkages
  have kept : Keeps (fun handling : Handling => handling.connection.savepoint) (do
      let (_, url, document) ← Handler.source store
      return (url, document)) :=
    keeps_bind (keeps_source (storeResource_keeps ..)) fun _ => keeps_pure _
  rw [createResource_plain plain, read, execute_bind]
  dsimp only [Handler.ofExcept]
  rw [execute_pure]
  dsimp only
  rw [execute_bind, execute_transactionally _ kept]
  dsimp only
  rw [execute_bind, execute_source]
  have here : (openTransaction ⟨⟨database, none, []⟩, []⟩).connection = ⟨database, some database, ["BEGIN"]⟩ := rfl
  rw [here]
  rcases execute store ⟨database, some database, ["BEGIN"]⟩ with ⟨result, after⟩
  cases result <;> rfl

theorem created_answer (routed : api.route request.url.path = .ok (endpoint, .collection))
    (posting : request.verb = .post) (plain : endpoint.config.Plain) {text : String}
    (told : (handle api now request database).response.header? "Location" = some text) :
    ∃ values linkages id url document after, readCreation endpoint request = .ok (values, linkages) ∧
      execute (storeResource api endpoint request values linkages) ⟨database, some database, ["BEGIN"]⟩ =
        (.ok (id, url, document), after) ∧ url.text = text ∧
        (handle api now request database).response.status = 201 ∧
          (handle api now request database).response.body = some document ∧
            (handle api now request database).database = after.database := by
  have reached : (handle api now request database).database =
      (execute (dispatch api now request) ⟨⟨database, none, []⟩, []⟩).2.connection.database := rfl
  rw [handle_response] at told ⊢
  rw [reached]
  rw [dispatch_routed routed, posting] at told ⊢
  have refused {error : RequestError} : (Response.ofError error).header? "Location" ≠ some text := by
    unfold Response.ofError
    rw [ofDocument_location]
    nofun
  by_cases allowed : endpoint.config.allows .post = true
  swap
  · rw [if_neg allowed] at told
    exact absurd told refused
  rw [if_pos allowed] at told ⊢
  unfold carryOutRoute at told ⊢
  dsimp only at told ⊢
  cases read : readCreation endpoint request with
  | error error =>
      rw [createResource_plain plain, read] at told
      exact absurd told refused
  | ok given =>
      obtain ⟨values, linkages⟩ := given
      rw [execute_createResource plain read] at told ⊢
      rcases run : execute (storeResource api endpoint request values linkages)
        ⟨database, some database, ["BEGIN"]⟩ with ⟨result, after⟩
      rw [run] at told
      cases result with
      | error error => exact absurd told refused
      | ok made =>
          obtain ⟨id, url, document⟩ := made
          refine ⟨values, linkages, id, url, document, after, rfl, run, ?_, rfl, rfl, rfl⟩
          unfold Response.header? at told
          dsimp only at told
          have none := ofDocument_location 201 document
          unfold Response.header? at none
          rw [Option.map_eq_none_iff] at none
          rw [List.find?_append, none, Option.none_or, List.find?_cons_of_pos (by simp)] at told
          exact Option.some.inj told

theorem delivered_resource (plain : endpoint.config.Plain) {url : Url} {id : String}
    (routed : api.route url.path = .ok (endpoint, .resource id)) (allowed : endpoint.config.allows .get = true)
    {parameters : Parameters} (asked : Parameters.read (url.query.getD "") = .ok parameters)
    {holds : Document → Prop}
    (delivers : Delivers database (resourceDocument api endpoint ⟨.get, url, none⟩ id parameters) holds) :
    ∃ document, holds document ∧
      (handle api now ⟨.get, url, none⟩ database).response = .ofDocument 200 document := by
  obtain ⟨document, finish, run, _, holds⟩ := delivers ⟨database, none, []⟩ rfl
  refine ⟨document, holds, ?_⟩
  have given : parametersOf ⟨.get, url, none⟩ = .ok parameters := asked
  rw [handle_response, dispatch_routed routed, if_pos allowed]
  unfold carryOutRoute getResource
  dsimp only
  rw [answerDocument_plain plain, given, execute_bind, execute_bind]
  dsimp only [Handler.ofExcept]
  rw [execute_pure]
  dsimp only
  rw [execute_source, run]
  rfl

end

theorem Schema.Separate.apart {schema : Schema} (separate : schema.Separate) : schema.Apart :=
  ⟨separate.formed, separate.tables, separate.columns, separate.keys⟩

theorem Store.Database.Like.refl {cover : Cover} (database : Database) : database.Like cover database := by
  intro name
  cases database.table? name with
  | none => exact .none
  | some table =>
      exact .some ⟨rfl, List.forall₂_same.mpr fun _ _ => List.forall₂_same.mpr fun _ _ => ⟨rfl, .inl rfl⟩⟩

section

variable {schema : Schema} {database : Database} {assembler : Assembler}

theorem delivers_again {ε α : Type} {action : Action ε α} (kept : Keeps Connection.stored action)
    (parallel : Parallel (Connected database database) Eq action action) {value : α}
    (run : Runs database action value) : Delivers database action (· = value) := by
  obtain ⟨start, finish, here, run⟩ := run
  intro other there
  have ⟨same, _⟩ := parallel.sound ⟨here, there⟩
  rw [run] at same
  exact ⟨value, (execute action other).2, Prod.ext same.eq.symm rfl,
    (congrArg Prod.fst (kept.same other)).trans there, rfl⟩

/-- The document that was made of a resource is made of it on every connection to the database, whatever else is
included that can be presented. -/
theorem delivers_assembled (accessible : Accessible schema database) (apart : schema.Apart)
    (plain : ∀ name, assembler.serializer name = Serializer.default) {resource : Instance} {url : Url}
    {document : Document}
    (run : Runs database (assembler.assemble schema (.single (some resource)) none none url []) document)
    {included : Option (List Instance)}
    (presents : ∀ other ∈ included.getD [], Assembler.Presents schema database assembler [] other) :
    Delivers database (assembler.assemble schema (.single (some resource)) included none url [])
      fun found => ∃ others, found = { document with included := others } := by
  have steady name : (assembler.serializer name).Steady := plain name ▸ default_steady
  have hides : assembler.Hides schema fun _ _ => False := ⟨plain, fun _ _ _ _ _ secret => secret⟩
  have alike : List.Forall₂ (Instance.Like schema fun _ _ => False) [resource] [resource] :=
    .cons ⟨rfl, fun _ _ _ _ _ _ => rfl⟩ .nil
  have parallel : Parallel (Connected database database) Eq (assembler.render schema [resource] [])
      (assembler.render schema [resource] []) :=
    render_parallel (.refl database) apart accessible.reserved hides alike
  rw [Assembler.assemble_eq] at run ⊢
  obtain ⟨primary, rendered, run⟩ := runs_bind (render_keeps ..) run
  obtain ⟨_, nothing, run⟩ := runs_bind (Assembler.renderIncluded_keeps none) run
  obtain rfl := runs_pure nothing
  dsimp only at run
  rw [List.append_nil] at run
  by_cases complete : primary.2.isEmpty = true
  swap
  · rw [if_neg complete] at run
    exact absurd run runs_throw
  rw [if_pos complete] at run
  obtain rfl := runs_pure run
  refine (delivers_again (render_keeps ..) parallel rendered).bind ?_
  rintro _ rfl
  refine (Assembler.delivers_renderIncluded accessible steady presents).bind fun others succeeded => ?_
  rw [succeeded, List.append_nil, if_pos complete]
  exact delivers_pure ⟨others.1, rfl⟩

end

end ResourceServer
