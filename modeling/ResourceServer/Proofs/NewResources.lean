import ResourceServer.Proofs.DescribedResources
import ResourceServer.Proofs.IdleUpdates
import ResourceServer.Proofs.PresentedResources
import ResourceServer.Proofs.Replays
import ResourceServer.Proofs.Locations

/-! Creating a resource succeeds unless the resource clashes with one that is stored. -/

namespace ResourceServer

open ResourceServer.Number ResourceServer.Store ResourceServer.Mapping ResourceServer.Api ResourceServer.Calendar

/-- A schema that is accepted, whose tables and columns are told apart from each other and from the names under which
links are loaded, whose key columns fit the fields that they are columns of, and whose identities are of exact types. -/
structure Schema.Fitting (schema : Schema) : Prop where
  valid : ∃ types, Schema.ofTypes types = .ok schema
  tables : schema.TablesDistinct
  shared : schema.PairsShared
  columns : schema.ColumnsDistinct
  fit : schema.KeysFit
  reserved : ∀ type ∈ schema.types, tableName type ≠ "rel_owner" ∧ tableName type ≠ "rel_link"
  exact : ∀ type ∈ schema.types, type.identity.type.Exact

theorem fitting_of_decided {schema : Schema} (types : List EntityType) (valid : Schema.ofTypes types = .ok schema)
    (decided : schema.TablesDistinct ∧ schema.PairsShared ∧ schema.ColumnsDistinct ∧ schema.KeysFit ∧
      (∀ type ∈ schema.types, tableName type ≠ "rel_owner" ∧ tableName type ≠ "rel_link") ∧
      ∀ type ∈ schema.types, type.identity.type.Exact) : schema.Fitting :=
  have ⟨tables, shared, columns, fit, reserved, exact⟩ := decided
  ⟨⟨types, valid⟩, tables, shared, columns, fit, reserved, exact⟩

theorem Schema.Fitting.formed {schema : Schema} (fitting : schema.Fitting) : schema.Formed :=
  fitting.valid.elim fun _ accepted => ofTypes_formed accepted

structure Regular (schema : Schema) (database : Database) : Prop where
  laid : Laid schema database
  kept : Kept schema database
  keyed : ReferencesKeyed schema database

theorem reachable_regular {api : Api} (fitting : api.schema.Fitting) {database : Database}
    (reachable : Reachable api (fun _ => True) database) : Regular api.schema database := by
  have typed := kept_invariant fitting.formed fitting.tables fitting.columns fitting.fit
  have keyed := keyed_invariant fitting.formed fitting.tables fitting.columns fitting.fit
  obtain ⟨laid, kept⟩ := reachable_invariant typed False.elim (fun _ done => vacant_kept done) reachable
  exact ⟨laid, kept, (reachable_invariant keyed False.elim (fun _ done => vacant_keyed done) reachable).2⟩

theorem Regular.accessible {schema : Schema} {database : Database} (regular : Regular schema database)
    (fitting : schema.Fitting) : Accessible schema database :=
  ⟨fitting.formed, fitting.columns, fitting.reserved,
    regular.kept.housed.has_shape fitting.valid fitting.tables fitting.shared⟩

section

variable {schema : Schema} {database after : Database} {type : EntityType} {values : Keyed Value}

theorem Regular.inserted (regular : Regular schema database) (fitting : schema.Fitting)
    (known : type ∈ schema.types) (filled : Fills type.fields values) {returning : Option String}
    {returned : List Cell}
    (run : Insert.run database
      { table := tableName type
        columns := values.map fun entry => columnName entry.1
        rows := [values.map fun entry => cellOf entry.2]
        returning := returning } = .ok (returned, after)) : Regular schema after := by
  have changes : Changes schema False database after := insert_changes fitting.columns known regular.laid filled run
  have typed := kept_invariant fitting.formed fitting.tables fitting.columns fitting.fit
  exact ⟨changes.laid regular.laid, typed.kept regular.laid changes (insert_refills run) regular.kept,
    changes.references_keyed fitting.fit regular.keyed⟩

theorem written_all {identity : String} (ordered : values.Ordered) (valued : values.get? identity ≠ some .null) :
    (values.filter fun entry => entry.1 ≠ identity || !entry.2.isNull) = values := by
  refine List.filter_eq_self.mpr fun entry member => ?_
  by_cases named : entry.1 = identity
  · have held : values.get? identity = some entry.2 := ordered.lookup_mem (named ▸ member)
    rw [held] at valued
    cases value : entry.2 <;> simp_all [Value.isNull]
  · simp [named]

/-- The statement that inserts the values of a new resource. The identity is returned unless it is among them. -/
def insertion (type : EntityType) (values : Keyed Value) : Insert where
  table := tableName type
  columns := values.map fun entry => columnName entry.1
  rows := [values.map fun entry => cellOf entry.2]
  returning := if (values.get? type.identity.name).isNone then some (idName type) else none

def readNew (type : EntityType) (given : Option Value) (returned : List Cell) : MappingAction Instance := do
  let id ← match given, returned with
    | some id, _ => pure id.text
    | none, cell :: _ => Value.text <$> Action.ofExcept (valueOf type.identity.type cell)
    | none, [] => throw .noReturnedId
  readBack type id

theorem insert_eq (filled : Fills type.fields values) (ordered : values.Ordered)
    (valued : values.get? type.identity.name ≠ some .null)
    (identified : (values.get? type.identity.name).isSome ∨ type.identity.type = .integer) :
    Mapping.insert type values =
      statement (Action.insert (insertion type values)) >>= readNew type (values.get? type.identity.name) := by
  have checked : checkFields type values = .ok () := checkFields_own fun entry member =>
    let ⟨field, own, named, _⟩ := filled entry member
    ⟨field, own, named⟩
  have present : (values.get? type.identity.name).filter (fun id => !id.isNull) = values.get? type.identity.name := by
    cases held : values.get? type.identity.name with
    | none => rfl
    | some value =>
        rw [held] at valued
        cases value <;> first | rfl | exact absurd rfl valued
  have allowed : ¬((values.get? type.identity.name).isNone ∧ type.identity.type ≠ .integer) := by
    rintro ⟨absent, other⟩
    rcases identified with given | whole
    · rw [Option.isNone_iff_eq_none.mp absent] at given
      cases given
    · exact other whole
  unfold Mapping.insert
  rw [checked]
  dsimp only
  rw [present, if_neg allowed, written_all ordered valued]
  rfl

theorem execute_readNew {start : Connection} {resource : Instance} {given : Option Value} {returned : List Cell}
    {value : Value} (spelled : resource.id = value.text)
    (identity : given = some value ∨
      given = none ∧ ∃ cell, returned = [cell] ∧ valueOf type.identity.type cell = .ok value)
    (found : (execute (Mapping.get type [resource.id]) start).1 = .ok [resource]) :
    ∃ finish, execute (readNew type given returned) start = (.ok resource, finish) ∧
      finish.database = start.database := by
  let finish := (execute (Mapping.get type [resource.id]) start).2
  have run : execute (Mapping.get type [value.text]) start = (.ok [resource], finish) := spelled ▸ Prod.ext found rfl
  refine ⟨finish, ?_, congrArg Prod.fst ((get_keeps type [resource.id]).same start)⟩
  rcases identity with rfl | ⟨rfl, cell, rfl, valued⟩
  · exact execute_bind_done run
  · have named : execute (Value.text <$> Action.ofExcept (valueOf type.identity.type cell)) start =
        (.ok value.text, start) := by
      rw [valued]
      rfl
    exact (execute_bind_done named).trans (execute_bind_done run)

section

variable {data : Json} (fitting : schema.Fitting) (known : type ∈ schema.types) (keyed : type.extraKey = [])
  (described : type.Describes data) (gives : type.Gives data values)
include fitting known keyed described gives

theorem execute_insert_new {start : Connection} (regular : Regular schema start.database)
    (storable : isStorable (start.database.nextSerial (tableName type))) :
    let created := type.newRecord (type.given? data) (start.database.nextSerial (tableName type))
    (Clashes start.database type created → ∃ violated finish,
      execute (Mapping.insert type values) start = (.error (.store (.notUnique (tableName type) violated)), finish)) ∧
    (¬Clashes start.database type created → ∃ resource finish,
      execute (Mapping.insert type values) start = (.ok resource, finish) ∧ readRecord type created = .ok resource ∧
        Regular schema finish.database ∧ Rewrites start.database finish.database (tableName type)
          (start.database.records (tableName type) ++ [created])) := by
  intro created
  have ⟨valued, identified⟩ := identity_given described
  have ⟨filled, ordered, given⟩ := gives
  rw [← given type.identity List.mem_cons_self] at valued identified
  obtain ⟨stores, resource, read, _⟩ := newRecord_read fitting.columns known (fitting.formed.members type known)
    described storable
  have wanted : ∀ column ∈ (insertion type values).returning, column = idName type := by
    intro column asked
    unfold insertion at asked
    exact (Option.some.inj (Option.ite_none_right_eq_some.mp asked).2).symm
  have ⟨succeeds, fails⟩ := insert_resource fitting.columns known regular.kept.housed fitting.tables keyed filled
    ordered.names valued identified wanted
  rw [gives.record] at succeeds fails
  rw [insert_eq filled ordered valued identified]
  constructor
  · intro clash
    obtain ⟨violated, failed⟩ := fails clash
    obtain ⟨finish, stopped⟩ := execute_insert_failed failed
    exact ⟨violated, finish, execute_bind_failed stopped⟩
  · intro fresh
    obtain ⟨reached, run, changed⟩ := succeeds fresh
    obtain ⟨middle, done, rfl⟩ := execute_insert_done run
    have again : Regular schema middle.database :=
      regular.inserted fitting known filled run
    have member : created ∈ middle.database.records (tableName type) := by
      rw [records_same changed]
      exact List.mem_append_right _ (List.mem_singleton_self created)
    have identified := newRecord_identity fitting.columns known (identity_given described).1
      (start.database.nextSerial (tableName type))
    have found := get_stored again.kept again.laid fitting.tables fitting.columns known (.inl keyed)
      (fitting.exact type known) member (stores type.identity List.mem_cons_self) identified read rfl
    have held : created (idName type) = cellOf (type.newValue (type.given? data) _ type.identity) :=
      newRecord_field fitting.columns known List.mem_cons_self
    have identity := (newValue_identity described storable).2.2
    obtain ⟨value, valued', spelled⟩ := readRow_id read
    have same : valueOf type.identity.type (created (idName type)) = .ok value := valued'
    rw [held, identity] at same
    have named : values.get? type.identity.name = some value ∨ values.get? type.identity.name = none ∧
        ∃ cell, (insertion type values).returning.toList.map created = [cell] ∧
          valueOf type.identity.type cell = .ok value := by
      unfold insertion
      cases given' : values.get? type.identity.name with
      | some id =>
          refine .inl ?_
          cases same
          unfold EntityType.newValue
          rw [← given type.identity List.mem_cons_self, given']
          rfl
      | none => exact .inr ⟨rfl, created (idName type), rfl, valued'⟩
    obtain ⟨finish, readBack, kept⟩ := execute_readNew spelled named found
    exact ⟨resource, finish, (execute_bind_done done).trans readBack, read, kept ▸ again, kept ▸ changed⟩

end

end

theorem occursIn_between (word before after : List Char) :
    RequestError.occursIn word (before ++ (word ++ after)) = true := by
  induction before with
  | nil =>
      cases word with
      | nil => cases after <;> simp [RequestError.occursIn]
      | cons c rest => simp [RequestError.occursIn]
  | cons c before ih =>
      rw [List.cons_append, RequestError.occursIn, ih, Bool.or_true]

theorem notUnique_status (table : String) (violated : List String) :
    (RequestError.backend (StoreError.notUnique table violated).message true).status = 409 := by
  have told : RequestError.isClash (StoreError.notUnique table violated).message = true := by
    have split : "UNIQUE constraint failed: " = "UNIQUE constraint failed" ++ ": " := by decide
    refine List.any_eq_true.mpr ⟨"UNIQUE constraint failed", by decide, ?_⟩
    unfold StoreError.message StoreError.detail
    dsimp only
    rw [split, String.append_assoc, String.toList_append, String.toList_append]
    exact occursIn_between ..
  unfold RequestError.status
  dsimp only
  rw [told]
  rfl

section

variable {api : Api} (unprocessed : api.Unprocessed api.schema {}) (fitting : api.schema.Fitting) {endpoint : Endpoint}
  {request : Request} (routed : api.route request.url.path = .ok (endpoint, .collection))
  (usual : endpoint.config.urlPath = none) (keyed : endpoint.type.extraKey = []) {data : Json}
  (described : endpoint.type.Describes data)
include unprocessed fitting routed usual keyed described

theorem execute_storeResource_new {values : Keyed Value} (gives : endpoint.type.Gives data values)
    {start : Connection} (regular : Regular api.schema start.database)
    (storable : isStorable (start.database.nextSerial (tableName endpoint.type))) :
    let created := endpoint.type.newRecord (endpoint.type.given? data)
      (start.database.nextSerial (tableName endpoint.type))
    (Clashes start.database endpoint.type created → ∃ error finish,
      execute (storeResource api endpoint request values []) start = (.error error, finish) ∧ error.status = 409) ∧
    (¬Clashes start.database endpoint.type created → ∃ resource url document finish,
      execute (storeResource api endpoint request values []) start = (.ok (resource.id, url, document), finish) ∧
        readRecord endpoint.type created = .ok resource ∧
        Rewrites start.database finish.database (tableName endpoint.type)
          (start.database.records (tableName endpoint.type) ++ [created]) ∧
        ∃ json, document.data = some json ∧ json.identifier? = some resource.identifier) := by
  intro created
  have known := List.mem_of_find?_eq_some (route_registered routed).2
  have ⟨fails, succeeds⟩ := execute_insert_new fitting known keyed described gives regular storable
  constructor
  · intro clash
    obtain ⟨violated, finish, failed⟩ := fails clash
    refine ⟨_, finish, execute_bind_failed ?_, notUnique_status (tableName endpoint.type) violated⟩
    unfold SourceAction.writing
    rw [execute_mapError, failed]
    rfl
  · intro fresh
    obtain ⟨resource, middle, done, read, again, changed⟩ := succeeds fresh
    obtain ⟨url, joined⟩ := resourceUrl_joins unprocessed routed usual rfl resource.id
    have shown (field : Field) (own : field ∈ endpoint.type.attributes) :
        (resource.attribute? field.name).isSome := by
      have distinct := fitting.formed.members _ known
      obtain ⟨_, _, read', valued⟩ := newRecord_read fitting.columns known distinct described storable
      cases read.symm.trans read'
      obtain ⟨json, written⟩ := (newValue_attribute distinct described own _).2.2
      unfold Instance.attribute?
      rw [valued field (List.mem_cons_of_mem _ own), Option.getD_some, written]
      rfl
    have presents := presents_of_shown again.keyed again.kept.typed fitting.formed fitting.exact
      unprocessed.serializer [] known (readRecord_type read) shown
    obtain ⟨document, finish, assembled, same, named⟩ := delivers_assemble_one (again.accessible fitting)
      unprocessed.serializer presents url middle rfl
    refine ⟨resource, url, document, finish, ?_, read, same ▸ changed, named⟩
    have linked : execute (writeLinkages api.schema endpoint.type resource.id [] true) middle = (.ok (), middle) := rfl
    have located : execute (Store.Action.ofExcept ((Url.join request.url
        (api.assembler.resourceUrl endpoint.type.name resource.id)).mapError fun error =>
          RequestError.badRequest error.message)) middle = (.ok url, middle) := by
      rw [execute_ofExcept, joined]
      rfl
    unfold storeResource
    exact (execute_bind_done (execute_writing_done done)).trans <| (execute_bind_done linked).trans <|
      (execute_bind_done located).trans (execute_bind_done assembled)

/-- An API whose collections are found where they are by default creates what a resource object describes, as it is
described, unless it clashes with a resource that is stored: then the request is refused as a conflict, and nothing is
stored. -/
theorem creation_succeeds_unless_clashing (allowed : endpoint.config.allows .post = true)
    (choosing : endpoint.config.allowClientIds = true) (posting : request.verb = .post)
    (body : (request.body.bind fun body => body.get? "data") = some data) {database : Database}
    (reachable : Reachable api (fun _ => True) database)
    (storable : isStorable (database.nextSerial (tableName endpoint.type))) (now : Timestamp) :
    let created := endpoint.type.newRecord (endpoint.type.given? data) (database.nextSerial (tableName endpoint.type))
    let outcome := handle api now request database
    (Clashes database endpoint.type created → outcome.response.status = 409 ∧ outcome.database = database) ∧
    (¬Clashes database endpoint.type created → outcome.response.status = 201 ∧
      Rewrites database outcome.database (tableName endpoint.type)
        (database.records (tableName endpoint.type) ++ [created]) ∧
      ∃ resource document json, readRecord endpoint.type created = .ok resource ∧
        (∀ field ∈ endpoint.type.attributes,
          resource.get? field.name = some ((endpoint.type.given? data field).getD .null)) ∧
        outcome.response.body = some document ∧ document.data = some json ∧
          json.identifier? = some resource.identifier) := by
  intro created outcome
  have known := List.mem_of_find?_eq_some (route_registered routed).2
  have plain := unprocessed.settled.2.2.1 _ (route_registered routed).1
  have asked : requestData request = .ok data := by
    unfold requestData
    rw [body]
  obtain ⟨values, read, gives⟩ := readCreation_described (fitting.formed.members _ known) choosing asked described
  let start : Connection := ⟨database, some database, ["BEGIN"]⟩
  have regular : Regular api.schema start.database := reachable_regular fitting reachable
  have ⟨fails, succeeds⟩ := execute_storeResource_new unprocessed fitting routed usual keyed described gives regular
    storable
  have posted : dispatch api now request = createResource api endpoint request := by
    rw [dispatch_routed routed, posting, if_pos allowed]
    rfl
  have response := handle_response api now request database
  have reached : outcome.database =
      (execute (dispatch api now request) ⟨⟨database, none, []⟩, []⟩).2.connection.database := rfl
  rw [posted, execute_createResource plain read] at response reached
  constructor
  · intro clash
    obtain ⟨error, finish, failed, status⟩ := fails clash
    rw [failed] at response reached
    refine ⟨?_, reached⟩
    rw [response]
    exact status
  · intro fresh
    obtain ⟨resource, url, document, finish, done, read', changed, json, data', named⟩ := succeeds fresh
    rw [done] at response reached
    refine ⟨by rw [response]; rfl, reached ▸ changed, resource, document, json, read', ?_, by rw [response]; rfl, data',
      named⟩
    intro field own
    have distinct := fitting.formed.members _ known
    obtain ⟨_, _, read'', valued⟩ := newRecord_read fitting.columns known distinct described storable
    cases read'.symm.trans read''
    have other : field ≠ endpoint.type.identity :=
      fun same => EntityType.attribute_named distinct own (congrArg Field.name same)
    rw [valued field (List.mem_cons_of_mem _ own)]
    unfold EntityType.newValue
    rw [if_neg other]

end

def Schema.offered (schema : Schema) (settings : ResourceConfig) : Api :=
  schema.types.foldl (fun api type => (api.register type.name settings).toOption.getD api) (.ofSchema schema {})

theorem unprocessed_offered {settings : ResourceConfig} (plain : settings.Plain) (default : settings.serializer = none)
    (schema : Schema) : Api.Unprocessed schema {} (schema.offered settings) := by
  have later (types : List EntityType) (api : Api) (before : Api.Unprocessed schema {} api) : Api.Unprocessed schema {}
      (types.foldl (fun api type => (api.register type.name settings).toOption.getD api) api) := by
    induction types generalizing api with
    | nil => exact before
    | cons type rest ih =>
        refine ih _ ?_
        dsimp only
        cases done : api.register type.name settings with
        | error _ => exact before
        | ok next => exact .register before plain default done
  exact later _ _ .start

/-! Pens that are numbered and told apart by their labels as well. -/

namespace Pens

def pen : EntityType :=
  ⟨"pen", some "pen", ⟨"id", .integer, false⟩, [⟨"label", .string, true⟩, ⟨"price", .decimal, false⟩], [], []⟩

def schema : Schema := ⟨[pen]⟩

def settings : ResourceConfig := { allowClientIds := true }

def api : Api :=
  schema.offered settings

theorem unprocessed : Api.Unprocessed schema {} api :=
  unprocessed_offered ⟨rfl, rfl⟩ rfl schema

theorem fitting : schema.Fitting :=
  fitting_of_decided [pen] rfl (by decide +kernel)

theorem routed : api.route "/api/pen" = .ok (⟨pen, settings⟩, .collection) := rfl

def labelled (label : String) : List (String × Json) :=
  [("attributes", .object [("label", .string label), ("price", .integer 2)])]

def object (label : String) : Json :=
  .object (labelled label ++ [("type", .string "pen")])

theorem described (label : String) : pen.Describes (object label) where
  typed := rfl
  attributes := by
    rintro _ ⟨⟩
    refine ⟨_, rfl, ?_, ?_⟩
    · have sorted : "label" < "price" := by decide
      exact List.pairwise_pair.mpr sorted
    · intro member own
      rcases List.mem_cons.mp own with rfl | own
      · exact ⟨rfl, ⟨"label", .string, true⟩, by decide, rfl, rfl⟩
      · rw [List.mem_singleton.mp own]
        exact ⟨rfl, ⟨"price", .decimal, false⟩, by decide, rfl, rfl⟩
  identity := nofun
  identified := .inr rfl
  unlinked := nofun

def tables : Database :=
  ⟨[⟨"pen", [⟨"id", .serial⟩, ⟨"label", .text⟩, ⟨"price", .decimal⟩], [[0], [1]],
    [[.integer 1, .text "fine", .decimal (.signed false 4611686018427387904)]], 2⟩]⟩

theorem tables_reachable : Reachable api (fun _ => True) tables :=
  Client.reachable_of_done [Client.create "pen" (labelled "fine")] (by decide +kernel)

def next (label : String) : Record :=
  pen.newRecord (pen.given? (object label)) (tables.nextSerial (tableName pen))

def answer (label : String) : Outcome :=
  handle api Client.now (Client.create "pen" (labelled label)) tables

end Pens

theorem pens_created_apart :
    (¬Clashes Pens.tables Pens.pen (Pens.next "broad") ∧ (Pens.answer "broad").response.status = 201 ∧
      Rewrites Pens.tables (Pens.answer "broad").database (tableName Pens.pen)
        (Pens.tables.records (tableName Pens.pen) ++ [Pens.next "broad"])) ∧
    (Clashes Pens.tables Pens.pen (Pens.next "fine") ∧ (Pens.answer "fine").response.status = 409 ∧
      (Pens.answer "fine").database = Pens.tables) := by
  have routed (label : String) : Pens.api.route (Client.create "pen" (Pens.labelled label)).url.path =
      .ok (⟨Pens.pen, Pens.settings⟩, .collection) := Pens.routed
  have fresh : ¬Clashes Pens.tables Pens.pen (Pens.next "broad") := by decide +kernel
  have taken : Clashes Pens.tables Pens.pen (Pens.next "fine") := by decide +kernel
  have storable : isStorable (Pens.tables.nextSerial (tableName Pens.pen)) := by decide
  have first := creation_succeeds_unless_clashing Pens.unprocessed Pens.fitting (routed "broad") rfl rfl
    (Pens.described "broad") rfl rfl rfl rfl Pens.tables_reachable storable Client.now
  have second := creation_succeeds_unless_clashing Pens.unprocessed Pens.fitting (routed "fine") rfl rfl
    (Pens.described "fine") rfl rfl rfl rfl Pens.tables_reachable storable Client.now
  have created := first.2 fresh
  have refused := second.1 taken
  unfold Pens.answer
  exact ⟨⟨fresh, created.1, created.2.1⟩, taken, refused⟩

/-! Resources that clash with no stored ones, and are not created. -/

theorem described_by_identity {type : EntityType} {id : String} (spelled : (type.readId? id).isSome) :
    type.Describes (.object ([("id", .string id)] ++ [("type", .string type.name)])) where
  typed := rfl
  attributes := nofun
  identity := by
    rintro _ ⟨⟩
    exact spelled
  identified := .inl rfl
  unlinked := nofun

/-- A server that has answered some requests is asked to create a resource with an identity. -/
structure Trial where
  types : List EntityType
  before : List Request
  type : EntityType
  id : String

namespace Trial

variable (trial : Trial)

def schema : Schema :=
  ⟨trial.types⟩

def api : Api :=
  trial.schema.offered { allowClientIds := true }

def tables : Database :=
  afterRequests trial.api Client.now trial.before

def members : List (String × Json) :=
  [("id", .string trial.id)]

def data : Json :=
  .object (trial.members ++ [("type", .string trial.type.name)])

def record : Record :=
  trial.type.newRecord (trial.type.given? trial.data) (trial.tables.nextSerial (tableName trial.type))

def status : Nat :=
  (handle trial.api Client.now (Client.create trial.type.name trial.members) trial.tables).response.status

/-- The tables and columns of the schema are told apart, its identities are of exact types, and what is described
clashes with nothing. -/
structure Fair : Prop where
  valid : Schema.ofTypes trial.types = .ok trial.schema
  unprocessed : Api.Unprocessed trial.schema {} trial.api
  reachable : Reachable trial.api (fun _ => True) trial.tables
  described : trial.type.Describes trial.data
  told : trial.schema.TablesDistinct ∧ trial.schema.PairsShared ∧ trial.schema.ColumnsDistinct ∧
    ∀ type ∈ trial.schema.types, type.identity.type.Exact ∧ type.extraKey = []
  storable : isStorable (trial.tables.nextSerial (tableName trial.type))
  fresh : trial.type ∈ trial.types ∧ ¬Clashes trial.tables trial.type trial.record

variable {trial}

theorem fair_of_decided (valid : Schema.ofTypes trial.types = .ok trial.schema)
    (registers : (execute (register trial.api.schema) ⟨Database.empty, none, []⟩).1 = .ok ())
    (spelled : (trial.type.readId? trial.id).isSome)
    (decided : (trial.schema.TablesDistinct ∧ trial.schema.PairsShared ∧ trial.schema.ColumnsDistinct ∧
      ∀ type ∈ trial.schema.types, type.identity.type.Exact ∧ type.extraKey = []) ∧
      isStorable (trial.tables.nextSerial (tableName trial.type)) ∧
      trial.type ∈ trial.types ∧ ¬Clashes trial.tables trial.type trial.record) : trial.Fair where
  valid := valid
  unprocessed := unprocessed_offered ⟨rfl, rfl⟩ rfl _
  reachable := Client.reachable_of_done trial.before ⟨registers, rfl⟩
  described := described_by_identity spelled
  told := decided.1
  storable := decided.2.1
  fresh := decided.2.2

end Trial

/-! A table that is called as the owners are whose links are loaded. -/

namespace Owners

def owner : EntityType :=
  ⟨"owner", some "rel_owner", ⟨"id", .string, false⟩, [⟨"no", .decimal, false⟩], [], []⟩

def item : EntityType :=
  ⟨"item", some "item", ⟨"no", .integer, false⟩, [], [⟨"owner", .toOne, "owner", true, .ownerKey "owner"⟩], []⟩

def trial : Trial where
  types := [item, owner]
  before :=
    [Client.create "owner" [("attributes", .object [("no", .integer 1)]), ("id", .string "a")],
      Client.create "item" [("id", .string "5")],
      Client.relink .patch "item" "5" "owner" (Client.identifier "owner" "a")]
  type := item
  id := "1"

theorem fair : trial.Fair :=
  Trial.fair_of_decided rfl (by decide +kernel) (by decide) (by decide +kernel)

end Owners

/-! A table that is called as the pairs are of which links are loaded. -/

namespace Chains

def link : EntityType :=
  ⟨"link", some "rel_link", ⟨"id", .string, false⟩, [⟨"no", .decimal, false⟩], [], []⟩

def chain : EntityType :=
  ⟨"chain", some "chain", ⟨"id", .integer, false⟩, [],
    [⟨"links", .toMany, "link", true, .joinTable "pairs" "no" "link"⟩], []⟩

def trial : Trial where
  types := [chain, link]
  before :=
    [Client.create "link" [("attributes", .object [("no", .integer 1)]), ("id", .string "a")],
      Client.create "chain" [("id", .string "5")],
      Client.relink .post "chain" "5" "links" (.array [Client.identifier "link" "a"])]
  type := chain
  id := "1"

theorem fair : trial.Fair :=
  Trial.fair_of_decided rfl (by decide +kernel) (by decide) (by decide +kernel)

end Chains

/-! Shelves that find their books by the prices of these. -/

namespace Pricing

def book : EntityType :=
  ⟨"book", some "book", ⟨"id", .integer, false⟩, [⟨"cost", .decimal, false⟩], [], []⟩

def shelf : EntityType :=
  ⟨"shelf", some "shelf", ⟨"id", .integer, false⟩, [], [⟨"books", .toMany, "book", true, .targetKey "cost"⟩], []⟩

def trial : Trial where
  types := [book, shelf]
  before := [Client.create "book" [("attributes", .object [("cost", .integer 1)]), ("id", .string "1")]]
  type := shelf
  id := "1"

theorem fair : trial.Fair :=
  Trial.fair_of_decided rfl (by decide +kernel) (by decide) (by decide +kernel)

end Pricing

/-! Books whose titles are overwritten with the numbers of their authors. -/

namespace Titles

def author : EntityType :=
  ⟨"author", some "author", ⟨"id", .integer, false⟩, [], [], []⟩

def book : EntityType :=
  ⟨"book", some "book", ⟨"id", .string, false⟩, [⟨"at", .string, false⟩, ⟨"title", .string, false⟩],
    [⟨"author", .toOne, "author", true, .ownerKey "title"⟩], []⟩

def shelf : EntityType :=
  ⟨"shelf", some "shelf", ⟨"id", .string, false⟩, [], [⟨"books", .toMany, "book", true, .targetKey "at"⟩], []⟩

def trial : Trial where
  types := [author, book, shelf]
  before :=
    [Client.create "author" [("id", .string "5")],
      Client.create "book" [("attributes", .object [("at", .string "s")]), ("id", .string "a")],
      Client.relink .patch "book" "a" "author" (Client.identifier "author" "5")]
  type := shelf
  id := "s"

theorem fair : trial.Fair :=
  Trial.fair_of_decided rfl (by decide +kernel) (by decide) (by decide +kernel)

end Titles

/-- Where tables have the names under which links are loaded, or a key column is that of a field of another type, a
resource that clashes with nothing may not be created. -/
theorem distinct_columns_do_not_suffice :
    (Owners.trial.Fair ∧ Owners.trial.schema.KeysFit ∧ Owners.trial.status = 500) ∧
    (Chains.trial.Fair ∧ Chains.trial.schema.KeysFit ∧ Chains.trial.status = 500) ∧
    (Pricing.trial.Fair ∧ Pricing.trial.status = 500) ∧ Titles.trial.Fair ∧ Titles.trial.status = 500 :=
  ⟨⟨Owners.fair, by decide +kernel⟩, ⟨Chains.fair, by decide +kernel⟩, ⟨Pricing.fair, by decide +kernel⟩,
    Titles.fair, by decide +kernel⟩

end ResourceServer
