import ResourceServer.Proofs.IdleUpdates
import ResourceServer.Proofs.RoundTrips

/-! What a resource shows may be sent back to it: then nothing changes. -/

namespace ResourceServer

open ResourceServer.Store ResourceServer.Mapping ResourceServer.Api ResourceServer.Calendar

section

variable {schema : Schema} {connection : Connection} {type : EntityType} {id : String} {record : Record}
  {values : Keyed Value}

def Repeats (type : EntityType) (record : Record) (values : Keyed Value) : Prop :=
  ∀ entry ∈ values, ∃ field ∈ type.attributes, field.name = entry.1 ∧
    cellOf entry.2 = record (columnName field.name)

theorem update_idle (separate : schema.Separate) (coherent : Coherent schema connection.database)
    (known : type ∈ schema.types) (member : record ∈ connection.database.records (tableName type))
    (named : type.Names id (record (idName type))) (repeats : Repeats type record values) :
    ∃ after, execute (Mapping.update type id values) connection = (.ok true, after) ∧
      Unaltered schema connection.database after.database := by
  have own : ∀ entry ∈ values, ∃ field ∈ type.attributes, field.name = entry.1 := fun entry given =>
    (repeats entry given).imp fun _ found => ⟨found.1, found.2.1⟩
  have held : ∀ other ∈ connection.database.records (tableName type), other (idName type) = record (idName type) →
      other.assign (assignments values) = other := by
    intro other inside itself
    obtain rfl := coherent.stocked.record_eq known inside member itself
    refine Record.assign_held fun assignment assigned => ?_
    obtain ⟨entry, given, rfl⟩ := List.mem_map.mp assigned
    obtain ⟨field, _, named, held⟩ := repeats entry given
    rw [← named]
    exact held
  obtain ⟨after, done, housed, records⟩ := update_same separate coherent.stocked known own
    ⟨named.spelled, record, member, rfl⟩ held
  exact ⟨after, done, .of_records housed coherent.keys records⟩

end

/-! What is shown of a resource. -/

section

variable {api : Api} {endpoint : Endpoint} {request : Request} {connection : Connection}
  {asked : String} {parameters : Parameters}

theorem required_stored {type : EntityType} {resource : Instance} (separate : api.schema.Separate)
    (housed : Housed api.schema connection.database) (known : type ∈ api.schema.types)
    (run : Runs connection.database (requireResource type asked) resource) :
    ∃ record ∈ connection.database.records (tableName type), readRecord type record = .ok resource := by
  unfold requireResource at run
  obtain ⟨resources, read, run⟩ := runs_bind (reading_keeps (get_keeps type [asked])) run
  obtain ⟨start, here, found⟩ := runs_reading read
  rw [execute_findResources ((housed.shaped separate).entities type known) separate.columns known here] at found
  cases last : resources.getLast? with
  | none =>
      rw [last] at run
      exact absurd run runs_throw
  | some other =>
      rw [last] at run
      cases runs_pure run
      obtain ⟨record, among, read⟩ :=
        mem_of_forall₂ (mapM_forall₂ found).flip (List.mem_of_getLast? last)
      exact ⟨record, (List.mem_filter.mp ((stableSort_perm _ _).mem_iff.mp among)).1, read⟩

/-- A stored resource, written by default with all its links. -/
structure WrittenOut (schema : Schema) (type : EntityType) (connection : Connection) (record : Record)
    (rendered : Rendered) (json : Json) : Prop where
  member : record ∈ connection.database.records (tableName type)
  typed : rendered.type = type
  read : readRecord type record = .ok rendered.resource
  written : Serializer.default rendered = .ok json
  shows : ∀ entry ∈ rendered.relationships, entry.1 ∈ type.relationships ∧
    ShowsLinks schema type entry.1 connection rendered.resource.id entry.2

theorem resource_written (separate : api.schema.Separate)
    (coherent : Coherent api.schema connection.database) (known : endpoint.type ∈ api.schema.types)
    (plain : api.assembler.serializer endpoint.type.name = Serializer.default)
    {document : Document} {json : Json} (shown : document.data = some json)
    (run : Runs connection.database (resourceDocument api endpoint request asked parameters) document)
    (one : ∀ relationship ∈ endpoint.type.relationships, relationship.isToMany = false →
      ∀ id, json.get? "id" = some (.string id) →
        LoadsOne api.schema endpoint.type relationship connection id) :
    ∃ record rendered, WrittenOut api.schema endpoint.type connection record rendered json := by
  have formed := separate.formed
  unfold resourceDocument at run
  obtain ⟨resource, required, run⟩ := runs_bind (requireResource_keeps ..) run
  obtain ⟨_, _, run⟩ := runs_bind (include_keeps ..) run
  obtain ⟨loaded, object, loads, one', data⟩ := Assembler.runs_assembled_one run
  obtain rfl : object = json := Option.some.inj (data.symm.trans shown)
  obtain ⟨record, member, read⟩ := required_stored separate coherent.stocked.housed known required
  have typed : resource.type = endpoint.type.name := readRecord_type read
  unfold Assembler.renderOne at one'
  rw [typed, show api.schema.type? endpoint.type.name = some endpoint.type from
    find_unique EntityType.name formed.names known] at one'
  dsimp only at one'
  rw [plain] at one'
  refine ⟨record, _, member, rfl, read, one', fun entry inside => ?_⟩
  obtain ⟨relationship, visible, rfl⟩ := List.mem_map.mp inside
  have own := Assembler.shownRelationships_own visible
  obtain ⟨target, _, leads, _⟩ := formed.target known own
  obtain ⟨links, linked, same⟩ :=
    linkedTo_loaded formed loads known List.mem_cons_self typed visible
  rw [idsOf_single typed] at linked
  obtain ⟨start, here, found⟩ := runs_reading linked
  have accessible := coherent.accessible separate
  have relates : api.schema.Relates endpoint.type relationship target := ⟨known, own, leads⟩
  rw [loadRelation_rows (here.symm ▸ accessible) relates, here, ← loadRelation_rows accessible relates] at found
  obtain ⟨_, _, named, _⟩ := default_members one'
  refine ⟨own, ?_⟩
  dsimp only [Prod.fst, Prod.snd]
  rw [same]
  exact shows_loaded separate coherent relates (fun kind => one relationship own kind _ named) found

theorem WrittenOut.readChange {record : Record} {rendered : Rendered} {json : Json}
    (out : WrittenOut api.schema endpoint.type connection record rendered json)
    (separate : api.schema.Separate) (coherent : Coherent api.schema connection.database)
    (known : endpoint.type ∈ api.schema.types)
    (whole : ∀ field ∈ endpoint.type.attributes, field.type ≠ .duration)
    (sent : requestData request = .ok json) :
    ∃ values linkages,
      Api.readChange endpoint request rendered.resource.id = .ok (values, linkages) ∧
        Repeats endpoint.type record values ∧ ∀ entry ∈ linkages, entry ∈ rendered.relationships := by
  obtain ⟨member, typed, read, written, shows⟩ := out
  have formed := separate.formed
  obtain ⟨values, valued, repeats⟩ := readAttributes_shown formed known
    (coherent.stocked.typed _ known record member) whole read typed rfl written
  obtain ⟨linkages, linked, among⟩ := readRelationships_shown formed (typed ▸ known)
    (fun entry inside => typed ▸ ⟨(shows entry inside).1, (shows entry inside).2.kind,
      (shows entry inside).2.types⟩) written
  obtain ⟨_, _, named, kind, _⟩ := default_members written
  rw [typed] at linked kind
  have typeChecked : checkType endpoint.type json = .ok () := by
    unfold checkType
    rw [kind]
    exact if_pos rfl
  have idChecked : checkId rendered.resource.id json = .ok () := by
    unfold checkId
    rw [named]
    exact if_pos rfl
  refine ⟨values, linkages, ?_, repeats, among⟩
  unfold Api.readChange
  rw [sent]
  refine bind_of_ok rfl (bind_of_ok typeChecked (bind_of_ok idChecked (bind_of_ok valued ?_)))
  exact bind_of_ok linked rfl

theorem WrittenOut.change_idle {record : Record} {rendered : Rendered} {json : Json}
    (out : WrittenOut api.schema endpoint.type connection record rendered json)
    (separate : api.schema.Separate) (agree : api.schema.KeysAgree)
    (coherent : Coherent api.schema connection.database) (known : endpoint.type ∈ api.schema.types)
    (replaces : endpoint.config.allowReplacement = true) {values : Keyed Value}
    {linkages : List (Relationship × Linkage)} (repeats : Repeats endpoint.type record values)
    (among : ∀ entry ∈ linkages, entry ∈ rendered.relationships) :
    ∃ after, execute (changeResource api endpoint rendered.resource.id values linkages) connection =
        (.ok (), after) ∧ Unaltered api.schema connection.database after.database := by
  obtain ⟨member, _, read, _, shows⟩ := out
  have named := coherent.stocked.names separate known member read
  have stored : IsStored connection.database endpoint.type rendered.resource.id :=
    (coherent.stocked.isStored_iff separate known).mpr ⟨record, member, named⟩
  obtain ⟨middle, updated, unaltered⟩ := update_idle separate coherent known member named repeats
  obtain ⟨after, linked, unaltered'⟩ := writeLinkages_idle separate agree (unaltered.coherent coherent) known
    ((unaltered.isStored known).mpr stored) (fun entry inside => (shows entry (among entry inside)).1)
    fun entry inside => by
      have ⟨own, shown⟩ := shows entry (among entry inside)
      obtain ⟨target, _, leads, _⟩ := separate.formed.target known own
      exact shown.unaltered separate unaltered coherent ⟨known, own, leads⟩ stored
  refine ⟨after, ?_, unaltered.trans unaltered'⟩
  unfold changeResource
  rw [execute_bind, execute_writing_done updated, replaces]
  exact linked

end

section

variable {api : Api} {endpoint : Endpoint} {database : Database}

/-- Where the links of single targets that an answer shows are all that there are, sending the resource that a
request for it answered with back to it succeeds, and leaves all resources with their links. -/
theorem shown_resource_sent_back (separate : api.schema.Separate) (agree : api.schema.KeysAgree)
    (reachable : Reachable api (fun _ => True) database) (unique : IdsUnique api.schema database)
    (plain : endpoint.config.Plain)
    (written : api.assembler.serializer endpoint.type.name = Serializer.default)
    (replaces : endpoint.config.allowReplacement = true) (allowed : endpoint.config.allows .patch = true)
    (whole : ∀ field ∈ endpoint.type.attributes, field.type ≠ .duration) {id asked : String}
    (one : ∀ relationship ∈ endpoint.type.relationships, relationship.isToMany = false →
      LoadsOne api.schema endpoint.type relationship ⟨database, none, []⟩ id)
    {read write : Request} {now : Timestamp} (reading : read.verb = .get)
    (routed : api.route read.url.path = .ok (endpoint, .resource asked)) {document : Document} {json : Json}
    (answered : (handle api now read database).response.body = some document)
    (shown : document.data = some json) (named : json.get? "id" = some (.string id))
    (writing : write.verb = .patch)
    (routed' : api.route write.url.path = .ok (endpoint, .resource id))
    (sent : requestData write = .ok json) (later : Timestamp) :
    let outcome := handle api later write database
    outcome.response = .noContent ∧
      (∀ type ∈ api.schema.types,
        outcome.database.records (tableName type) = database.records (tableName type)) ∧
      ∀ type relationship target, api.schema.Relates type relationship target →
        ∀ owner, IsStored database type owner → ∀ other,
          (Loads api.schema type relationship ⟨outcome.database, none, []⟩ owner other ↔
            Loads api.schema type relationship ⟨database, none, []⟩ owner other) := by
  let begun : Connection := ⟨database, some database, ["BEGIN"]⟩
  have coherent : Coherent api.schema begun.database := reachable_coherent separate agree reachable unique
  have known := route_known routed
  have same {type target : EntityType} {relationship : Relationship}
      (relates : api.schema.Relates type relationship target) :
      Loads api.schema type relationship ⟨database, none, []⟩ = Loads api.schema type relationship begun :=
    loads_same (coherent.linkable separate relates) rfl
  obtain ⟨_, parameters, run⟩ := resource_answered routed reading plain answered (by rw [shown]; rfl)
  obtain ⟨record, rendered, out⟩ :
      ∃ record rendered, WrittenOut api.schema endpoint.type begun record rendered json := by
    refine resource_written separate coherent known written shown run
      fun relationship own kind other named' => ?_
    cases named.symm.trans named'
    obtain ⟨target, _, leads, _⟩ := separate.formed.target known own
    have alone := one relationship own kind
    unfold LoadsOne at alone ⊢
    rw [← same ⟨known, own, leads⟩]
    exact alone
  obtain ⟨_, _, named', _⟩ := default_members out.written
  cases named.symm.trans named'
  obtain ⟨values, linkages, change, repeats, among⟩ := out.readChange separate coherent known whole sent
  obtain ⟨after, done, unaltered⟩ := out.change_idle separate agree coherent known replaces repeats among
  have ⟨response, reached⟩ : (handle api later write database).response = .noContent ∧
      (handle api later write database).database = after.database :=
    resource_changed routed' writing allowed plain change done
  have unchanged : Unaltered api.schema begun.database (⟨after.database, none, []⟩ : Connection).database :=
    unaltered
  dsimp only
  rw [response, reached]
  refine ⟨rfl, unaltered.records, fun type relationship target relates owner stored other => ?_⟩
  rw [same relates]
  exact unchanged.loads separate coherent relates stored other

end

theorem LoadsOne.of_few {schema : Schema} {type : EntityType} {relationship : Relationship}
    {connection : Connection} {owner : String} {ids : List String}
    (loaded : loadedTargets schema type relationship connection owner = .ok ids) (few : ids.length ≤ 1) :
    LoadsOne schema type relationship connection owner := by
  rintro id other ⟨_, found, member⟩ ⟨_, found', member'⟩
  cases loaded.symm.trans found
  cases loaded.symm.trans found'
  match ids, few with
  | [_], _ => exact (List.mem_singleton.mp member).trans (List.mem_singleton.mp member').symm

theorem Json.string_of_string? {json : Json} {text : String} (read : json.string? = some text) :
    json = .string text := by
  cases json with
  | string _ => exact congrArg Json.string (Option.some.inj read)
  | _ => cases read

/-! A book of the shelf with its author is sent back. -/

namespace Shelf

def replaceable : ResourceConfig := { allowReplacement := true }

def lending : Api :=
  { Api.ofSchema schema {} with resources := [("author", replaceable), ("book", replaceable)] }

def bookServed : Endpoint := ⟨book, replaceable⟩

def lent : List Request :=
  [Client.create "author" [("attributes", .object [("name", .string "Ann")])],
    Client.create "book" [("attributes", .object [("title", .string "Dawn")]),
      Client.linked "author" (Client.identifier "author" "1")]]

def lentTables : Database :=
  ⟨[⟨"author", [⟨"id", .serial⟩, ⟨"name", .text⟩], [[0]], [[.integer 1, .text "Ann"]], 2⟩,
    ⟨"book", [⟨"id", .serial⟩, ⟨"title", .text⟩, ⟨"author_id", .integer⟩], [[0]],
      [[.integer 1, .text "Dawn", .integer 1]], 2⟩,
    ⟨"sequel", [⟨"book_id", .integer⟩, ⟨"sequel_id", .integer⟩], [[0, 1]], [], 1⟩]⟩

theorem lent_reachable : Reachable lending (fun _ => True) lentTables :=
  Client.reachable_of_done lent (by decide +kernel)

def asking : Request :=
  ⟨.get, Client.url "/api/book/1", none⟩

@[irreducible]
def bookData : Json :=
  ((handle lending Client.now asking lentTables).response.body.bind Document.data).getD .null

def returning : Request :=
  ⟨.patch, Client.url "/api/book/1", some (.object [("data", bookData)])⟩

theorem book_shown : (∃ document, (handle lending Client.now asking lentTables).response.body = some document ∧
    document.data = some bookData) ∧ bookData.get? "id" = some (.string "1") := by
  obtain ⟨given, read⟩ : ((handle lending Client.now asking lentTables).response.body.bind Document.data).isSome ∧
      (bookData.get? "id").bind Json.string? = some "1" := by
    decide +kernel
  constructor
  · obtain ⟨data, shown⟩ := Option.isSome_iff_exists.mp given
    have same : bookData = data := by
      unfold bookData
      rw [shown]
      rfl
    rw [same]
    exact Option.bind_eq_some_iff.mp shown
  · obtain ⟨json, found, read⟩ := Option.bind_eq_some_iff.mp read
    rw [found, Json.string_of_string? read]

end Shelf

theorem book_sent_back : Shelf.lending.schema.Separate ∧ Shelf.lending.schema.KeysAgree ∧
    Reachable Shelf.lending (fun _ => True) Shelf.lentTables ∧
    IdsUnique Shelf.lending.schema Shelf.lentTables ∧
    (∃ document, (handle Shelf.lending Client.now Shelf.asking Shelf.lentTables).response.body = some document ∧
      document.data = some Shelf.bookData) ∧
    requestData Shelf.returning = .ok Shelf.bookData ∧
    (handle Shelf.lending Client.now Shelf.returning Shelf.lentTables).response = .noContent ∧
    ∀ type ∈ Shelf.lending.schema.types,
      (handle Shelf.lending Client.now Shelf.returning Shelf.lentTables).database.records (tableName type) =
        Shelf.lentTables.records (tableName type) := by
  have unique : IdsUnique Shelf.lending.schema Shelf.lentTables := by decide +kernel
  have loaded : loadedTargets Shelf.schema Shelf.book ⟨"author", .toOne, "author", true, .ownerKey "author_id"⟩
      ⟨Shelf.lentTables, none, []⟩ "1" = .ok ["1"] := by decide +kernel
  have single : ∀ relationship ∈ Shelf.book.relationships, relationship.isToMany = false →
      LoadsOne Shelf.lending.schema Shelf.book relationship ⟨Shelf.lentTables, none, []⟩ "1" := by
    simp only [Shelf.book, List.mem_cons, List.not_mem_nil, or_false]
    rintro _ (rfl | rfl) one
    · exact .of_few loaded (by decide)
    · cases one
  obtain ⟨⟨document, answered, shown⟩, named⟩ := Shelf.book_shown
  have routed : Shelf.lending.route Shelf.asking.url.path = .ok (Shelf.bookServed, .resource "1") := rfl
  have routed' : Shelf.lending.route Shelf.returning.url.path = .ok (Shelf.bookServed, .resource "1") := rfl
  have plain : Shelf.bookServed.config.Plain := ⟨rfl, rfl⟩
  have whole : ∀ field ∈ Shelf.bookServed.type.attributes, field.type ≠ .duration := by decide
  have sent : requestData Shelf.returning = .ok Shelf.bookData := rfl
  obtain ⟨response, records, _⟩ := shown_resource_sent_back Shelf.separate Shelf.keysAgree Shelf.lent_reachable
    unique plain rfl rfl rfl whole single rfl routed answered shown named rfl routed' sent
    Client.now
  exact ⟨Shelf.separate, Shelf.keysAgree, Shelf.lent_reachable, unique, ⟨document, answered, shown⟩, sent,
    response, records⟩

/-! Posts of users that may repeat other posts, where the user and the other post are kept in one column. -/

namespace Echoes

def user : EntityType :=
  ⟨"user", none, ⟨"id", .string, false⟩, [], [], []⟩

def author : Relationship :=
  ⟨"author", .toOne, "user", true, .ownerKey "source"⟩

def original : Relationship :=
  ⟨"original", .toOne, "post", true, .ownerKey "source"⟩

def post : EntityType :=
  ⟨"post", none, ⟨"id", .string, false⟩, [], [author, original], []⟩

def schema : Schema := ⟨[post, user]⟩

def config : ResourceConfig := { allowReplacement := true, allowClientIds := true }

def api : Api :=
  { Api.ofSchema schema {} with resources := [("post", config), ("user", config)] }

def requests : List Request :=
  [Client.create "user" [("id", .string "ann")],
    Client.create "post" [("id", .string "p"), Client.linked "author" (Client.identifier "user" "ann")]]

def tables : Database :=
  ⟨[⟨"post", [⟨"id", .text⟩, ⟨"source", .text⟩], [[0]], [[.text "p", .text "ann"]], 1⟩,
    ⟨"user", [⟨"id", .text⟩], [[0]], [[.text "ann"]], 1⟩]⟩

def answer : Response :=
  (handle api Client.now ⟨.get, Client.url "/api/post/p", none⟩ tables).response

def sentBack : Nat × Database :=
  let data := (answer.body.bind Document.data).getD .null
  let outcome := handle api Client.now ⟨.patch, Client.url "/api/post/p", some (.object [("data", data)])⟩ tables
  (outcome.response.status, outcome.database)

end Echoes

/-- Where relationships to different types share a column, the null of one takes the target of the other. -/
theorem shared_column_loses_author :
    Echoes.schema.Separate ∧ Reachable Echoes.api (fun _ => True) Echoes.tables ∧
      IdsUnique Echoes.schema Echoes.tables ∧ Echoes.answer.status = 200 ∧ Echoes.sentBack.1 = 204 ∧
      loadedTargets Echoes.schema Echoes.post Echoes.author ⟨Echoes.tables, none, []⟩ "p" = .ok ["ann"] ∧
      loadedTargets Echoes.schema Echoes.post Echoes.original ⟨Echoes.tables, none, []⟩ "p" = .ok [] ∧
      loadedTargets Echoes.schema Echoes.post Echoes.author ⟨Echoes.sentBack.2, none, []⟩ "p" = .ok [] :=
  ⟨separate_of_decided [Echoes.user, Echoes.post] rfl (by decide +kernel),
    Client.reachable_of_done Echoes.requests (by decide +kernel), by decide +kernel⟩

end ResourceServer
