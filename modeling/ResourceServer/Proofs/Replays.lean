import ResourceServer.Proofs.Refusals
import ResourceServer.Proofs.ReplayedRequests
import ResourceServer.Proofs.WritingBack

/-! Sending a request again that has changed a resource or its links. -/

namespace ResourceServer

open ResourceServer.Store ResourceServer.Mapping ResourceServer.Api ResourceServer.Calendar

/-! Requests that carry out an action with what they read from their body. -/

section

variable {api : Api} {endpoint : Endpoint} {request : Request} {now : Timestamp} {database : Database} {α : Type}
  {read : Except RequestError α} {context : Context} {action : α → SourceAction (Option Bool)}

theorem allowed_of_status {route : Route} (routed : api.route request.url.path = .ok (endpoint, route))
    (status : (handle api now request database).response.status = 204) :
    endpoint.config.allows request.verb = true := by
  by_contra refused
  rw [handle_response, dispatch_routed routed, if_neg refused] at status
  exact absurd status (by decide : ¬(405 : Nat) = 204)

theorem done_of_status (plain : endpoint.config.Plain) (kept : ∀ value, Keeps Connection.savepoint (action value))
    (handles : dispatch api now request =
      Handler.ofExcept read >>= fun value => carryOut endpoint context (action value))
    (errs : ErrsOnly Declines read) (fails : ∀ value, FailsOnly Declines (action value))
    (status : (handle api now request database).response.status = 204) :
    ∃ value flag after, read = .ok value ∧
      execute (action value) ⟨database, some database, ["BEGIN"]⟩ = (.ok flag, after) := by
  rw [handle_response, handles] at status
  cases given : read with
  | error error =>
      rw [given] at status
      exact absurd status (errs error given)
  | ok value =>
      rcases run : execute (action value) ⟨database, some database, ["BEGIN"]⟩ with ⟨result, after⟩
      cases result with
      | ok flag => exact ⟨value, flag, after, rfl, run⟩
      | error error =>
          have refused : (execute (carryOut endpoint context (action value)) ⟨⟨database, none, []⟩, []⟩).1 =
              .error error := carryOut_refused plain (kept value) run
          have carried : execute (Handler.ofExcept (.ok value) >>= fun value => carryOut endpoint context (action value))
              ⟨⟨database, none, []⟩, []⟩ =
                execute (carryOut endpoint context (action value)) ⟨⟨database, none, []⟩, []⟩ := rfl
          rw [given, carried, refused] at status
          exact absurd status ((fails value).sound run)

end

/-! The two kinds of requests that change what is stored already. -/

section

variable {api : Api} {endpoint : Endpoint} {request : Request} {id : String} (now : Timestamp)

theorem ofExcept_bind {α β : Type} (result : Except RequestError α) (next : α → Except RequestError β) :
    Handler.ofExcept (result >>= next) = Handler.ofExcept result >>= fun value => Handler.ofExcept (next value) := by
  cases result with
  | error error => rfl
  | ok value => exact (pure_bind _ _).symm

def readLinkChange (request : Request) (relationship : Relationship) : Except RequestError Linkage := do
  checkLinkOperation (linkOperation request.verb) relationship
  Linkage.ofJson relationship (← requestData request)

theorem readLinkChange_declines (relationship : Relationship) :
    ErrsOnly Declines (readLinkChange request relationship) :=
  errsOnly_bind (checkLinkOperation_declines _) fun _ =>
    errsOnly_bind (requestData_declines request) fun data => linkage_declines data

theorem dispatch_missing {name : String} (routed : api.route request.url.path = .ok (endpoint, .relationship id name))
    (writing : request.verb ≠ .get) (allowed : endpoint.config.allows request.verb = true)
    (none : endpoint.type.relationship? name = none) :
    dispatch api now request = throw (.notFound s!"No relationship {name} on type {endpoint.type.name}") := by
  rw [dispatch_routed routed, if_pos allowed]
  cases verb : request.verb with
  | get => exact absurd verb writing
  | _ =>
      unfold carryOutRoute Api.findRelationship
      dsimp only
      rw [none]
      rfl

theorem dispatch_links {name : String} {relationship : Relationship}
    (routed : api.route request.url.path = .ok (endpoint, .relationship id name)) (writing : request.verb ≠ .get)
    (allowed : endpoint.config.allows request.verb = true)
    (found : endpoint.type.relationship? name = some relationship) :
    ∃ context : Context, dispatch api now request =
      Handler.ofExcept (readLinkChange request relationship) >>= fun linkage => carryOut endpoint context
        (changeLinks api endpoint (linkOperation request.verb) id relationship linkage) := by
  have routes : carryOutRoute api now endpoint request (.relationship id name) request.verb =
      updateLinks api endpoint request id relationship := by
    cases verb : request.verb with
    | get => exact absurd verb writing
    | _ =>
        unfold carryOutRoute Api.findRelationship
        dsimp only
        rw [found]
        rfl
  rw [dispatch_routed routed, if_pos allowed, routes]
  refine ⟨
    { operation := linkOperation request.verb
      type := endpoint.type.name
      id := some id
      relationship := some relationship.name
      request := request }, ?_⟩
  unfold updateLinks readLinkChange
  simp only [ofExcept_bind, bind_assoc]

end

/-- A request changes a resource, or the links of one of its relationships. -/
def Updates : Route → Verb → Prop
  | .resource _, .patch => True
  | .relationship _ _, verb => verb ≠ .get
  | _, _ => False

section

variable {api : Api} {endpoint : Endpoint} {request : Request} {now : Timestamp} {database : Database}

theorem changeResource_resent {id : String} (separate : api.schema.Separate) (agree : api.schema.KeyTypesAgree)
    (stocked : Stocked api.schema database) (typed : ReferencesTyped api.schema database)
    (plain : endpoint.config.Plain) (routed : api.route request.url.path = .ok (endpoint, .resource id))
    (writing : request.verb = .patch)
    (unmixed : ∀ values linkages, readChange endpoint request id = .ok (values, linkages) →
      api.schema.Unmixed endpoint.type (Linked linkages))
    (answered : (handle api now request database).response.status = 204) (later : Timestamp) :
    let first := handle api now request database
    let again := handle api later request first.database
    again.response.status = 204 ∧ SameResources api.schema first.database again.database := by
  have known := route_known routed
  have allowed : endpoint.config.allows .patch = true := writing ▸ allowed_of_status routed answered
  obtain ⟨context, handles⟩ := dispatch_resource now routed writing allowed
  have fails (change : Keyed Value × List (Relationship × Linkage)) : FailsOnly Declines (do
      changeResource api endpoint id change.1 change.2
      return (none : Option Bool)) := failsOnly_bind (changeResource_declines ..) fun _ => failsOnly_pure _
  obtain ⟨⟨values, linkages⟩, flag, after, given, done⟩ := done_of_status plain (changing_keeps api endpoint id)
    handles (readChange_declines endpoint request id) fails answered
  obtain ⟨⟨⟩, reached, changed, _⟩ := execute_bind_ok done
  obtain ⟨filled, own⟩ := readChange_fills given
  intro first again
  have made : first.database = reached.database := (resource_changed routed writing allowed plain given changed).2
  obtain ⟨last, repeated, same⟩ := changeResource_again separate agree (unmixed values linkages given) stocked typed
    known filled own changed ⟨first.database, some first.database, ["BEGIN"]⟩ made
  obtain ⟨response, left⟩ : again.response = .noContent ∧ again.database = last.database :=
    resource_changed routed writing allowed plain given repeated
  rw [← made] at same
  refine ⟨congrArg Response.status response, ?_⟩
  rw [left]
  exact same

theorem changeLinks_resent {id name : String} (separate : api.schema.Separate) (agree : api.schema.KeyTypesAgree)
    (stocked : Stocked api.schema database) (typed : ReferencesTyped api.schema database)
    (plain : endpoint.config.Plain) (routed : api.route request.url.path = .ok (endpoint, .relationship id name))
    (writing : request.verb ≠ .get) (answered : (handle api now request database).response.status = 204)
    (later : Timestamp) :
    let first := handle api now request database
    let again := handle api later request first.database
    again.response.status = 204 ∧ SameResources api.schema first.database again.database := by
  have known := route_known routed
  have allowed := allowed_of_status routed answered
  obtain ⟨relationship, found⟩ : ∃ relationship, endpoint.type.relationship? name = some relationship := by
    cases found : endpoint.type.relationship? name with
    | some relationship => exact ⟨relationship, rfl⟩
    | none =>
        rw [handle_response, dispatch_missing now routed writing allowed found] at answered
        exact absurd answered (by decide : ¬(404 : Nat) = 204)
  have own := (owns_of_found found).mem
  have kept (linkage : Linkage) : Keeps Connection.savepoint
      (changeLinks api endpoint (linkOperation request.verb) id relationship linkage) := changeLinks_keeps ..
  obtain ⟨context, handles⟩ := dispatch_links now routed writing allowed found
  obtain ⟨context', handles'⟩ := dispatch_links later routed writing allowed found
  obtain ⟨linkage, wasDeleted, after, given, done⟩ := done_of_status plain kept handles
    (readLinkChange_declines relationship) (fun _ => changeLinks_declines api endpoint _ id) answered
  obtain ⟨_, made⟩ := noContent_of_done plain kept handles given done
  intro first again
  obtain ⟨wasDeleted', last, repeated, same⟩ := changeLinks_again separate agree stocked typed known own done
    ⟨first.database, some first.database, ["BEGIN"]⟩ made
  obtain ⟨response, left⟩ := noContent_of_done plain kept handles' given repeated
  rw [← made] at same
  refine ⟨congrArg Response.status response, ?_⟩
  rw [left]
  exact same

/-- A change of a resource or of its links that was answered without content is answered so when it is sent again,
which leaves the instances that are stored and the targets that are loaded for each. Identities that are linked in one
place are of one type, and no change of a resource gives linkage to a to-many relationship that has its links in a key
of the owner and to another relationship that writes there. -/
theorem update_sent_again {route : Route} (separate : api.schema.Separate) (agree : api.schema.KeyTypesAgree)
    (reachable : Reachable api (fun _ => True) database) (unique : IdsUnique api.schema database)
    (plain : endpoint.config.Plain) (routed : api.route request.url.path = .ok (endpoint, route))
    (updates : Updates route request.verb)
    (unmixed : ∀ id values linkages, route = .resource id →
      readChange endpoint request id = .ok (values, linkages) →
        api.schema.Unmixed endpoint.type (Linked linkages))
    (answered : (handle api now request database).response.status = 204) (later : Timestamp) :
    let first := handle api now request database
    let again := handle api later request first.database
    again.response.status = 204 ∧ SameResources api.schema first.database again.database := by
  have stocked := reachable_stocked separate reachable unique
  have typed := (reachable_typed separate.formed separate.tables separate.columns separate.keys agree reachable).2
  cases route with
  | resource id =>
      have writing : request.verb = .patch := by
        cases verb : request.verb with
        | patch => rfl
        | _ =>
            rw [verb] at updates
            exact updates.elim
      exact changeResource_resent separate agree stocked typed plain routed writing
        (fun values linkages read => unmixed id values linkages rfl read) answered later
  | relationship id name => exact changeLinks_resent separate agree stocked typed plain routed updates answered later
  | _ => exact updates.elim

end

def Client.change (type id : String) (members : List (String × Json)) : Request :=
  ⟨.patch, url ("/api/" ++ type ++ "/" ++ id),
    some (.object [("data", .object (members ++ [("id", .string id), ("type", .string type)]))])⟩

def Client.relink (verb : Verb) (type id relationship : String) (linkage : Json) : Request :=
  ⟨verb, url ("/api/" ++ type ++ "/" ++ id ++ "/relationships/" ++ relationship),
    some (.object [("data", linkage)])⟩

def Client.relinked (linkages : List (String × Json)) : String × Json :=
  ("relationships", .object (linkages.map fun entry => (entry.1, .object [("data", entry.2)])))

/-! A book of the shelf is changed. -/

namespace Shelf

def revising : Request :=
  Client.change "book" "1" [("attributes", .object [("title", .string "Dusk")]),
    Client.relinked [("author", .null), ("sequels", .array [Client.identifier "book" "1"])]]

theorem book_unmixed (written : Relationship → Prop) : lending.schema.Unmixed bookServed.type written := by
  intro relationship relationship' target target' relates _ _ _ locked _
  obtain ⟨many, column, storage⟩ := locked
  have own := relates.own
  simp only [bookServed, book, List.mem_cons, List.not_mem_nil, or_false] at own
  rcases own with rfl | rfl
  · cases many
  · cases storage

end Shelf

theorem book_revised_twice :
    Shelf.lending.schema.Separate ∧ Shelf.lending.schema.KeyTypesAgree ∧
      Reachable Shelf.lending (fun _ => True) Shelf.lentTables ∧ IdsUnique Shelf.lending.schema Shelf.lentTables ∧
      let first := handle Shelf.lending Client.now Shelf.revising Shelf.lentTables
      let again := handle Shelf.lending Client.now Shelf.revising first.database
      first.response.status = 204 ∧ again.response.status = 204 ∧
        SameResources Shelf.lending.schema first.database again.database := by
  have unique : IdsUnique Shelf.lending.schema Shelf.lentTables := by decide +kernel
  have agree : Shelf.lending.schema.KeyTypesAgree := Shelf.keysAgree.types
  have routed : Shelf.lending.route Shelf.revising.url.path = .ok (Shelf.bookServed, .resource "1") := rfl
  have answered : (handle Shelf.lending Client.now Shelf.revising Shelf.lentTables).response.status = 204 := by
    decide +kernel
  exact ⟨Shelf.separate, agree, Shelf.lent_reachable, unique, answered,
    update_sent_again Shelf.separate agree Shelf.lent_reachable unique ⟨rfl, rfl⟩ routed trivial
      (fun _ _ linkages _ _ => Shelf.book_unmixed (Linked linkages)) answered Client.now⟩

/-! Requests that are not answered twice in the same way, or that leave other links the second time. -/

def served (schema : Schema) : Api :=
  { Api.ofSchema schema {} with
    resources := schema.types.map fun type => (type.name, { allowReplacement := true, allowClientIds := true }) }

/-- Tables that the clients of a schema's server have made, in which no two resources of a type have one identity;
another request, and whose links of which relationship are looked at afterwards. -/
structure Scene where
  schema : Schema
  tables : Database
  reachable : Reachable (served schema) (fun _ => True) tables
  unique : IdsUnique schema tables
  request : Request
  type : EntityType
  owner : String
  relationship : Relationship

/-- What comes of a request that is sent twice: each time the status of the answer, and what is loaded of the
relationship then. -/
def Scene.sentTwice (scene : Scene) : List (Nat × Except MappingError (List String)) :=
  let first := handle (served scene.schema) Client.now scene.request scene.tables
  let again := handle (served scene.schema) Client.now scene.request first.database
  [first, again].map fun outcome => (outcome.response.status,
    loadedTargets scene.schema scene.type scene.relationship ⟨outcome.database, none, []⟩ scene.owner)

/-! Folders whose contents are kept in the column that names their parents. -/

namespace Folders

def contents : Relationship := ⟨"contents", .toMany, "folder", true, .ownerKey "place"⟩

def parent : Relationship := ⟨"parent", .toOne, "folder", true, .ownerKey "place"⟩

def folder : EntityType := ⟨"folder", none, ⟨"id", .string, false⟩, [], [contents, parent], []⟩

def schema : Schema := ⟨[folder]⟩

theorem separate : schema.Separate :=
  separate_of_decided [folder] rfl (by decide +kernel)

def scene : Scene where
  schema := schema
  tables :=
    ⟨[⟨"folder", [⟨"id", .text⟩, ⟨"place", .text⟩], [[0]],
      [[.text "a", .null], [.text "b", .null]], 1⟩]⟩
  reachable := Client.reachable_of_done
    [Client.create "folder" [("id", .string "a")], Client.create "folder" [("id", .string "b")]]
    (by decide +kernel)
  unique := by decide +kernel
  request :=
    Client.change "folder" "a" [Client.relinked [("contents", .array []), ("parent", Client.identifier "folder" "b")]]
  type := folder
  owner := "a"
  relationship := parent

end Folders

/-! Posts with notes and with days in one column, where a note may be written like a day. -/

namespace Diary

def scene : Scene where
  schema := schema
  tables :=
    let value : Cell := .date ⟨2020, 1, 1, by decide⟩
    ⟨[⟨"day", [⟨"id", .date⟩], [[0]], [[value]], 1⟩,
      ⟨"note", [⟨"id", .text⟩], [[0]], [[.text "2020-01-01"]], 1⟩,
      ⟨"post", [⟨"id", .text⟩], [[0]], [[.text "p"]], 1⟩,
      ⟨"mention", [⟨"post_id", .text⟩, ⟨"value", .text⟩], [[0, 1]], [[.text "p", value]], 1⟩]⟩
  reachable := Client.reachable_of_done
    [Client.create "post" [("id", .string "p")], Client.create "day" [("id", .string "2020-01-01")],
      Client.create "note" [("id", .string "2020-01-01")],
      Client.relink .post "post" "p" "days" (.array [Client.identifier "day" "2020-01-01"])]
    (by decide +kernel)
  unique := by decide +kernel
  request := Client.change "post" "p" [Client.relinked
    [("aNotes", .array [Client.identifier "note" "2020-01-01"]), ("days", .array [])]]
  type := post
  owner := "p"
  relationship := notes

end Diary

/-! Houses with hosts and with guests, who are all in a table that is named like one of a statement. -/

namespace Lodging

def hosts : Relationship := ⟨"aHosts", .toMany, "rel_owner", true, .ownerKey "place"⟩

def guests : Relationship := ⟨"guests", .toMany, "rel_owner", true, .targetKey "place"⟩

def house : EntityType := ⟨"house", none, ⟨"id", .string, false⟩, [], [hosts, guests], []⟩

def person : EntityType := ⟨"rel_owner", none, ⟨"id", .string, false⟩, [], [], []⟩

def schema : Schema := ⟨[house, person]⟩

theorem orderly : schema.Orderly :=
  orderly_of_decided [house, person] rfl (by decide +kernel)

def scene : Scene where
  schema := schema
  tables :=
    ⟨[⟨"house", [⟨"id", .text⟩, ⟨"place", .text⟩], [[0]], [[.text "p", .null]], 1⟩,
      ⟨"rel_owner", [⟨"id", .text⟩, ⟨"place", .text⟩], [[0]], [[.text "p", .null]], 1⟩]⟩
  reachable := Client.reachable_of_done
    [Client.create "house" [("id", .string "p")], Client.create "rel_owner" [("id", .string "p")]]
    (by decide +kernel)
  unique := by decide +kernel
  request := Client.change "house" "p" [Client.relinked
    [("aHosts", .array []), ("guests", .array [Client.identifier "rel_owner" "p"])]]
  type := house
  owner := "p"
  relationship := guests

end Lodging

/-! Posts with tags in a table that is named like another one of a statement. -/

namespace Tagging

def tags : Relationship := ⟨"tags", .toMany, "rel_link", true, .joinTable "tagging" "post_id" "id"⟩

def post : EntityType := ⟨"post", none, ⟨"id", .string, false⟩, [], [tags], []⟩

def tag : EntityType := ⟨"rel_link", none, ⟨"id", .string, false⟩, [], [], []⟩

def schema : Schema := ⟨[post, tag]⟩

theorem orderly : schema.Orderly :=
  orderly_of_decided [post, tag] rfl (by decide +kernel)

def scene : Scene where
  schema := schema
  tables :=
    ⟨[⟨"post", [⟨"id", .text⟩], [[0]], [[.text "p"]], 1⟩,
      ⟨"rel_link", [⟨"id", .text⟩], [[0]], [[.text "a"], [.text "p"]], 1⟩,
      ⟨"tagging", [⟨"post_id", .text⟩, ⟨"id", .text⟩], [[0, 1]], [[.text "p", .text "p"]], 1⟩]⟩
  reachable := Client.reachable_of_done
    [Client.create "post" [("id", .string "p")],
      Client.create "rel_link" [("id", .string "a")], Client.create "rel_link" [("id", .string "p")],
      Client.relink .post "post" "p" "tags" (.array [Client.identifier "rel_link" "p"])]
    (by decide +kernel)
  unique := by decide +kernel
  request := Client.relink .patch "post" "p" "tags" (.array [Client.identifier "rel_link" "a"])
  type := post
  owner := "p"
  relationship := tags

end Tagging

/-! Runs of durations that are stored as other ones than they are written. -/

namespace Timing

def lengths : Relationship := ⟨"lengths", .toMany, "length", true, .joinTable "timing" "run_id" "length_id"⟩

def runs : Relationship := ⟨"runs", .toMany, "run", true, .joinTable "timing" "length_id" "run_id"⟩

def run : EntityType := ⟨"run", none, ⟨"id", .string, false⟩, [], [lengths], []⟩

def length : EntityType := ⟨"length", none, ⟨"id", .duration, false⟩, [], [runs], []⟩

def schema : Schema := ⟨[length, run]⟩

theorem orderly : schema.Orderly :=
  orderly_of_decided [run, length] rfl (by decide +kernel)

def scene : Scene where
  schema := schema
  tables :=
    let written : Cell := .interval ⟨4400000000000016⟩
    let other : Cell := .interval ⟨4400000000000015⟩
    ⟨[⟨"length", [⟨"id", .interval⟩], [[0]], [[written], [other]], 1⟩,
      ⟨"run", [⟨"id", .text⟩], [[0]], [[.text "p"]], 1⟩,
      ⟨"timing", [⟨"length_id", .interval⟩, ⟨"run_id", .text⟩], [[0, 1]], [[other, .text "p"]], 1⟩]⟩
  reachable := Client.reachable_of_done
    [Client.create "run" [("id", .string "p")], Client.create "length" [("id", .string "4400000000.000016")],
      Client.create "length" [("id", .string "4400000000.000014")],
      Client.relink .post "length" "4400000000.000014" "runs" (.array [Client.identifier "run" "p"])]
    (by decide +kernel)
  unique := by decide +kernel
  request := Client.relink .patch "run" "p" "lengths" (.array [Client.identifier "length" "4400000000.000016"])
  type := run
  owner := "p"
  relationship := lengths

end Timing

/-! Numbers of which one has two spellings. -/

namespace Signs

def afters : Relationship := ⟨"afters", .toMany, "number", true, .joinTable "pair" "low" "high"⟩

def befores : Relationship := ⟨"befores", .toMany, "number", true, .joinTable "pair" "high" "low"⟩

def number : EntityType := ⟨"number", none, ⟨"id", .decimal, false⟩, [], [afters, befores], []⟩

def schema : Schema := ⟨[number]⟩

theorem orderly : schema.Orderly :=
  orderly_of_decided [number] rfl (by decide +kernel)

def scene : Scene where
  schema := schema
  tables :=
    let zero : Cell := .decimal (.signed false 0)
    let negative : Cell := .decimal (.signed true 0)
    ⟨[⟨"number", [⟨"id", .decimal⟩], [[0]], [[zero]], 1⟩,
      ⟨"pair", [⟨"low", .decimal⟩, ⟨"high", .decimal⟩], [[0, 1]], [[zero, negative]], 1⟩]⟩
  reachable := Client.reachable_of_done
    [Client.create "number" [("id", .string "0")],
      Client.relink .post "number" "-0" "befores" (.array [Client.identifier "number" "0"])]
    (by decide +kernel)
  unique := by decide +kernel
  request := Client.change "number" "-0" [Client.relinked
    [("afters", .array [Client.identifier "number" "0"]), ("befores", .array [])]]
  type := number
  owner := "0"
  relationship := befores

end Signs

theorem updates_sent_again_differ :
    (Folders.scene.schema.Separate ∧ Folders.scene.schema.KeyTypesAgree ∧
      Folders.scene.sentTwice = [(204, .ok ["b"]), (400, .ok ["b"])]) ∧
    (Diary.scene.schema.Separate ∧ Diary.scene.sentTwice = [(204, .ok []), (204, .ok ["2020-01-01"])]) ∧
    (Lodging.scene.schema.Orderly ∧ (∀ type ∈ Lodging.scene.schema.types, type.identity.type = .string) ∧
      Lodging.scene.sentTwice = [(204, .ok ["p"]), (400, .ok ["p"])]) ∧
    (Tagging.scene.schema.Orderly ∧ (∀ type ∈ Tagging.scene.schema.types, type.identity.type = .string) ∧
      Tagging.scene.sentTwice = [(204, .ok []), (204, .ok ["a", "p"])]) ∧
    (Timing.scene.schema.Orderly ∧ Timing.scene.sentTwice =
      [(204, .ok ["4400000000.000015", "4400000000.000016"]), (204, .ok ["4400000000.000015"])]) ∧
    (Signs.scene.schema.Orderly ∧ Signs.scene.sentTwice = [(204, .ok []), (204, .ok ["0"])]) :=
  ⟨⟨Folders.separate, by decide +kernel⟩, ⟨Diary.separate, by decide +kernel⟩, ⟨Lodging.orderly, by decide +kernel⟩,
    ⟨Tagging.orderly, by decide +kernel⟩, ⟨Timing.orderly, by decide +kernel⟩, Signs.orderly, by decide +kernel⟩

end ResourceServer
