import ResourceServer.Proofs.Filtering
import ResourceServer.Proofs.Numerals
import ResourceServer.Proofs.Respelling

/-! Requests on one resource that write its identity in two ways. -/

namespace ResourceServer

open ResourceServer.Store ResourceServer.Mapping ResourceServer.Api

/-- Two contexts that tell of the same task, whatever the identity is written like. -/
structure Api.Context.SameTask (context other : Context) : Prop where
  operation : context.operation = other.operation
  type : context.type = other.type
  relationship : context.relationship = other.relationship
  wasDeleted : context.wasDeleted = other.wasDeleted

/-- Processors that do not look at how an identity is written, nor at the request itself. -/
structure Api.ResourceConfig.Indifferent (config : ResourceConfig) : Prop where
  before : ∀ entry ∈ config.preprocessors, ∀ context other : Context, context.SameTask other →
    entry.2 context = entry.2 other
  after : ∀ entry ∈ config.postprocessors, ∀ context other : Context, context.SameTask other →
    ∀ document document' : Document, document.data = document'.data →
      (entry.2 context document).data = (entry.2 other document').data

/-- Resource objects that differ in their identities only: both name the one that is asked for, or neither
does. -/
structure Json.Respelled (id id' : String) (data data' : Json) : Prop where
  members : ∀ name, name ≠ "id" → data.get? name = data'.get? name
  identity : ((data.get? "id").bind Identifier.idText?).map (fun text => decide (text = id)) =
    ((data'.get? "id").bind Identifier.idText?).map (fun text => decide (text = id'))

/-- The routes of two requests that differ in how an identity is written, with bodies that follow it. -/
inductive Respelled (type : EntityType) (first second : Request) : Route → Route → Prop
  | resource {id id' : String} {value : Value} (read : type.readId? id = some value)
      (read' : type.readId? id' = some value)
      (bodies : first.verb = .patch →
        Matches (Json.Respelled id id') (requestData first) (requestData second)) :
      Respelled type first second (.resource id) (.resource id')
  | related {id id' name : String} {value : Value} (read : type.readId? id = some value)
      (read' : type.readId? id' = some value) :
      Respelled type first second (.related id name) (.related id' name)
  | relationship {id id' name : String} {value : Value} (read : type.readId? id = some value)
      (read' : type.readId? id' = some value) (bodies : requestData first = requestData second) :
      Respelled type first second (.relationship id name) (.relationship id' name)

/-- The identity in a route, if there is one, is not written as that of a resource. -/
def Api.Route.Unwritten (type : EntityType) : Route → Prop
  | .collection => True
  | .resource text | .related text _ | .relationship text _ => type.Unwritten text

/-- A request looks links up under the very text of an identity: to show them, to replace them or to remove
them. -/
def LooksUpLinks (endpoint : Endpoint) (request : Request) : Route → Prop
  | .collection => False
  | .resource id => request.verb = .patch ∧ endpoint.config.allowReplacement = true ∧
    ∃ values linkages relationship targets,
      readChange endpoint request id = .ok (values, linkages) ∧
        (relationship, Linkage.toMany targets) ∈ linkages
  | .related _ _ => request.verb = .get
  | .relationship _ name => request.verb = .get ∨
    ∃ relationship, endpoint.type.relationship? name = some relationship ∧
      relationship.isToMany = true ∧
        (request.verb = .patch ∧ endpoint.config.allowReplacement = true ∨
          request.verb = .delete ∧ endpoint.config.allowRemoval = true)

/-- Two responses of one status with the same primary data. -/
structure Api.Response.SameAnswer (response other : Response) : Prop where
  status : response.status = other.status
  data : response.body.map Document.data = other.body.map Document.data

section

variable {endpoint : Endpoint} (indifferent : endpoint.config.Indifferent)
  {context context' : Context} (task : context.SameTask context')
include indifferent task

theorem preprocess_alike (operation : Operation) :
    Alike Handling.connection Eq (Handler.preprocess context (endpoint.config.before operation))
      (Handler.preprocess context' (endpoint.config.before operation)) := by
  have agree : ∀ processor ∈ endpoint.config.before operation,
      processor context = processor context' := by
    intro processor member
    obtain ⟨entry, inside, chosen⟩ := List.mem_filterMap.mp member
    split at chosen
    · cases chosen
      exact indifferent.before entry inside context context' task
    · cases chosen
  generalize endpoint.config.before operation = processors at agree ⊢
  induction processors with
  | nil => exact alike_pure rfl
  | cons processor rest ih =>
      unfold Handler.preprocess
      rw [agree processor List.mem_cons_self]
      refine alike_bind (alike_note ..) fun _ _ _ => ?_
      split
      · exact ih fun other member => agree other (List.mem_cons_of_mem _ member)
      · exact alike_throw rfl

theorem postprocess_alike (operation : Operation) {document document' : Document}
    (same : document.data = document'.data) :
    Alike Handling.connection (fun document document' : Document => document.data = document'.data)
      (Handler.postprocess context document (endpoint.config.after operation))
      (Handler.postprocess context' document' (endpoint.config.after operation)) := by
  have agree : ∀ processor ∈ endpoint.config.after operation, ∀ document document' : Document,
      document.data = document'.data →
        (processor context document).data = (processor context' document').data := by
    intro processor member
    obtain ⟨entry, inside, chosen⟩ := List.mem_filterMap.mp member
    split at chosen
    · cases chosen
      exact indifferent.after entry inside context context' task
    · cases chosen
  generalize endpoint.config.after operation = processors at agree ⊢
  induction processors generalizing document document' with
  | nil => exact alike_pure same
  | cons processor rest ih =>
      exact alike_bind (alike_note ..) fun _ _ _ =>
        ih (agree processor List.mem_cons_self _ _ same)
          fun other member => agree other (List.mem_cons_of_mem _ member)

omit indifferent task in
theorem postprocessEmpty_alike (processors : List Postprocessor) :
    Alike Handling.connection Eq (Handler.postprocessEmpty context processors)
      (Handler.postprocessEmpty context' processors) := by
  unfold Handler.postprocessEmpty
  induction processors with
  | nil => exact alike_pure rfl
  | cons processor rest ih => exact alike_bind (alike_note ..) fun _ _ _ => ih

theorem answerDocument_alike {document document' : Handler Document}
    (same : Alike Handling.connection
      (fun document document' : Document => document.data = document'.data) document document') :
    Alike Handling.connection Response.SameAnswer (answerDocument endpoint context document)
      (answerDocument endpoint context' document') := by
  unfold answerDocument
  rw [← task.operation]
  exact alike_bind (preprocess_alike indifferent task _) fun _ _ _ =>
    alike_bind same fun _ _ same =>
    alike_bind (postprocess_alike indifferent task _ same) fun _ _ same =>
    alike_pure ⟨rfl, congrArg some same⟩

theorem carryOut_alike {action action' : SourceAction (Option Bool)}
    (same : Alike id Eq action action') :
    Alike Handling.connection Response.SameAnswer (carryOut endpoint context action)
      (carryOut endpoint context' action') := by
  unfold carryOut
  rw [← task.operation]
  exact alike_bind (alike_transactionally (alike_bind (preprocess_alike indifferent task _)
    fun _ _ _ => alike_bind (alike_source same) fun _ _ _ => postprocessEmpty_alike _))
    fun _ _ _ => alike_pure ⟨rfl, rfl⟩

end

theorem parametersOf_respelled {first second : Request}
    (query : first.url.query = second.url.query) : parametersOf first = parametersOf second := by
  unfold parametersOf
  rw [query]

theorem readChange_respelled (endpoint : Endpoint) {text text' : String} {first second : Request}
    (bodies : Matches (Json.Respelled text text') (requestData first) (requestData second)) :
    Matches Eq (readChange endpoint first text) (readChange endpoint second text') := by
  unfold readChange
  refine bodies.bind fun data data' same => ?_
  have checked : checkType endpoint.type data = checkType endpoint.type data' := by
    unfold checkType
    rw [same.members "type" (by decide)]
  have identified : Matches Eq (checkId text data) (checkId text' data') := by
    have identity := same.identity
    unfold checkId
    generalize (data.get? "id").bind Identifier.idText? = one at identity ⊢
    generalize (data'.get? "id").bind Identifier.idText? = two at identity ⊢
    cases one <;> cases two
    · exact .error rfl
    · cases identity
    · cases identity
    · rename_i one two
      have both : one = text ↔ two = text' := by simpa using identity
      by_cases named : one = text
      · simp only [if_pos named, if_pos (both.mp named)]
        exact .ok rfl
      · simp only [if_neg named, if_neg (both.not.mp named)]
        exact .error rfl
  have attributes : readAttributes endpoint.type data = readAttributes endpoint.type data' := by
    unfold readAttributes innerMembers
    rw [same.members "attributes" (by decide)]
  have relationships : readRelationships endpoint.type data =
      readRelationships endpoint.type data' := by
    unfold readRelationships innerMembers
    rw [same.members "relationships" (by decide)]
  rw [checked, attributes, relationships]
  exact (Matches.refl _).bind fun _ _ _ => identified.bind fun _ _ _ => .refl _

theorem ofJson_toMany {relationship : Relationship} {json : Json} {targets : List Identifier}
    (given : Linkage.ofJson relationship json = .ok (.toMany targets)) :
    relationship.isToMany = true := by
  unfold Linkage.ofJson at given
  split at given
  · cases given
  · obtain ⟨_, _, equal⟩ := map_ok given
    cases equal
  · assumption
  · cases given
  · cases given

theorem linkOperation_replaces {verb : Verb} (replacing : linkOperation verb = .replaceLinks) :
    verb = .patch := by
  cases verb with
  | patch => rfl
  | get => cases replacing
  | post => cases replacing
  | delete => cases replacing

theorem linkOperation_removes {verb : Verb} (writing : verb ≠ .get)
    (adding : linkOperation verb ≠ .addLinks) (replacing : linkOperation verb ≠ .replaceLinks) :
    verb = .delete := by
  cases verb with
  | get => exact absurd rfl writing
  | post => exact absurd rfl adding
  | patch => exact absurd rfl replacing
  | delete => rfl

theorem removal_toMany {relationship : Relationship} {verified : Unit}
    (checked : checkLinkOperation .removeLinks relationship = .ok verified) :
    relationship.isToMany = true := by
  unfold checkLinkOperation at checked
  split at checked
  · assumption
  · cases checked

section

variable {api : Api} {endpoint : Endpoint} (indifferent : endpoint.config.Indifferent)
  {first second : Request} {text text' : String} {value : Value}
  (read : endpoint.type.readId? text = some value)
  (read' : endpoint.type.readId? text' = some value)
include indifferent read read'

theorem getResource_respelled (query : first.url.query = second.url.query) :
    Alike Handling.connection Response.SameAnswer (getResource api endpoint first text)
      (getResource api endpoint second text') := by
  unfold getResource
  rw [parametersOf_respelled query]
  refine answerDocument_alike indifferent ?_ ?_
  · exact ⟨rfl, rfl, rfl, rfl⟩
  refine alike_given fun parameters _ => alike_source ?_
  unfold resourceDocument
  refine alike_bind (requireResource_respelled read read') fun resource _ equal => ?_
  cases equal
  exact alike_after _ fun _ => assemble_alike ..

theorem getRelated_respelled (query : first.url.query = second.url.query)
    (relationship : Relationship) (unwritten : endpoint.type.Unwritten text)
    (unwritten' : endpoint.type.Unwritten text') :
    Alike Handling.connection Response.SameAnswer
      (getRelated api endpoint first text relationship)
      (getRelated api endpoint second text' relationship) := by
  unfold getRelated
  rw [parametersOf_respelled query]
  refine answerDocument_alike indifferent ?_ ?_
  · exact ⟨rfl, rfl, rfl, rfl⟩
  refine alike_given fun parameters _ => alike_source ?_
  unfold relatedDocument
  split
  · exact alike_throw rfl
  refine alike_bind (requireResource_respelled read read') fun _ _ _ => ?_
  refine alike_bind (loadTargets_respelled read read' relationship unwritten unwritten')
    fun related _ equal => ?_
  cases equal
  exact alike_after _ fun _ => alike_after _ fun _ => assemble_alike ..

theorem getRelationship_respelled (relationship : Relationship)
    (unwritten : endpoint.type.Unwritten text) (unwritten' : endpoint.type.Unwritten text') :
    Alike Handling.connection Response.SameAnswer
      (getRelationship api endpoint first text relationship)
      (getRelationship api endpoint second text' relationship) := by
  unfold getRelationship
  refine answerDocument_alike indifferent ?_ (alike_source ?_)
  · exact ⟨rfl, rfl, rfl, rfl⟩
  unfold relationshipDocument
  refine alike_bind (requireResource_respelled read read') fun _ _ _ => ?_
  refine alike_bind (loadTargets_respelled read read' relationship unwritten unwritten')
    fun related _ equal => ?_
  cases equal
  exact alike_pure rfl

theorem updateResource_respelled
    (bodies : Matches (Json.Respelled text text') (requestData first) (requestData second))
    (looked : endpoint.config.allowReplacement = true → ∀ values linkages,
      readChange endpoint first text = .ok (values, linkages) → ∀ relationship targets,
        (relationship, Linkage.toMany targets) ∈ linkages →
          endpoint.type.Unwritten text ∧ endpoint.type.Unwritten text') :
    Alike Handling.connection Response.SameAnswer (updateResource api endpoint first text)
      (updateResource api endpoint second text') := by
  unfold updateResource
  have changes := readChange_respelled endpoint bodies
  rcases outcome : readChange endpoint first text with failure | ⟨values, linkages⟩ <;>
    rcases outcome' : readChange endpoint second text' with failure' | change' <;>
    rw [outcome, outcome'] at changes
  · cases changes with
    | error status => exact alike_throw status
  · cases changes
  · cases changes
  · cases changes with
    | ok equal =>
        cases equal
        refine carryOut_alike indifferent ?_ ?_
        · exact ⟨rfl, rfl, rfl, rfl⟩
        · exact alike_bind (changeResource_respelled read read' api rfl values
            fun granted => looked granted values linkages outcome) fun _ _ _ => alike_pure rfl

theorem deleteResource_respelled :
    Alike Handling.connection Response.SameAnswer (deleteResource api endpoint first text)
      (deleteResource api endpoint second text') := by
  unfold deleteResource
  refine carryOut_alike indifferent ?_ ?_
  · exact ⟨rfl, rfl, rfl, rfl⟩
  · rw [delete_respelled read read']
    refine alike_after _ fun _ => alike_guard ?_ fun _ => alike_itself _
    rfl

theorem updateLinks_respelled {relationship : Relationship} (verbs : first.verb = second.verb)
    (bodies : requestData first = requestData second) (writing : first.verb ≠ .get)
    (looked : relationship.isToMany = true →
      (first.verb = .patch ∧ endpoint.config.allowReplacement = true ∨
        first.verb = .delete ∧ endpoint.config.allowRemoval = true) →
      endpoint.type.Unwritten text ∧ endpoint.type.Unwritten text') :
    Alike Handling.connection Response.SameAnswer
      (updateLinks api endpoint first text relationship)
      (updateLinks api endpoint second text' relationship) := by
  unfold updateLinks
  rw [← verbs, ← bodies]
  refine alike_given fun _ checked => alike_given fun data _ => alike_given fun linkage given => ?_
  refine carryOut_alike indifferent ?_ ?_
  · exact ⟨rfl, rfl, rfl, rfl⟩
  refine changeLinks_respelled read read' api rfl relationship ?_ ?_
  · rintro replacing granted targets rfl
    exact looked (ofJson_toMany given) (.inl ⟨linkOperation_replaces replacing, granted⟩)
  · intro adding replacing granted
    have deleting := linkOperation_removes writing adding replacing
    rw [deleting] at checked
    exact looked (removal_toMany checked) (.inr ⟨deleting, granted⟩)

end

theorem requestedRelationship_ok {type : EntityType} {name : String} {relationship : Relationship}
    (found : Api.findRelationship type name = .ok relationship) :
    type.relationship? name = some relationship := by
  unfold Api.findRelationship at found
  split at found
  · rename_i known
    cases found
    exact known
  · cases found

theorem carryOutRoute_respelled {api : Api} {now : Calendar.Timestamp} {first second : Request}
    {endpoint : Endpoint} {route route' : Route} (verbs : first.verb = second.verb)
    (query : first.url.query = second.url.query)
    (respelled : Respelled endpoint.type first second route route')
    (indifferent : endpoint.config.Indifferent)
    (looked : LooksUpLinks endpoint first route →
      route.Unwritten endpoint.type ∧ route'.Unwritten endpoint.type) :
    Alike Handling.connection Response.SameAnswer
      (carryOutRoute api now endpoint first route first.verb)
      (carryOutRoute api now endpoint second route' first.verb) := by
  have refused (method path path' : String) : Alike Handling.connection Response.SameAnswer
      (throw (.methodNotAllowed method path) : Handler Response)
      (throw (.methodNotAllowed method path')) :=
    alike_throw rfl
  cases respelled with
  | resource read read' bodies =>
      cases verb : first.verb with
      | get => exact getResource_respelled indifferent read read' query
      | post => exact refused ..
      | patch =>
          refine updateResource_respelled indifferent read read' (bodies verb) ?_
          intro granted values linkages change relationship targets member
          exact looked ⟨verb, granted, values, linkages, relationship, targets, change, member⟩
      | delete => exact deleteResource_respelled indifferent read read'
  | related read read' =>
      cases verb : first.verb with
      | get =>
          have ⟨unwritten, unwritten'⟩ := looked verb
          exact alike_given fun relationship _ =>
            getRelated_respelled indifferent read read' query relationship unwritten unwritten'
      | post => exact refused ..
      | patch => exact refused ..
      | delete => exact refused ..
  | @relationship text text' name value read read' bodies =>
      have linked (writing : first.verb ≠ .get) : Alike Handling.connection Response.SameAnswer
          (Handler.ofExcept (Api.findRelationship endpoint.type name) >>=
            updateLinks api endpoint first text)
          (Handler.ofExcept (Api.findRelationship endpoint.type name) >>=
            updateLinks api endpoint second text') :=
        alike_given fun relationship found =>
          updateLinks_respelled indifferent read read' verbs bodies writing fun many granted =>
            looked (.inr ⟨relationship, requestedRelationship_ok found, many, granted⟩)
      cases verb : first.verb with
      | get =>
          have ⟨unwritten, unwritten'⟩ := looked (.inl verb)
          exact alike_given fun relationship _ =>
            getRelationship_respelled indifferent read read' relationship unwritten unwritten'
      | post => exact linked (by rw [verb]; nofun)
      | patch => exact linked (by rw [verb]; nofun)
      | delete => exact linked (by rw [verb]; nofun)

/-- Requests on one resource are answered alike whatever way its identity is written in, and leave the same
tables, unless they look up links under that text. Those that do are answered alike where both texts differ
from the one in which identities are written. -/
theorem respelled_requests_alike {api : Api} {now : Calendar.Timestamp} {first second : Request}
    {endpoint : Endpoint} {route route' : Route}
    (routed : api.route first.url.path = .ok (endpoint, route))
    (routed' : api.route second.url.path = .ok (endpoint, route'))
    (verbs : first.verb = second.verb) (query : first.url.query = second.url.query)
    (respelled : Respelled endpoint.type first second route route')
    (indifferent : endpoint.config.Indifferent)
    (looked : LooksUpLinks endpoint first route →
      route.Unwritten endpoint.type ∧ route'.Unwritten endpoint.type)
    (database : Database) :
    (handle api now first database).response.SameAnswer (handle api now second database).response ∧
      (handle api now first database).database = (handle api now second database).database := by
  have carried : Alike Handling.connection Response.SameAnswer
      (carryOutRoute api now endpoint first route first.verb)
      (carryOutRoute api now endpoint second route' first.verb) :=
    carryOutRoute_respelled verbs query respelled indifferent looked
  have dispatched : Alike Handling.connection Response.SameAnswer (dispatch api now first)
      (dispatch api now second) := by
    unfold dispatch
    dsimp only
    rw [routed, routed', ← verbs]
    unfold Handler.ofExcept
    dsimp only
    rw [pure_bind, pure_bind]
    refine alike_guard ?_ fun _ => ?_
    · rfl
    · exact carried
  let begun : Handling := ⟨⟨database, none, []⟩, []⟩
  have ⟨answers, ends⟩ := dispatched.sound (rfl : begun.connection = begun.connection)
  refine ⟨?_, congrArg Connection.database ends⟩
  rw [handle_response, handle_response]
  unfold begun at answers
  generalize (execute (dispatch api now first) _).1 = result at answers ⊢
  generalize (execute (dispatch api now second) _).1 = result' at answers ⊢
  cases answers with
  | ok same => exact same
  | error status => exact ⟨status, rfl⟩

theorem unwritten_integer {type : EntityType} (kind : type.identity.type = .integer) {text : String}
    {number : Int} (read : Number.readInteger? text = some number) (other : toString number ≠ text) :
    type.Unwritten text := by
  intro cell value valued written
  rw [kind] at valued
  cases cell with
  | null =>
      cases valued
      rw [← written] at read
      cases read
  | integer stored =>
      cases valued
      have reread := Number.readInteger_toString stored
      have same : toString stored = text := written
      rw [same, read] at reread
      split at reread
      · cases reread
        exact other same
      · cases reread
  | _ => cases valued

/-! Posts with whole numbers as identities, and tags. -/

namespace Posts

def tag : EntityType :=
  ⟨"tag", none, ⟨"id", .string, false⟩, [], [], []⟩

def post : EntityType :=
  ⟨"post", none, ⟨"id", .integer, false⟩, [],
    [⟨"tags", .toMany, "tag", true, .joinTable "post_tag" "post_id" "tag_id"⟩], []⟩

def schema : Schema := ⟨[post, tag]⟩

def settings : ResourceConfig :=
  { allowReplacement := true, allowRemoval := true, allowClientIds := true }

def api : Api :=
  { Api.ofSchema schema {} with resources := [("post", settings), ("tag", settings)] }

def onTags (verb : Verb) (id : String) : Request :=
  ⟨verb, Client.url ("/api/post/" ++ id ++ "/relationships/tags"),
    some (.object [("data", .array [Client.identifier "tag" "red"])])⟩

@[irreducible]
def tagged : Database :=
  afterRequests api Client.now
    [Client.create "tag" [("id", .string "red")],
      Client.create "post" [("id", .string "1"),
        Client.linked "tags" (.array [Client.identifier "tag" "red"])]]

theorem routed {path : String} {segments : List String} {route : Route}
    (below : segmentsBelow? (collectionPath api.config "post" settings) path = some segments)
    (formed : routeOf? segments = some route) :
    api.route path = .ok (⟨post, settings⟩, route) := by
  have found : routeAmong api.schema api.config path api.resources =
      some (⟨post, settings⟩, route) := by
    have known : api.schema.type? "post" = some post := rfl
    unfold routeAmong
    rw [show api.resources = [("post", settings), ("tag", settings)] from rfl]
    dsimp only
    rw [known, below]
    dsimp only
    rw [formed]
    rfl
  unfold Api.route
  rw [found]

theorem indifferent : settings.Indifferent :=
  ⟨nofun, nofun⟩

theorem below_tags (verb : Verb) : ∀ id ∈ ["1", "01", "+1"],
    segmentsBelow? (collectionPath api.config "post" settings) (onTags verb id).url.path =
      some [id, "relationships", "tags"] := by
  cases verb <;> decide

theorem read_one : ∀ id ∈ ["1", "01", "+1"], post.readId? id = some (.integer 1) := by
  decide

theorem routed_tags (verb : Verb) (id : String) (listed : id ∈ ["1", "01", "+1"]) :
    api.route (onTags verb id).url.path = .ok (⟨post, settings⟩, .relationship id "tags") :=
  routed (below_tags verb id listed) rfl

theorem respelled (verb : Verb) (id id' : String) (listed : id ∈ ["1", "01", "+1"])
    (listed' : id' ∈ ["1", "01", "+1"]) :
    Respelled post (onTags verb id) (onTags verb id') (.relationship id "tags")
      (.relationship id' "tags") :=
  .relationship (read_one id listed) (read_one id' listed') rfl

theorem unwritten_zero : post.Unwritten "01" :=
  unwritten_integer rfl (show Number.readInteger? "01" = some 1 by decide) (by decide)

theorem unwritten_plus : post.Unwritten "+1" :=
  unwritten_integer rfl (show Number.readInteger? "+1" = some 1 by decide) (by decide)

theorem left_of_links :
    ((handle api Client.now (onTags .delete "1") tagged).database.records "post_tag").length = 0 ∧
      ((handle api Client.now (onTags .delete "01") tagged).database.records "post_tag").length =
        1 := by
  decide +kernel

end Posts

theorem zero_and_plus_alike :
    Posts.api.route (Posts.onTags .delete "01").url.path =
        .ok (⟨Posts.post, Posts.settings⟩, .relationship "01" "tags") ∧
      Posts.api.route (Posts.onTags .delete "+1").url.path =
        .ok (⟨Posts.post, Posts.settings⟩, .relationship "+1" "tags") ∧
      Respelled Posts.post (Posts.onTags .delete "01") (Posts.onTags .delete "+1")
        (.relationship "01" "tags") (.relationship "+1" "tags") ∧
      Posts.settings.Indifferent ∧ Posts.post.Unwritten "01" ∧ Posts.post.Unwritten "+1" ∧
      (handle Posts.api Client.now (Posts.onTags .delete "01") Posts.tagged).response.SameAnswer
        (handle Posts.api Client.now (Posts.onTags .delete "+1") Posts.tagged).response ∧
      (handle Posts.api Client.now (Posts.onTags .delete "01") Posts.tagged).database =
        (handle Posts.api Client.now (Posts.onTags .delete "+1") Posts.tagged).database := by
  have first := Posts.routed_tags .delete "01" (by decide)
  have second := Posts.routed_tags .delete "+1" (by decide)
  have pair := Posts.respelled .delete "01" "+1" (by decide) (by decide)
  exact ⟨first, second, pair, Posts.indifferent, Posts.unwritten_zero, Posts.unwritten_plus,
    respelled_requests_alike first second rfl rfl pair Posts.indifferent
      (fun _ => ⟨Posts.unwritten_zero, Posts.unwritten_plus⟩) Posts.tagged⟩

/-- A removal finds no links under a text that is not the written one. -/
theorem removal_depends_on_spelling :
    Posts.api.route (Posts.onTags .delete "1").url.path =
        .ok (⟨Posts.post, Posts.settings⟩, .relationship "1" "tags") ∧
      Posts.api.route (Posts.onTags .delete "01").url.path =
        .ok (⟨Posts.post, Posts.settings⟩, .relationship "01" "tags") ∧
      Respelled Posts.post (Posts.onTags .delete "1") (Posts.onTags .delete "01")
        (.relationship "1" "tags") (.relationship "01" "tags") ∧
      Posts.settings.Indifferent ∧
      (handle Posts.api Client.now (Posts.onTags .delete "1") Posts.tagged).database ≠
        (handle Posts.api Client.now (Posts.onTags .delete "01") Posts.tagged).database := by
  refine ⟨Posts.routed_tags .delete "1" (by decide), Posts.routed_tags .delete "01" (by decide),
    Posts.respelled .delete "1" "01" (by decide) (by decide), Posts.indifferent, fun same => ?_⟩
  have ⟨removed, kept⟩ := Posts.left_of_links
  rw [same, kept] at removed
  cases removed

end ResourceServer
