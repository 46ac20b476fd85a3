import ResourceServer.Proofs.CreatedResources
import ResourceServer.Proofs.HiddenAttributes
import ResourceServer.Proofs.PlainHosts
import ResourceServer.Proofs.RouteOrder
import ResourceServer.Proofs.Routes

/-! Locations of created resources, and the links in their documents: they lead back to the resources where all that
they are put together of stands for itself in a path. -/

namespace ResourceServer

open ResourceServer.Store ResourceServer.Mapping ResourceServer.Api ResourceServer.Calendar ResourceServer.Url

namespace Api

def IsOrigin (origin : String) : Prop :=
  origin = "" ∨ ∃ scheme authority, IsSite scheme authority ∧ origin = site scheme authority

/-- The collection of a type is linked to by an origin and a path of plain segments. -/
structure PlainlyAt (config : ApiConfig) (type : String) (settings : ResourceConfig) (origin : String)
    (segments : List String) : Prop where
  begins : IsOrigin origin
  plain : ∀ segment ∈ segments, IsSegment segment
  given : segments ≠ []
  linked : collectionUrl config type settings = origin ++ String.ofList (pathOf segments)

section

variable {schema : Schema} {config : ApiConfig} {api : Api}

theorem Unprocessed.collections (unprocessed : Api.Unprocessed schema config api) :
    api.config = config ∧ api.resources.Ordered ∧ ∀ name settings, api.resources.get? name = some settings →
      api.assembler.collectionUrl name = Text.trimEnd '/' (collectionUrl config name settings) := by
  induction unprocessed with
  | start => exact ⟨rfl, List.Pairwise.nil, nofun⟩
  | @register api next type settings _ _ default done ih =>
      obtain ⟨same, ordered, urls⟩ := ih
      unfold Api.register at done
      dsimp only at done
      split at done
      · cases done
      obtain ⟨visibility, _, done⟩ := bind_ok done
      rw [default] at done
      cases done
      refine ⟨same, Keyed.ordered_put _ _ ordered, fun name given found => ?_⟩
      unfold Keyed.get? at found
      have before := urls name given
      unfold Assembler.collectionUrl Keyed.get? at before ⊢
      unfold Assembler.setVisibility Assembler.setCollectionUrl
      dsimp only
      rw [Keyed.lookup_put] at found ⊢
      split at found
      · rename_i named
        cases found
        rw [if_pos named, named, same]
        rfl
      · rename_i other
        rw [if_neg other]
        exact before found

end

section

variable {config : ApiConfig} {type : String} {settings : ResourceConfig} {origin : String} {segments : List String}
  (plainly : PlainlyAt config type settings origin segments)
include plainly

theorem collectionPath_plain : collectionPath config type settings = String.ofList (pathOf segments) := by
  have ⟨begins, plain, given, linked⟩ := plainly
  unfold collectionPath
  rw [linked]
  dsimp only
  rcases begins with bare | ⟨scheme, authority, settled, based⟩
  · rw [bare, String.empty_append, read_path plain given]
  · rw [based, read_site settled plain given]

theorem resourceUrl_plain {schema : Schema} {api : Api} (unprocessed : api.Unprocessed schema config)
    (registered : (type, settings) ∈ api.resources) (id : String) (rest : List String) :
    api.assembler.resourceUrl type id ++ String.ofList (pathOf rest) =
      origin ++ String.ofList (pathOf (segments ++ id :: rest)) := by
  obtain ⟨_, ordered, urls⟩ := unprocessed.collections
  have collection := urls type settings (ordered.lookup_mem registered)
  rw [plainly.linked, Text.trimEnd_idle (pathOf_ends plainly.plain plainly.given _)] at collection
  rw [pathOf_append, String.ofList_append, ← String.append_assoc, ← collection, append_pathOf]
  rfl

end

def LeadsTo (api : Api) (base : Url) (link : String) (endpoint : Endpoint) (route : Route) : Prop :=
  ∃ url, Url.join base link = .ok url ∧ api.route url.path = .ok (endpoint, route)

theorem join_plain {origin : String} (begins : IsOrigin origin) {base : Url} {authority : Authority}
    (hosted : base.authority = some authority) (settled : IsSite base.scheme authority) :
    ∃ scheme authority, IsSite scheme authority ∧ ∀ segments : List String,
      (∀ segment ∈ segments, IsSegment segment) → segments ≠ [] →
        Url.join base (origin ++ String.ofList (pathOf segments)) =
          .ok ⟨scheme, some authority, String.ofList (pathOf segments), none, none⟩ := by
  rcases begins with bare | ⟨scheme, other, settled', based⟩
  · refine ⟨base.scheme, authority, settled, fun segments plain given => ?_⟩
    have rooted : base.isRootless = false := by
      unfold Url.isRootless
      rw [hosted]
      rfl
    have unfiled : base.scheme ≠ "file" := by
      intro file
      have special := settled.special
      rw [file] at special
      cases special
    rw [bare, String.empty_append, join_path plain given rooted unfiled, hosted]
  · refine ⟨scheme, other, settled', fun segments plain given => ?_⟩
    rw [based, join_site settled' plain given]

/-- The data of a document leads back to the resource: the link to itself leads to the resource, and those of a
relationship, whose name is a segment, to the relationship and to what it relates. -/
structure LeadsBack (api : Api) (base : Url) (endpoint : Endpoint) (id : String) (data : Json) : Prop where
  self : ∃ link, data.get? "links" = some (.object [("self", .string link)]) ∧
    api.LeadsTo base link endpoint (.resource id)
  relationships : ∀ members, data.get? "relationships" = some (.object members) → ∀ member ∈ members,
    IsSegment member.1 → ∃ related self,
      member.2.get? "links" = some (.object [("related", .string related), ("self", .string self)]) ∧
        api.LeadsTo base related endpoint (.related id member.1) ∧
          api.LeadsTo base self endpoint (.relationship id member.1)

section

variable {schema : Schema} {config : ApiConfig} {api : Api} (unprocessed : api.Unprocessed schema config)
  (apart : api.resources.Pairwise fun one other =>
    Apart (collectionPath config one.1 one.2) (collectionPath config other.1 other.2))
  {base : Url} {authority : Authority} (hosted : base.authority = some authority)
  (settled : IsSite base.scheme authority) {path : String} {endpoint : Endpoint} {origin : String}
  {segments : List String} (routed : api.route path = .ok (endpoint, .collection))
  (plainly : PlainlyAt config endpoint.type.name endpoint.config origin segments)
include unprocessed apart routed plainly

theorem route_plain {rest : List String} (each : ∀ segment ∈ rest, IsSegment segment) (given : rest ≠ [])
    {route : Route} (named : routeOf? rest = some route) :
    api.route (String.ofList (pathOf (segments ++ rest))) = .ok (endpoint, route) := by
  obtain ⟨rfl, _⟩ := unprocessed.collections
  rw [pathOf_append, String.ofList_append, ← collectionPath_plain plainly]
  exact (route_below apart routed).2 each given named

include hosted settled

theorem leadsTo_plain {rest : List String} (each : ∀ segment ∈ rest, IsSegment segment) (given : rest ≠ [])
    {route : Route} (named : routeOf? rest = some route) :
    api.LeadsTo base (origin ++ String.ofList (pathOf (segments ++ rest))) endpoint route := by
  obtain ⟨scheme, authority, _, joins⟩ := join_plain plainly.begins hosted settled
  have plain : ∀ segment ∈ segments ++ rest, IsSegment segment := by
    simpa [or_imp, forall_and] using ⟨plainly.plain, each⟩
  refine ⟨_, joins (segments ++ rest) plain (by simp [given]), ?_⟩
  exact route_plain unprocessed apart routed plainly each given named

theorem leadsBack_default {rendered : Rendered} {data : Json} (written : Serializer.default rendered = .ok data)
    (placed : rendered.url = api.assembler.resourceUrl endpoint.type.name rendered.resource.id)
    (whole : rendered.fieldset = none) (own : IsSegment rendered.resource.id) :
    api.LeadsBack base endpoint rendered.resource.id data := by
  obtain ⟨_, _, _, _, _, related, links⟩ := default_members written
  have registered := (route_below (unprocessed.collections.1 ▸ apart) routed).1
  have linked (rest : List String) :
      rendered.url ++ String.ofList (pathOf rest) =
        origin ++ String.ofList (pathOf (segments ++ rendered.resource.id :: rest)) := by
    rw [placed]
    exact resourceUrl_plain plainly unprocessed registered _ rest
  have leads {rest : List String} (each : ∀ segment ∈ rest, IsSegment segment) {route : Route}
      (named : routeOf? (rendered.resource.id :: rest) = some route) :
      api.LeadsTo base (rendered.url ++ String.ofList (pathOf rest)) endpoint route := by
    rw [linked]
    exact leadsTo_plain unprocessed apart hosted settled routed plainly
      (List.forall_mem_cons.mpr ⟨own, each⟩) (List.cons_ne_nil _ _) named
  refine ⟨⟨rendered.url, ?_, ?_⟩, fun members shown member inside segment => ?_⟩
  · rw [links, whole]
    rfl
  · have itself := leads (List.forall_mem_nil _) rfl
    rwa [pathOf, List.flatMap_nil, String.ofList_nil, String.append_empty] at itself
  · rw [related] at shown
    split at shown
    · cases shown
    obtain rfl := Json.object.inj (Option.some.inj shown)
    obtain ⟨entry, _, rfl⟩ := List.mem_map.mp (Keyed.mem_ofList inside)
    have about := leads (List.forall_mem_singleton.mpr segment) rfl
    have between : IsSegment "relationships" := by decide
    have itself := leads (List.forall_mem_cons.mpr ⟨between, List.forall_mem_singleton.mpr segment⟩) rfl
    rw [append_pathOf, pathOf, List.flatMap_nil, String.ofList_nil, String.append_empty] at about
    rw [append_pathOf, append_pathOf, pathOf, List.flatMap_nil, String.ofList_nil, String.append_empty] at itself
    have between : rendered.url ++ "/" ++ "relationships" ++ "/" = rendered.url ++ "/relationships/" := by
      rw [String.append_assoc, String.append_assoc]
      rfl
    rw [between] at itself
    exact ⟨_, _, rfl, about, itself⟩

end

end Api

section

variable {schema : Schema} {assembler : Assembler} (default : ∀ name, assembler.serializer name = Serializer.default)
  {type : EntityType} {database : Database}
include default

theorem assembled_default (formed : schema.Formed) (known : type ∈ schema.types) {record : Record}
    {resource : Instance} (read : readRecord type record = .ok resource) {url : Url} {document : Document}
    (run : Runs database (assembler.assemble schema (.single (some resource)) none none url []) document) :
    ∃ relationships data, document.data = some data ∧
      Serializer.default (assembler.rendered [] type resource relationships) = .ok data := by
  obtain ⟨loaded, data, _, rendered, shown⟩ := Assembler.runs_assembled_one run
  obtain ⟨type', found, relationships, written⟩ := Assembler.renderOne_ok rendered
  rw [readRecord_type read] at found
  cases found.symm.trans (find_unique EntityType.name formed.names known)
  exact ⟨relationships, data, shown, default type.name ▸ written⟩

end

/-- What the resources of a type come with by default is found, and can be presented. -/
def PresentsBesides (api : Api) (endpoint : Endpoint) (database : Database) : Prop :=
  ∀ resource, IsResource api.schema database resource → resource.type = endpoint.type.name →
    Delivers database (includeFor api.schema endpoint.type endpoint.config {} [resource]) fun included =>
      ∀ other ∈ included.getD [], Assembler.Presents api.schema database api.assembler [] other

theorem presentsBesides_none {api : Api} {endpoint : Endpoint} (alone : endpoint.config.includes = [])
    (database : Database) : PresentsBesides api endpoint database := by
  intro resource _ _
  unfold includeFor
  rw [alone]
  exact delivers_pure nofun

theorem found_again {api : Api} (separate : api.schema.Separate)
    (default : ∀ name, api.assembler.serializer name = Serializer.default) {endpoint : Endpoint}
    (plain : endpoint.config.Plain) (known : endpoint.type ∈ api.schema.types) (keyed : endpoint.type.KeyedById)
    (allowed : endpoint.config.allows .get = true) {database : Database}
    (reachable : Reachable api (fun _ => True) database) (besides : PresentsBesides api endpoint database)
    {record : Record} (member : record ∈ database.records (tableName endpoint.type)) {resource : Instance}
    (read : readRecord endpoint.type record = .ok resource) {url : Url} {document : Document}
    (run : Runs database (api.assembler.assemble api.schema (.single (some resource)) none none url []) document)
    (routed : api.route url.path = .ok (endpoint, .resource resource.id)) (bare : url.query = none)
    (now : Timestamp) : ∃ others,
      (handle api now ⟨.get, url, none⟩ database).response = .ofDocument 200 { document with included := others } := by
  have ⟨formed, tables, columns, keys⟩ := separate.apart
  obtain ⟨laid, kept⟩ := reachable_invariant (kept_invariant formed tables columns keys.fit) False.elim
    (fun _ done => vacant_kept done) reachable
  have stored := reachable_fields_stored formed tables columns keys reachable
  have accessible : Accessible api.schema database :=
    ⟨formed, columns, separate.reserved, kept.housed.shaped separate⟩
  have ⟨fields, identified⟩ := rowStores_iff.mp (stored.record known member)
  have gives : Delivers database (resourceDocument api endpoint ⟨.get, url, none⟩ resource.id {})
      fun found => ∃ others, found = { document with included := others } := by
    unfold resourceDocument
    refine (delivers_requireResource kept laid tables columns known keyed (separate.exact _ known) member
      (fields endpoint.type.identity List.mem_cons_self) identified read).bind fun found same => ?_
    subst same
    refine (besides found ⟨_, known, record, member, read⟩ (readRecord_type read)).bind fun included presents => ?_
    exact delivers_assembled accessible separate.apart default run presents
  have asked : Parameters.read (url.query.getD "") = .ok {} := by
    rw [bare]
    rfl
  obtain ⟨_, ⟨others, rfl⟩, answered⟩ := delivered_resource plain routed allowed asked gives
  exact ⟨others, answered⟩

/-- Where no collection is found below another, and that of a type is linked to by segments that stand for themselves,
a request that is answered with a location has created a resource. If the identity of the resource stands for itself as
well, the location is read as a URL at which the resource is found again with the same data, and the links in its
document lead back to it and to its relationships. -/
theorem created_resource_is_found {schema : Schema} {config : ApiConfig} {api : Api}
    (unprocessed : api.Unprocessed schema config) (separate : schema.Separate)
    (apart : api.resources.Pairwise fun one other =>
      Apart (collectionPath config one.1 one.2) (collectionPath config other.1 other.2))
    {endpoint : Endpoint} {origin : String} {segments : List String}
    (plainly : PlainlyAt config endpoint.type.name endpoint.config origin segments)
    (keyed : endpoint.type.KeyedById) (allowed : endpoint.config.allows .get = true) {database : Database}
    (reachable : Reachable api (fun _ => True) database) {request : Request} {authority : Authority}
    (hosted : request.url.authority = some authority) (settled : IsSite request.url.scheme authority)
    (routed : api.route request.url.path = .ok (endpoint, .collection)) (posting : request.verb = .post)
    (now later : Timestamp) {location : String}
    (told : (handle api now request database).response.header? "Location" = some location)
    (besides : PresentsBesides api endpoint (handle api now request database).database) :
    let answer := handle api now request database
    answer.response.status = 201 ∧ ∃ document data id, answer.response.body = some document ∧
      document.data = some data ∧ data.get? "type" = some (.string endpoint.type.name) ∧
      data.get? "id" = some (.string id) ∧
      (IsSegment id → api.LeadsBack request.url endpoint id data ∧ ∃ url, Url.read location = .ok url ∧
        ∃ others, (handle api later ⟨.get, url, none⟩ answer.database).response =
          .ofDocument 200 { document with included := others }) := by
  obtain ⟨rfl, _, plains, _⟩ := unprocessed.settled
  have known := route_known routed
  have registered := (route_below (unprocessed.collections.1 ▸ apart) routed).1
  have plain : endpoint.config.Plain := plains _ registered
  have ⟨formed, tables, columns, keys⟩ := separate.apart
  obtain ⟨values, linkages, id, url, document, after, given, stores, rfl, status, body, reached⟩ :=
    created_answer routed posting plain told
  have laid := (reachable_invariant (kept_invariant formed tables columns keys.fit) False.elim
    (fun _ done => vacant_kept done) reachable).1
  obtain ⟨record, member, resource, read, rfl, located, run⟩ := storeResource_shows formed tables columns keys known
    given laid (reachable_fields_stored formed tables columns keys reachable) stores
  obtain ⟨relationships, data, shown, written⟩ := assembled_default unprocessed.serializer formed known read run
  obtain ⟨_, _, identity, type, _⟩ := default_members written
  refine ⟨status, document, data, resource.id, body, shown, type, identity, fun segment => ⟨?_, ?_⟩⟩
  · exact leadsBack_default unprocessed apart hosted settled routed plainly written rfl rfl segment
  obtain ⟨scheme, authority, settled', joins⟩ := join_plain plainly.begins hosted settled
  have each : ∀ part ∈ segments ++ [resource.id], IsSegment part := by
    simpa [or_imp, forall_and] using ⟨plainly.plain, segment⟩
  have filled : segments ++ [resource.id] ≠ [] := by simp
  have placed : url = ⟨scheme, some authority, String.ofList (pathOf (segments ++ [resource.id])), none, none⟩ := by
    have itself := resourceUrl_plain plainly unprocessed registered resource.id []
    rw [pathOf, List.flatMap_nil, String.ofList_nil, String.append_empty] at itself
    rw [itself, joins _ each filled] at located
    exact (Except.ok.inj located).symm
  have leads : api.route url.path = .ok (endpoint, .resource resource.id) := by
    rw [placed]
    exact route_plain unprocessed apart routed plainly (List.forall_mem_singleton.mpr segment)
      (List.cons_ne_nil _ _) rfl
  refine ⟨url, ?_, ?_⟩
  · rw [placed, text_site]
    exact read_site settled' each filled
  · have again : Reachable api (fun _ => True) (handle api now request database).database :=
      .handled now trivial reachable
    rw [reached] at again besides ⊢
    refine found_again separate unprocessed.serializer plain known keyed allowed again besides member read run leads
      ?_ later
    rw [placed]

/-! Tags that clients name, of which some are broader than others. -/

namespace Tags

def broader : Relationship :=
  ⟨"broader", .toOne, "tag", true, .ownerKey "broader_id"⟩

def tag : EntityType :=
  ⟨"tag", none, ⟨"id", .string, false⟩, [], [broader], []⟩

def schema : Schema := ⟨[tag]⟩

def settings : ResourceConfig := { allowClientIds := true }

def api : Api :=
  { Api.ofSchema schema {} with
    resources := [("tag", settings)]
    assembler := ⟨"/api", [("tag", "/api/tag")], [], [("tag", .all)]⟩ }

theorem unprocessed : Api.Unprocessed schema {} api :=
  .register .start ⟨rfl, rfl⟩ rfl (rfl : (Api.ofSchema schema {}).register "tag" settings = .ok api)

theorem separate : schema.Separate :=
  separate_of_decided [tag] rfl (by decide +kernel)

theorem plainly : PlainlyAt {} "tag" settings "" ["api", "tag"] :=
  ⟨.inl rfl, by decide, by decide, by decide⟩

theorem localhost : IsSite "http" (.ofHost "localhost") := by
  have domain : IsDomain ["localhost"] := by decide
  have site := isSite_domain (rfl : kindOf "http" = .special) domain
  rwa [(by decide : String.ofList (domainOf ["localhost"]) = "localhost")] at site

def creation : Request :=
  Client.create "tag" [("id", .string "red"), Client.linked "broader" (Client.identifier "tag" "color")]

def tables : Database :=
  ⟨[⟨"tag", [⟨"id", .text⟩, ⟨"broader_id", .text⟩], [[0]], [[.text "color", .null]], 1⟩]⟩

theorem tables_reachable : Reachable api (fun _ => True) tables :=
  Client.reachable_of_done [Client.create "tag" [("id", .string "color")]] (by decide +kernel)

end Tags

theorem red_is_found : ∃ document data url, Url.read "http://localhost/api/tag/red" = .ok url ∧
    (handle Tags.api Client.now Tags.creation Tags.tables).response.body = some document ∧
    document.data = some data ∧ Tags.api.LeadsBack Tags.creation.url ⟨Tags.tag, Tags.settings⟩ "red" data ∧
    ∃ others, (handle Tags.api Client.now ⟨.get, url, none⟩
      (handle Tags.api Client.now Tags.creation Tags.tables).database).response =
        .ofDocument 200 { document with included := others } := by
  have told : (handle Tags.api Client.now Tags.creation Tags.tables).response.header? "Location" =
      some "http://localhost/api/tag/red" := by decide +kernel
  have named : (((handle Tags.api Client.now Tags.creation Tags.tables).response.body.bind Document.data).bind
      fun data => (data.get? "id").bind Json.string?) = some "red" := by decide +kernel
  have apart : Tags.api.resources.Pairwise fun one other =>
      Apart (collectionPath {} one.1 one.2) (collectionPath {} other.1 other.2) := List.pairwise_singleton _ _
  have routed : Tags.api.route Tags.creation.url.path = .ok (⟨Tags.tag, Tags.settings⟩, .collection) := rfl
  obtain ⟨_, document, data, id, body, shown, _, identity, leads⟩ :=
    created_resource_is_found Tags.unprocessed Tags.separate apart Tags.plainly (.inl rfl) rfl Tags.tables_reachable
      rfl Tags.localhost routed rfl Client.now Client.now told (presentsBesides_none rfl _)
  rw [body, Option.bind_some, shown, Option.bind_some, identity] at named
  obtain rfl := Option.some.inj named
  obtain ⟨back, url, read, found⟩ := leads (by decide)
  exact ⟨document, data, url, read, body, shown, back, found⟩

/-- A location may lead nowhere: what it writes encoded is not decoded where it is looked up. -/
theorem spaced_location_leads_nowhere :
    let answer := handle Tags.api Client.now (Client.create "tag" [("id", .string "a b")]) Tags.tables
    answer.response.status = 201 ∧ answer.response.header? "Location" = some "http://localhost/api/tag/a%20b" ∧
      ∃ url, Url.read "http://localhost/api/tag/a%20b" = .ok url ∧
        (handle Tags.api Client.now ⟨.get, url, none⟩ answer.database).response.status = 404 := by
  have plain : ∀ segment ∈ ["api", "tag", "a%20b"], IsSegment segment := by decide
  have path : String.ofList (pathOf ["api", "tag", "a%20b"]) = "/api/tag/a%20b" := by decide
  have text : site "http" (.ofHost "localhost") ++ "/api/tag/a%20b" = "http://localhost/api/tag/a%20b" := by decide
  have read := read_site Tags.localhost plain (by decide)
  rw [path, text] at read
  exact ⟨by decide +kernel, by decide +kernel, _, read, by decide +kernel⟩

end ResourceServer

/-! Collections are found below a root by default, so what is linked to from a request to one is a URL. -/

namespace ResourceServer

open ResourceServer.Url ResourceServer.Api

def Rooted (text : List Char) : Prop :=
  ∃ c rest, text = '/' :: c :: rest ∧ 32 < c.toNat ∧ isSlash .special c = false

section

variable {text : List Char}

theorem Rooted.append (rooted : Rooted text) (more : List Char) : Rooted (text ++ more) := by
  obtain ⟨c, rest, rfl, visible, apart⟩ := rooted
  exact ⟨c, rest ++ more, rfl, visible, apart⟩

theorem Rooted.trimmed {outer : Char → Bool} (rooted : Rooted text)
    (inner : ∀ c, 32 < c.toNat → isSlash .special c = false → outer c = false) :
    Rooted (text.reverse.dropWhile outer).reverse := by
  obtain ⟨c, rest, rfl, visible, apart⟩ := rooted
  have kept := inner c visible apart
  rw [List.reverse_cons, List.reverse_cons, List.append_assoc, List.dropWhile_append]
  split
  · rw [List.singleton_append, List.dropWhile_cons_of_neg (by simp [kept])]
    exact ⟨c, [], rfl, visible, apart⟩
  · rw [List.reverse_append]
    exact ⟨c, _, rfl, visible, apart⟩

theorem Rooted.trimEnd (rooted : Rooted text) : Rooted (Text.trimEnd '/' (String.ofList text)).toList := by
  unfold Text.trimEnd
  rw [String.toList_ofList, String.toList_ofList]
  refine rooted.trimmed fun c _ apart => ?_
  by_contra slash
  rw [Bool.not_eq_false, decide_eq_true_eq] at slash
  subst slash
  cases apart

theorem Rooted.trimmed_url (rooted : Rooted text) : Rooted (Url.trimmed (String.ofList text)) := by
  unfold Url.trimmed
  rw [String.toList_ofList]
  have begins : text.dropWhile (fun c => decide (c.toNat ≤ 32)) = text := by
    obtain ⟨c, rest, rfl, _⟩ := rooted
    exact List.dropWhile_cons_of_neg (by decide)
  dsimp only
  rw [begins]
  exact rooted.trimmed fun c visible _ => decide_eq_false (not_le.mpr visible)

theorem Rooted.counted (rooted : Rooted text) : Rooted (Url.counted text) := by
  obtain ⟨c, rest, rfl, visible, apart⟩ := rooted
  have counts : isIgnored c = false := by
    unfold isIgnored
    by_contra ignored
    simp only [List.contains_cons, List.contains_nil, Bool.or_false, Bool.or_eq_true, beq_iff_eq,
      Bool.not_eq_false] at ignored
    rcases ignored with rfl | rfl | rfl <;> revert visible <;> decide
  refine ⟨c, Url.counted rest, ?_, visible, apart⟩
  have slash : isIgnored '/' = false := by decide
  unfold Url.counted
  rw [List.filter_cons, List.filter_cons, slash, counts]
  rfl

theorem Rooted.readScheme (rooted : Rooted text) : readScheme? text = none := by
  obtain ⟨c, rest, rfl, _⟩ := rooted
  rw [readScheme?, List.span_eq_takeWhile_dropWhile, List.takeWhile_cons_of_pos (by decide)]
  refine if_pos (.inr (.inl ?_))
  rfl

theorem Rooted.join (rooted : Rooted text) {base : Url} (placed : base.isRootless = false) :
    ∃ url, Url.join base (String.ofList text) = .ok url := by
  have trimmed := rooted.trimmed_url
  unfold Url.join
  dsimp only
  rw [trimmed.readScheme]
  dsimp only
  rw [placed, if_neg Bool.false_ne_true]
  obtain ⟨c, rest, counted, _, apart⟩ := trimmed.counted
  split
  · have ordinary : isSlash .file c = false := by
      revert apart
      unfold isSlash
      exact id
    unfold readFile
    rw [counted]
    dsimp only
    rw [if_pos (by decide), List.head?_cons, Option.any_some, ordinary, if_neg Bool.false_ne_true]
    exact ⟨_, rfl⟩
  · have slash : isSlash .special '/' = true := by decide
    have single : ('/' :: c :: rest).takeWhile (isSlash .special) = ['/'] := by
      rw [List.takeWhile_cons_of_pos slash, List.takeWhile_cons_of_neg (by simp [apart])]
    unfold joinRelative
    rw [counted]
    simp [slash, single]

end

theorem collectionUrl_rooted (type : String) {settings : ResourceConfig} (usual : settings.urlPath = none) :
    Rooted (collectionUrl {} type settings).toList := by
  have root : Rooted "/api".toList := ⟨'a', ['p', 'i'], by decide, by decide, by decide⟩
  unfold collectionUrl
  rw [usual]
  have whole : Text.trimEnd '/' "/api" = "/api" := by decide
  change Rooted (("" ++ Text.trimEnd '/' "/api" ++ "/" ++ type).toList)
  rw [whole, String.toList_append, String.toList_append, String.empty_append]
  exact (root.append _).append _

section

variable {schema : Schema} {api : Api} (unprocessed : api.Unprocessed schema {}) {path : String} {endpoint : Endpoint}
  {route : Route} (routed : api.route path = .ok (endpoint, route)) (usual : endpoint.config.urlPath = none)
include unprocessed routed usual

theorem route_rooted : path.toList.head? = some '/' := by
  have rooted := collectionUrl_rooted endpoint.type.name usual
  have same := unprocessed.collections.1
  have collection : collectionPath {} endpoint.type.name endpoint.config =
      collectionUrl {} endpoint.type.name endpoint.config := by
    have alone : Url.read (collectionUrl {} endpoint.type.name endpoint.config) = .error .relativeWithoutBase := by
      unfold Url.read
      have trimmed := rooted.trimmed_url
      rw [String.ofList_toList] at trimmed
      rw [trimmed.readScheme]
    unfold collectionPath
    dsimp only
    rw [alone]
  have begins : (collectionPath {} endpoint.type.name endpoint.config).toList <+: (Text.trimEnd '/' path).toList := by
    unfold Api.route at routed
    split at routed
    · rename_i found among
      cases routed
      rw [routeAmong_eq] at among
      obtain ⟨entry, _, below⟩ := List.exists_of_findSome?_eq_some (Option.join_eq_some_iff.mp among)
      obtain ⟨type, segments, known, under, leads⟩ := routeBelow_ok below
      obtain ⟨_, _, same'⟩ := Option.map_eq_some_iff.mp leads.symm
      cases same'
      have named : type.name = entry.1 := by simpa using List.find?_some known
      rw [same] at under
      exact named ▸ segmentsBelow_begins under
    · cases routed
  obtain ⟨c, rest, spelled, _⟩ := rooted
  obtain ⟨more, whole⟩ := begins
  rw [collection, spelled] at whole
  have front : (Text.trimEnd '/' path).toList <+: path.toList := by
    unfold Text.trimEnd
    rw [String.toList_ofList]
    nth_rewrite 2 [← List.reverse_reverse path.toList]
    exact List.reverse_prefix.mpr (List.dropWhile_suffix _)
  obtain ⟨others, whole'⟩ := front
  rw [← whole', ← whole]
  rfl

theorem resourceUrl_joins {base : Url} (here : base.path = path) (id : String) :
    ∃ url, Url.join base (api.assembler.resourceUrl endpoint.type.name id) = .ok url := by
  obtain ⟨_, ordered, urls⟩ := unprocessed.collections
  have registered := (route_registered routed).1
  have collection := urls endpoint.type.name endpoint.config (ordered.lookup_mem registered)
  have rooted := (collectionUrl_rooted endpoint.type.name usual).trimEnd
  rw [String.ofList_toList] at rooted
  have linked : Rooted (api.assembler.resourceUrl endpoint.type.name id).toList := by
    unfold Assembler.resourceUrl
    rw [collection]
    change Rooted ((Text.trimEnd '/' _ ++ "/" ++ id).toList)
    rw [String.toList_append, String.toList_append]
    exact (rooted.append _).append _
  have placed : base.isRootless = false := by
    unfold Url.isRootless
    rw [here, route_rooted unprocessed routed usual]
    simp
  have joined := linked.join placed
  rwa [String.ofList_toList] at joined

end

end ResourceServer
