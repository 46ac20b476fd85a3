import ResourceServer.Proofs.Integrity
import ResourceServer.Proofs.TieRequests

/-! A resource that is linked stays linked, unless a request takes its link away. -/

namespace ResourceServer

open ResourceServer.Store ResourceServer.Mapping ResourceServer.Api

/-- A request asks for links of a resource that is there, or of a new one, to be made what a linkage says, or for
those it names to be removed. -/
inductive Asks (api : Api) (request : Request) :
    EntityType → Option String → Relationship → Linkage → Prop
  | created {endpoint : Endpoint} {values : Keyed Value}
      {linkages : List (Relationship × Linkage)} {relationship : Relationship} {linkage : Linkage}
      (posted : request.verb = .post)
      (routed : api.route request.url.path = .ok (endpoint, .collection))
      (read : readCreation endpoint request = .ok (values, linkages))
      (member : (relationship, linkage) ∈ linkages) :
      Asks api request endpoint.type none relationship linkage
  | changed {endpoint : Endpoint} {id : String} {values : Keyed Value}
      {linkages : List (Relationship × Linkage)} {relationship : Relationship} {linkage : Linkage}
      (patched : request.verb = .patch)
      (routed : api.route request.url.path = .ok (endpoint, .resource id))
      (read : readChange endpoint request id = .ok (values, linkages))
      (member : (relationship, linkage) ∈ linkages) :
      Asks api request endpoint.type (some id) relationship linkage
  | linked {endpoint : Endpoint} {id name : String} {relationship : Relationship} {data : Json}
      {linkage : Linkage} (making : request.verb ≠ .post)
      (routed : api.route request.url.path = .ok (endpoint, .relationship id name))
      (found : endpoint.type.relationship? name = some relationship)
      (given : requestData request = .ok data) (read : Linkage.ofJson relationship data = .ok linkage) :
      Asks api request endpoint.type (some id) relationship linkage

/-- A request takes no link of an owner to a target away: it neither deletes the target nor asks for links in the
place of this one, unless through the same relationship, to a target, and not to that of another owner. -/
structure Sparing (api : Api) (request : Request) (type target : EntityType)
    (relationship : Relationship) (owner other : Cell) : Prop where
  kept : ∀ {endpoint : Endpoint} {id : String}, request.verb = .delete →
    api.route request.url.path = .ok (endpoint, .resource id) → endpoint.type = target →
      ¬Spells target id other
  asked : ∀ {holder aim : EntityType} {id : Option String} {via : Relationship} {linkage : Linkage},
    Asks api request holder id via linkage → api.schema.Relates holder via aim →
      via.storage.place holder aim = relationship.storage.place type target →
        holder = type ∧ via = relationship ∧ ∃ asked, linkage = .toOne (some asked) ∧
          ∀ column, relationship.storage = .targetKey column → Spells target asked.id other →
            ∃ text, id = some text ∧ Spells type text owner
  added : ∀ {endpoint : Endpoint} {id name : String} {via : Relationship} {aim : EntityType},
    request.verb = .post → api.route request.url.path = .ok (endpoint, .relationship id name) →
      endpoint.type.relationship? name = some via → api.schema.Relates endpoint.type via aim →
        via.storage.place endpoint.type aim = relationship.storage.place type target →
          ∀ column, relationship.storage ≠ .targetKey column

def Renewed (type : EntityType) (owner other : Cell) (id : String) (partner : Cell) : Prop :=
  partner = other ∨ Spells type id owner

section

variable {schema : Schema} {type target : EntityType} {relationship : Relationship} {owner : Cell}
  {partner : Cell → Prop}

theorem Bonded.weaken {storage : Storage} {partner' : Cell → Prop} {database : Database}
    (bonded : Bonded schema type target storage owner partner database)
    (more : ∀ other, partner other → partner' other) :
    Bonded schema type target storage owner partner' database :=
  ⟨bonded.attached.weaken more, bonded.typed⟩

variable (orderly : schema.Orderly) (relates : schema.Relates type relationship target)
include orderly relates

/-- Making a linkage what a request says leaves a resource linked, if it goes elsewhere or through the relationship
itself to a target that no other owner loses. -/
theorem writeLinkage_bonded {holder : EntityType} {via : Relationship} {other : Cell} {id : String}
    {linkage : Linkage} (known : holder ∈ schema.types) (own : via ∈ holder.relationships)
    (sparing : ∀ aim, schema.Relates holder via aim →
      via.storage.place holder aim = relationship.storage.place type target →
        holder = type ∧ via = relationship ∧ ∃ asked, linkage = .toOne (some asked) ∧
          ∀ column, relationship.storage = .targetKey column → Spells target asked.id other →
            Spells type id owner) (allowed : Bool) :
    Maintains (Bonded schema type target relationship.storage owner (Renewed type owner other id))
      (writeLinkage schema holder via id linkage allowed) := by
  have owned : Owned schema (fun _ _ => True) holder via id := ⟨known, own, fun _ _ _ => trivial⟩
  refine bonded_of (writeLinkage_ready (references_invariant orderly).links owned linkage allowed) ?_
  obtain ⟨aim, _, leads, _⟩ := orderly.formed.target known own
  have relates' : schema.Relates holder via aim := ⟨known, own, leads⟩
  by_cases here : via.storage.place holder aim = relationship.storage.place type target
  · obtain ⟨rfl, rfl, asked, rfl, untaken⟩ := sparing aim relates' here
    refine replaceToOne_itself orderly relates (fun mine _ => .inr mine)
      fun strange column storage partner renewed taken => ?_
    obtain rfl := renewed.resolve_right strange
    exact strange (untaken column storage taken)
  · exact establishes_weaken (writeLinkage_elsewhere orderly relates relates' here id linkage allowed)
      (fun _ both => both.1) fun _ _ attached => attached

omit relates in
theorem insert_bonded {holder : EntityType} {values : Keyed Value} (known : holder ∈ schema.types)
    (filled : Fills holder.fields values) :
    Maintains (Bonded schema type target relationship.storage owner partner)
      (Mapping.insert holder values) := by
  refine ⟨fun {connection after resource} bonded run => ?_⟩
  obtain ⟨laid, other, allowed, tied⟩ := bonded.attached
  have ready := (insert_ready (references_invariant orderly) known False filled
    False.elim).sound bonded.ready run
  obtain ⟨added, changed⟩ := insert_appends run
  exact ⟨⟨ready.laid, other, allowed, tied.append changed⟩, ready.held⟩

theorem update_bonded {holder : EntityType} {id : String} {values : Keyed Value}
    (known : holder ∈ schema.types) (filled : Fills holder.attributes values) :
    Maintains (Bonded schema type target relationship.storage owner partner)
      (Mapping.update holder id values) := by
  refine ⟨fun {connection after existed} bonded run => ?_⟩
  obtain ⟨laid, other, allowed, tied⟩ := bonded.attached
  rcases update_assigns laid.wide run with same | ⟨cell, _, changed⟩
  · rw [same]
    exact bonded
  · have attributes : ∀ assignment ∈ assignments values, ∃ field ∈ holder.attributes,
        assignment.1 = columnName field.name := fun assignment given => by
      obtain ⟨field, own, named, _⟩ := assignments_fill filled assignment given
      exact ⟨field, own, named⟩
    have changes : Changes schema False connection.database after.database :=
      .assign known (assignments_fill filled) changed
    exact ⟨⟨laid.rewrites changed, other, allowed, tied.assign orderly.tables orderly.columns
      orderly.keys relates known attributes changed⟩,
      changes.references_typed orderly.keys orderly.agree.types bonded.typed⟩

end

def StillLinked (type target : EntityType) (storage : Storage) (owner : Cell) (database : Database) :
    Prop :=
  Standing database type owner → HasPartner type target storage owner (fun _ => True) database

theorem Attached.stillLinked {schema : Schema} {type target : EntityType} {storage : Storage}
    {owner : Cell} {partner : Cell → Prop} {database : Database}
    (attached : Attached schema type target storage owner partner database) :
    StillLinked type target storage owner database :=
  fun _ => (attached.weaken fun _ _ => trivial).partner

section

variable {api : Api} {request : Request} {type target : EntityType} {relationship : Relationship}
  {owner other : Cell} (orderly : api.schema.Orderly)
  (relates : api.schema.Relates type relationship target)
  (sparing : Sparing api request type target relationship owner other)
include orderly relates sparing

theorem storeResource_sparing {endpoint : Endpoint} {values : Keyed Value}
    {linkages : List (Relationship × Linkage)} (posted : request.verb = .post)
    (routed : api.route request.url.path = .ok (endpoint, .collection))
    (read : readCreation endpoint request = .ok (values, linkages)) :
    Yields (Bonded api.schema type target relationship.storage owner fun partner => partner = other)
      (storeResource api endpoint request values linkages)
      (StillLinked type target relationship.storage owner) := by
  have known := route_known routed
  obtain ⟨filled, own⟩ := readCreation_fills read
  refine establishes_bind (establishes_mapError _ (insert_bonded orderly known filled))
    fun resource => ?_
  have written : Maintains (Bonded api.schema type target relationship.storage owner
      (Renewed type owner other resource.id))
      (writeLinkages api.schema endpoint.type resource.id linkages true) := by
    refine establishes_forM fun entry member => writeLinkage_bonded orderly relates known
      (own entry member) (fun aim relates' here => ?_) true
    obtain ⟨one, two, asked, three, untaken⟩ :=
      sparing.asked (.created posted routed read member) relates' here
    refine ⟨one, two, asked, three, fun column storage taken => ?_⟩
    obtain ⟨text, none, _⟩ := untaken column storage taken
    cases none
  refine establishes_weaken (establishes_bind written fun _ => establishes_given fun url _ =>
    establishes_bind (maintains_of_keeps (assemble_keeps ..)) fun document =>
      maintains_of_keeps (keeps_pure _)) (fun _ bonded => bonded.weaken fun _ => .inl)
    fun _ _ bonded => ?_
  exact bonded.attached.stillLinked

theorem changeResource_sparing {endpoint : Endpoint} {id : String} {values : Keyed Value}
    {linkages : List (Relationship × Linkage)} (patched : request.verb = .patch)
    (routed : api.route request.url.path = .ok (endpoint, .resource id))
    (read : readChange endpoint request id = .ok (values, linkages)) :
    Yields (Bonded api.schema type target relationship.storage owner fun partner => partner = other)
      (changeResource api endpoint id values linkages)
      (StillLinked type target relationship.storage owner) := by
  have known := route_known routed
  obtain ⟨filled, own⟩ := readChange_fills read
  refine establishes_bind (establishes_mapError _ (update_bonded orderly relates known filled))
    fun existed => establishes_guard fun _ => ?_
  have written : Maintains (Bonded api.schema type target relationship.storage owner
      (Renewed type owner other id))
      (writeLinkages api.schema endpoint.type id linkages endpoint.config.allowReplacement) := by
    refine establishes_forM fun entry member => writeLinkage_bonded orderly relates known
      (own entry member) (fun aim relates' here => ?_) _
    obtain ⟨one, two, asked, three, untaken⟩ :=
      sparing.asked (.changed patched routed read member) relates' here
    refine ⟨one, two, asked, three, fun column storage taken => ?_⟩
    obtain ⟨text, same, spelled⟩ := untaken column storage taken
    cases same
    exact spelled
  exact establishes_weaken written (fun _ bonded => bonded.weaken fun _ => .inl)
    fun _ _ bonded => bonded.attached.stillLinked

theorem delete_sparing {endpoint : Endpoint} {id : String} (deleted : request.verb = .delete)
    (routed : api.route request.url.path = .ok (endpoint, .resource id)) :
    Yields (Bonded api.schema type target relationship.storage owner fun partner => partner = other)
      (Mapping.delete api.schema endpoint.type id)
      (StillLinked type target relationship.storage owner) := by
  have known := route_known routed
  by_cases own : endpoint.type = type ∧ Spells type id owner
  · obtain ⟨rfl, cell, spelled, agrees⟩ := own
    refine establishes_weaken (delete_removes (references_invariant orderly).links known spelled)
      (fun _ bonded => bonded.ready) fun _ connection freed => ?_
    rintro ⟨record, member, rfl⟩
    rw [freed record member] at agrees
    cases agrees
  · refine establishes_weaken (delete_spares orderly relates known fun cell spelled => ?_)
      (fun _ bonded => bonded) fun _ _ bonded => bonded.attached.stillLinked
    rintro _ rfl
    refine ⟨fun same => Bool.eq_false_iff.mpr fun agrees => ?_,
      fun same => Bool.eq_false_iff.mpr fun agrees => ?_⟩
    · exact own ⟨same, cell, same ▸ spelled, agrees⟩
    · exact sparing.kept deleted routed same ⟨cell, same ▸ spelled, agrees⟩

theorem appendToMany_sparing {endpoint : Endpoint} {id name : String} {via : Relationship}
    (posted : request.verb = .post)
    (routed : api.route request.url.path = .ok (endpoint, .relationship id name))
    (found : endpoint.type.relationship? name = some via) (targets : List Identifier) :
    Yields
      (fun database =>
        Bonded api.schema type target relationship.storage owner (fun partner => partner = other)
          database ∧ ∀ cell, idCell? endpoint.type id = some cell → Present database endpoint.type cell)
      (Relinking.appendToMany api.schema endpoint.type via id targets)
      (StillLinked type target relationship.storage owner) := by
  have own := (owns_of_found found).mem
  obtain ⟨aim, _, leads, _⟩ := orderly.formed.target (route_known routed) own
  have relates' : api.schema.Relates endpoint.type via aim := ⟨route_known routed, own, leads⟩
  by_cases here : via.storage.place endpoint.type aim = relationship.storage.place type target
  · refine establishes_given fun _ _ => ?_
    refine ⟨fun {connection after value} ⟨bonded, present⟩ run => ?_⟩
    obtain ⟨ids, middle, required, run⟩ := execute_bind_ok run
    have same := (requireTargets_run bonded.attached.laid.wide required).1
    have free := sparing.added posted routed found relates' here
    rw [← same] at bonded present
    exact ((addToMany_joins orderly relates relates' here free id ids).sound
      ⟨bonded.attached, present⟩ (execute_mapError_ok run)).stillLinked
  · exact establishes_weaken (appendToMany_elsewhere orderly relates relates' here id targets)
      (fun _ both => both.1.attached) fun _ _ attached => attached.stillLinked

theorem changeLinks_sparing (toOne : relationship.isToMany = false) {endpoint : Endpoint}
    {id name : String} {via : Relationship} {data : Json} {linkage : Linkage}
    (writing : request.verb ≠ .get)
    (routed : api.route request.url.path = .ok (endpoint, .relationship id name))
    (found : endpoint.type.relationship? name = some via) (given : requestData request = .ok data)
    (read : Linkage.ofJson via data = .ok linkage) :
    Yields (Bonded api.schema type target relationship.storage owner fun partner => partner = other)
      (changeLinks api endpoint (linkOperation request.verb) id via linkage)
      (StillLinked type target relationship.storage owner) := by
  have known := route_known routed
  have own := (owns_of_found found).mem
  have required : Yields
      (Bonded api.schema type target relationship.storage owner fun partner => partner = other)
      (requireResource endpoint.type id)
      (fun database =>
        Bonded api.schema type target relationship.storage owner (fun partner => partner = other)
          database ∧
            ∀ cell, idCell? endpoint.type id = some cell → Present database endpoint.type cell) := by
    refine ⟨fun {connection after resource} bonded run => ?_⟩
    obtain ⟨same, present⟩ := requireResource_run bonded.attached.laid.wide run
    rw [same]
    exact ⟨bonded, present⟩
  refine establishes_bind required fun _ => ?_
  cases verb : request.verb with
  | get => exact absurd verb writing
  | post =>
      exact establishes_bind (appendToMany_sparing orderly relates sparing verb routed found _)
        fun _ => maintains_of_keeps (keeps_pure _)
  | patch =>
      have replacing : request.verb ≠ .post := by
        rw [verb]
        nofun
      refine establishes_bind (establishes_weaken (writeLinkage_bonded orderly relates known own
        (fun aim relates' here => ?_) endpoint.config.allowReplacement)
        (fun _ both => both.1.weaken fun _ => .inl) fun _ _ bonded => bonded.attached.stillLinked)
        fun _ => maintains_of_keeps (keeps_pure _)
      obtain ⟨one, two, asked, three, untaken⟩ :=
        sparing.asked (.linked replacing routed found given read) relates' here
      refine ⟨one, two, asked, three, fun column storage taken => ?_⟩
      obtain ⟨text, same, spelled⟩ := untaken column storage taken
      cases same
      exact spelled
  | delete =>
      have removing : request.verb ≠ .post := by
        rw [verb]
        nofun
      obtain ⟨aim, _, leads, _⟩ := orderly.formed.target known own
      have relates' : api.schema.Relates endpoint.type via aim := ⟨known, own, leads⟩
      refine establishes_bind ?_ fun _ => maintains_of_keeps (keeps_pure _)
      by_cases here : via.storage.place endpoint.type aim = relationship.storage.place type target
      · obtain ⟨_, rfl, _⟩ :=
          sparing.asked (.linked removing routed found given read) relates' here
        unfold Relinking.removeFromMany
        refine establishes_guard fun _ => establishes_given fun _ many => ?_
        rw [requireToMany_ok many] at toOne
        cases toOne
      · exact establishes_weaken (removeTargets_elsewhere orderly relates relates' here id _ _)
          (fun _ both => both.1.attached) fun _ _ attached => attached.stillLinked

theorem sparing_yields (toOne : relationship.isToMany = false) :
    WritesYield api request
      (Bonded api.schema type target relationship.storage owner fun partner => partner = other)
      (StillLinked type target relationship.storage owner) where
  idle _ bonded := bonded.attached.stillLinked
  store := storeResource_sparing orderly relates sparing
  change := changeResource_sparing orderly relates sparing
  delete := delete_sparing orderly relates sparing
  links := changeLinks_sparing orderly relates sparing toOne

end

/-- After any requests, an owner that is linked to a target through a to-one relationship is linked to one after the
next request too, if it is still stored and the request takes no link away, whether or not the relationship may be
without a target. -/
theorem sparing_request_keeps_partner {api : Api} {types : List EntityType}
    (valid : Schema.ofTypes types = .ok api.schema) (tables : api.schema.TablesDistinct)
    (shared : api.schema.PairsShared) (apart : api.schema.PairsDistinct)
    (columns : api.schema.ColumnsDistinct) (keys : api.schema.KeysApart)
    (agree : api.schema.KeysAgree) {type target : EntityType} {relationship : Relationship}
    (relates : api.schema.Relates type relationship target)
    (toOne : relationship.isToMany = false) {database : Database}
    (reachable : Reachable api (fun _ => True) database) {record record' : Record}
    (stored : record ∈ database.records (tableName type))
    (stored' : record' ∈ database.records (tableName target))
    (link : linked database type target relationship.storage record record' = true)
    (now : Calendar.Timestamp) {request : Request}
    (sparing : Sparing api request type target relationship (record (idName type))
      (record' (idName target)))
    (standing : ∃ later ∈ (handle api now request database).database.records (tableName type),
      later (idName type) = record (idName type)) :
    ∃ later ∈ (handle api now request database).database.records (tableName type),
      later (idName type) = record (idName type) ∧
        ∃ later' ∈ (handle api now request database).database.records (tableName target),
          linked (handle api now request database).database type target relationship.storage later
            later' = true := by
  have orderly : api.schema.Orderly :=
    ⟨ofTypes_formed valid, tables, shared, apart, columns, keys, agree⟩
  obtain ⟨laid, typed⟩ := reachable_references_typed orderly reachable
  have bonded : Bonded api.schema type target relationship.storage (record (idName type))
      (fun partner => partner = record' (idName target)) database :=
    ⟨⟨laid, _, rfl, tied_of_linked stored stored' link⟩, typed⟩
  obtain ⟨other, _, tied⟩ :=
    handle_yields (sparing_yields orderly relates sparing toOne) now bonded standing
  exact tied.linked

/-! A book is signed by an author, which may not be undone. -/

namespace Byline

def author : EntityType :=
  ⟨"author", none, ⟨"id", .string, false⟩, [], [], []⟩

def signed : Relationship :=
  ⟨"author", .toOne, "author", false, .ownerKey "author_id"⟩

def book : EntityType :=
  ⟨"book", none, ⟨"id", .string, false⟩, [], [signed], []⟩

def schema : Schema := ⟨[author, book]⟩

def api : Api :=
  { Api.ofSchema schema {} with
    resources := [("author", { allowClientIds := true }), ("book", { allowClientIds := true })] }

@[irreducible]
def published : Database :=
  afterRequests api Client.now
    [Client.create "author" [("id", .string "ann")], Client.create "author" [("id", .string "bob")],
      Client.create "book" [("id", .string "dawn"),
        Client.linked "author" (Client.identifier "author" "ann")]]

theorem published_reachable : Reachable api (fun _ => True) published := by
  unfold published
  exact reachable_requests (registered_of_done (by decide +kernel)) fun _ _ => trivial

def resign (linkage : Json) : Request :=
  ⟨.patch, Client.url "/api/book/dawn/relationships/author", some (.object [("data", linkage)])⟩

def resigned (linkage : Json) : Database :=
  (handle api Client.now (resign linkage) published).database

theorem resign_route {linkage : Json} {endpoint : Endpoint} {route : Route}
    (routed : api.route (resign linkage).url.path = .ok (endpoint, route)) :
    endpoint.type = book ∧ route = .relationship "dawn" "author" := by
  have found : (api.route "/api/book/dawn/relationships/author").map
      (fun entry => (entry.1.type, entry.2)) = .ok (book, .relationship "dawn" "author") := by
    decide
  have path : (resign linkage).url.path = "/api/book/dawn/relationships/author" := rfl
  rw [path] at routed
  rw [routed] at found
  exact Prod.mk.inj (Except.ok.inj found)

theorem resign_sparing (owner other : Cell) :
    Sparing api (resign (Client.identifier "author" "bob")) book author signed owner other where
  kept deleted := nomatch deleted
  added posted := nomatch posted
  asked := by
    rintro holder aim _ via linkage asks _ _
    cases asks with
    | created posted => cases posted
    | changed _ routed => cases (resign_route routed).2
    | linked _ routed found given read =>
        obtain ⟨same, route⟩ := resign_route routed
        cases route
        rw [same] at found
        cases found
        cases given
        cases read
        exact ⟨same, rfl, ⟨"author", "bob"⟩, rfl, nofun⟩

def another : Json := Client.identifier "author" "bob"

theorem published_linked : ∃ record ∈ published.records (tableName book),
    ∃ record' ∈ published.records (tableName author),
      linked published book author signed.storage record record' = true ∧
        ∀ linkage ∈ [another, .null], ∃ later ∈ (resigned linkage).records (tableName book),
          later (idName book) = record (idName book) := by
  decide +kernel

end Byline

theorem book_is_signed_anew : Schema.ofTypes [Byline.author, Byline.book] = .ok Byline.api.schema ∧
    Byline.api.schema.Relates Byline.book Byline.signed Byline.author ∧
    Reachable Byline.api (fun _ => True) Byline.published ∧
    ∃ record ∈ Byline.published.records (tableName Byline.book),
      ∃ later ∈ (Byline.resigned Byline.another).records (tableName Byline.book),
        later (idName Byline.book) = record (idName Byline.book) ∧
          ∃ later' ∈ (Byline.resigned Byline.another).records (tableName Byline.author),
            linked (Byline.resigned Byline.another) Byline.book Byline.author
              Byline.signed.storage later later' = true := by
  have valid : Schema.ofTypes [Byline.author, Byline.book] = .ok Byline.api.schema := rfl
  have relates : Byline.api.schema.Relates Byline.book Byline.signed Byline.author :=
    ⟨List.mem_cons_of_mem _ List.mem_cons_self, List.mem_cons_self, rfl⟩
  obtain ⟨record, stored, record', stored', link, standing⟩ := Byline.published_linked
  exact ⟨valid, relates, Byline.published_reachable, record, stored,
    sparing_request_keeps_partner valid (by decide +kernel) (by decide) (by decide)
      (by decide) (by decide +kernel) (by decide +kernel) relates rfl
      Byline.published_reachable stored stored' link Client.now (Byline.resign_sparing _ _)
      (standing _ List.mem_cons_self)⟩

/-- A relationship that may not be without a target is left without one, by a request that succeeds. -/
theorem null_takes_author :
    Schema.ofTypes [Byline.author, Byline.book] = .ok Byline.api.schema ∧
      Byline.signed.nullable = false ∧ Byline.signed.isToMany = false ∧
      Reachable Byline.api (fun _ => True) Byline.published ∧
      (handle Byline.api Client.now (Byline.resign .null) Byline.published).response.status = 204 ∧
      (∃ record ∈ Byline.published.records (tableName Byline.book),
        ∃ record' ∈ Byline.published.records (tableName Byline.author),
          linked Byline.published Byline.book Byline.author Byline.signed.storage record record' ∧
            ∃ later ∈ (Byline.resigned .null).records (tableName Byline.book),
              later (idName Byline.book) = record (idName Byline.book)) ∧
      ∀ later ∈ (Byline.resigned .null).records (tableName Byline.book),
        ∀ later' ∈ (Byline.resigned .null).records (tableName Byline.author),
          linked (Byline.resigned .null) Byline.book Byline.author Byline.signed.storage later
            later' = false := by
  refine ⟨rfl, rfl, rfl, Byline.published_reachable, ?_, ?_, ?_⟩
  · decide +kernel
  · obtain ⟨record, stored, record', stored', link, standing⟩ := Byline.published_linked
    exact ⟨record, stored, record', stored', link, standing _ (List.mem_cons_of_mem _ List.mem_cons_self)⟩
  · decide +kernel

end ResourceServer
