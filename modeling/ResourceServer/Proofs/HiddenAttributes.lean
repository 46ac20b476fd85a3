import ResourceServer.Proofs.PlainRequests
import ResourceServer.Proofs.RespelledRequests
import ResourceServer.Proofs.VeiledDocuments

/-! Attributes that the settings of their type hide have no influence on what is answered to requests that read. -/

namespace ResourceServer

open ResourceServer.Store ResourceServer.Mapping ResourceServer.Api ResourceServer.Calendar

/-- Parameters that do not name secret attributes in their filters and sort keys, where these are accepted. -/
structure Parameters.Spares (parameters : Parameters) (schema : Schema) (now : Timestamp) (secret : Secrets)
    (type : EntityType) : Prop where
  filters : ∀ predicate, Filter.resolveAll schema now type parameters.filters = .ok predicate →
    predicate.Spares schema secret type
  keys : ∀ keys, parameters.sort = .byKeys keys → ∀ key ∈ keys, ∀ resolved,
    Sorting.resolveKey schema type key = .ok resolved → resolved.Spares schema secret type

theorem Parameters.Spares.ordering {schema : Schema} {now : Timestamp} {secret : Secrets} {type : EntityType}
    {parameters : Parameters} (spares : parameters.Spares schema now secret type)
    (plain : ∀ name ∈ type.primaryKey, ¬secret type name) {ordering : List Sorting.OrderKey}
    (sorted : Sorting.resolve schema type parameters.sort = .ok ordering) :
    ∀ key ∈ ordering, key.Spares schema secret type := by
  intro key member
  cases asked : parameters.sort with
  | byPrimaryKey =>
      rw [asked] at sorted
      cases sorted
      obtain ⟨name, part, rfl⟩ := List.mem_map.mp member
      intro last along
      cases along
      exact plain name part
  | unsorted =>
      rw [asked] at sorted
      cases sorted
      cases member
  | byKeys keys =>
      rw [asked] at sorted
      obtain ⟨key', inside, resolved⟩ := mem_of_forall₂ (mapM_forall₂ sorted).flip member
      exact spares.keys keys asked key' inside key resolved

/-- An API that keeps secrets: its tables, keys and generated names are told apart, it writes no secret attribute,
and none is part of a primary key. -/
structure Discreet (api : Api) (secret : Secrets) : Prop where
  apart : api.schema.Apart
  unaliased : ∀ type ∈ api.schema.types, Unaliased (tableName type)
  reserved : ∀ type ∈ api.schema.types, tableName type ≠ "rel_owner" ∧ tableName type ≠ "rel_link"
  hides : api.assembler.Hides api.schema secret
  keys : ∀ type ∈ api.schema.types, ∀ name ∈ type.primaryKey, ¬secret type name

theorem relatedData_like {schema : Schema} {secret : Secrets} {related others : List Instance}
    (alike : List.Forall₂ (Instance.Like schema secret) related others) {config : ResourceConfig}
    {relationship : Relationship} {parameters : Parameters} :
    Together (fun data other => data.1.Like schema secret other.1 ∧ data.2 = other.2)
      (relatedData config relationship parameters related) (relatedData config relationship parameters others) := by
  unfold relatedData
  split
  · refine (Together.refl _).bind ?_
    rintro page _ rfl
    rw [List.Forall₂.length_eq alike]
    exact .ok ⟨.collection (List.forall₂_drop _ (List.forall₂_take _ alike)), rfl⟩
  · refine .ok ⟨.single ?_, rfl⟩
    cases alike with
    | nil => exact .none
    | cons one _ => exact .some one

theorem routeAmong_config {schema : Schema} {config : ApiConfig} {path : String}
    {resources : List (String × ResourceConfig)} {endpoint : Endpoint} {route : Route}
    (found : routeAmong schema config path resources = some (endpoint, route)) :
    ∃ name, (name, endpoint.config) ∈ resources := by
  induction resources with
  | nil => cases found
  | cons entry rest ih =>
      unfold routeAmong at found
      split at found
      · obtain ⟨route', _, same⟩ := Option.map_eq_some_iff.mp found
        cases same
        exact ⟨_, List.mem_cons_self⟩
      · obtain ⟨name, member⟩ := ih found
        exact ⟨name, List.mem_cons_of_mem _ member⟩

theorem route_config {api : Api} {path : String} {endpoint : Endpoint} {route : Route}
    (found : api.route path = .ok (endpoint, route)) : ∃ name, (name, endpoint.config) ∈ api.resources := by
  unfold Api.route at found
  split at found
  · rename_i entry among
    cases found
    exact routeAmong_config among
  · cases found

theorem answerDocument_parallel {left right : Database} {endpoint : Endpoint} (plain : endpoint.config.Plain)
    {context : Context} {document : Handler Document}
    (parallel : Parallel (Handled left right) Eq document document) :
    Parallel (Handled left right) Eq (answerDocument endpoint context document)
      (answerDocument endpoint context document) := by
  rw [answerDocument_plain plain]
  refine parallel.bind ?_
  rintro shown _ rfl
  exact parallel_pure rfl

section

variable {api : Api} {secret : Secrets} (discreet : Discreet api secret) {left right : Database}
  (like : left.Like (api.schema.cover secret) right) {endpoint : Endpoint} {request : Request}
  {parameters : Parameters} {now : Timestamp} {type : EntityType}
include discreet like

theorem includeFor_parallel (known : type ∈ api.schema.types) (config : ResourceConfig)
    {roots others : List Instance} (alike : List.Forall₂ (Instance.Like api.schema secret) roots others) :
    Parallel (Connected left right) (Option.Rel (List.Forall₂ (Instance.Like api.schema secret)))
      (includeFor api.schema type config parameters roots) (includeFor api.schema type config parameters others) := by
  unfold includeFor
  dsimp only
  split
  · exact parallel_pure .none
  · exact (Inclusion.resolve_parallel like discreet.apart discreet.reserved known alike _).bind
      fun _ _ included => parallel_pure (.some included)

theorem requireResource_parallel (known : type ∈ api.schema.types) (id : String) :
    Parallel (Connected left right) (Instance.Like api.schema secret) (requireResource type id)
      (requireResource type id) := by
  unfold requireResource
  refine ((get_parallel like discreet.apart known _).mapError _).bind fun resources others found => ?_
  have last := getLast_like found
  generalize resources.getLast? = one, others.getLast? = other at last
  cases last with
  | none => exact parallel_throw _
  | some alike => exact parallel_pure alike

theorem loadTargets_parallel (known : type ∈ api.schema.types) {relationship : Relationship}
    (own : relationship ∈ type.relationships) (id : String) :
    Parallel (Connected left right) (List.Forall₂ (Instance.Like api.schema secret))
      (loadTargets api.schema type relationship id) (loadTargets api.schema type relationship id) :=
  ((loadRelation_parallel like discreet.apart known discreet.reserved own _).mapError _).bind
    fun _ _ links => parallel_pure (links_of_like links id)

theorem collectionDocument_parallel (known : endpoint.type ∈ api.schema.types)
    (spares : parameters.Spares api.schema now secret endpoint.type) :
    Parallel (Connected left right) Eq (collectionDocument api now endpoint request parameters)
      (collectionDocument api now endpoint request parameters) := by
  unfold collectionDocument
  refine parallel_given fun predicate resolved => parallel_given fun ordering sorted => parallel_given fun page _ => ?_
  have tests := spares.filters predicate (mapError_ok resolved)
  have sorts := spares.ordering (discreet.keys endpoint.type known) (mapError_ok sorted)
  have unaliased := discreet.unaliased endpoint.type known
  refine ((query_parallel like discreet.apart known unaliased tests sorts).mapError _).bind
    fun resources others found => ?_
  have assembled (total : Nat) : Parallel (Connected left right) Eq
      (do
        let included ← includeFor api.schema endpoint.type endpoint.config parameters resources
        api.assembler.assemble api.schema (.collection resources) included (some (Paging.paginate total page))
          request.url parameters.fields)
      (do
        let included ← includeFor api.schema endpoint.type endpoint.config parameters others
        api.assembler.assemble api.schema (.collection others) included (some (Paging.paginate total page))
          request.url parameters.fields) :=
    (includeFor_parallel discreet like known endpoint.config found).bind fun _ _ besides =>
      assemble_parallel like discreet.apart discreet.reserved discreet.hides (.collection found) besides _ _
  dsimp only
  split
  · refine ((count_parallel like discreet.apart known unaliased tests).mapError _).bind ?_
    rintro total _ rfl
    exact assembled total
  · rw [pure_bind, pure_bind, List.Forall₂.length_eq found]
    exact assembled others.length

theorem resourceDocument_parallel (known : endpoint.type ∈ api.schema.types) (id : String) :
    Parallel (Connected left right) Eq (resourceDocument api endpoint request id parameters)
      (resourceDocument api endpoint request id parameters) := by
  unfold resourceDocument
  refine (requireResource_parallel discreet like known id).bind fun resource other alike => ?_
  refine (includeFor_parallel discreet like known endpoint.config (.cons alike .nil)).bind
    fun included included' besides => ?_
  exact assemble_parallel like discreet.apart discreet.reserved discreet.hides (.single (.some alike)) besides _ _

theorem relatedDocument_parallel (known : endpoint.type ∈ api.schema.types) (id : String)
    {relationship : Relationship} (own : relationship ∈ endpoint.type.relationships) :
    Parallel (Connected left right) Eq (relatedDocument api endpoint request id relationship parameters)
      (relatedDocument api endpoint request id relationship parameters) := by
  unfold relatedDocument
  split
  · exact parallel_throw _
  · rename_i target reached
    have known' := List.mem_of_find?_eq_some reached
    refine (requireResource_parallel discreet like known id).bind fun _ _ _ => ?_
    refine (loadTargets_parallel discreet like known own id).bind fun related others alike => ?_
    refine (parallel_ofExcept (relatedData_like alike)).bind ?_
    rintro ⟨data, page⟩ ⟨data', _⟩ ⟨same, rfl⟩
    refine (includeFor_parallel discreet like known' _ same.resources).bind fun included included' besides => ?_
    exact assemble_parallel like discreet.apart discreet.reserved discreet.hides same besides _ _

theorem relationshipDocument_parallel (known : endpoint.type ∈ api.schema.types) (id : String)
    {relationship : Relationship} (own : relationship ∈ endpoint.type.relationships) :
    Parallel (Connected left right) Eq (relationshipDocument api endpoint id relationship)
      (relationshipDocument api endpoint id relationship) := by
  unfold relationshipDocument
  refine (requireResource_parallel discreet like known id).bind fun _ _ _ => ?_
  refine (loadTargets_parallel discreet like known own id).bind fun related others alike => ?_
  rw [linkage_like alike relationship]
  exact parallel_pure rfl

theorem dispatch_parallel (plain : ∀ entry ∈ api.resources, entry.2.Plain) (reading : request.verb = .get)
    (spares : ∀ endpoint parameters, api.route request.url.path = .ok (endpoint, .collection) →
      parametersOf request = .ok parameters → parameters.Spares api.schema now secret endpoint.type) :
    Parallel (Handled left right) Eq (dispatch api now request) (dispatch api now request) := by
  unfold dispatch
  refine parallel_result fun (endpoint, route) routed => ?_
  have known := route_known routed
  have plain : endpoint.config.Plain := by
    obtain ⟨name, member⟩ := route_config routed
    exact plain _ member
  dsimp only
  split
  · exact parallel_throw _
  rw [reading]
  cases route with
  | collection =>
      refine answerDocument_parallel plain (parallel_result fun parameters read => ?_)
      exact parallel_source (collectionDocument_parallel discreet like known (spares endpoint parameters routed read))
  | resource id =>
      refine answerDocument_parallel plain (parallel_result fun parameters read => ?_)
      exact parallel_source (resourceDocument_parallel discreet like known id)
  | related id name =>
      refine parallel_result fun relationship found => ?_
      refine answerDocument_parallel plain (parallel_result fun parameters read => ?_)
      have own := List.mem_of_find?_eq_some (requestedRelationship_ok found)
      exact parallel_source (relatedDocument_parallel discreet like known id own)
  | relationship id name =>
      refine parallel_result fun relationship found => ?_
      have own := List.mem_of_find?_eq_some (requestedRelationship_ok found)
      exact answerDocument_parallel plain (parallel_source (relationshipDocument_parallel discreet like known id own))

end

/-! Databases that differ only in secret attributes. -/

/-- Databases of the same tables, columns and rows, but for the values of secret attributes. -/
def DifferOnly (schema : Schema) (secret : Secrets) (left right : Database) : Prop :=
  left.Like (fun table column _ _ => ∃ type ∈ schema.types, tableName type = table ∧ ∃ field ∈ type.attributes,
    secret type field.name ∧ columnName field.name = column) right

section

variable {schema : Schema} {secret : Secrets} {left right : Database}

theorem recordOf_zip {columns : List ColumnDefinition} (distinct : (columns.map ColumnDefinition.name).Nodup)
    {row : Row} {entry : ColumnDefinition × Cell} (member : entry ∈ columns.zip row) :
    recordOf columns row entry.1.name = entry.2 := by
  induction columns generalizing row with
  | nil => cases member
  | cons definition rest ih =>
      cases row with
      | nil => cases member
      | cons cell cells =>
          obtain ⟨apart, distinct⟩ := List.nodup_cons.mp distinct
          rcases List.mem_cons.mp member with rfl | member
          · exact recordOf_first rfl
          · refine (recordOf_rest fun same => apart ?_).trans (ih distinct member)
            rw [same]
            exact List.mem_map_of_mem (List.of_mem_zip (a := entry.1) (b := entry.2) member).1

theorem forall₂_mem {α β : Type} {relation : α → β → Prop} {items : List α} {others : List β}
    (all : List.Forall₂ relation items others) :
    List.Forall₂ (fun item other => item ∈ items ∧ other ∈ others ∧ relation item other) items others := by
  induction all with
  | nil => exact .nil
  | cons one _ ih =>
      exact .cons ⟨List.mem_cons_self, List.mem_cons_self, one⟩ (ih.imp fun _ _ ⟨member, member', one⟩ =>
        ⟨List.mem_cons_of_mem _ member, List.mem_cons_of_mem _ member', one⟩)

theorem FieldsTyped.entry {database : Database} (typed : FieldsTyped schema database) {type : EntityType}
    (known : type ∈ schema.types) {table : Table} (found : database.table? (tableName type) = some table)
    (distinct : (table.columns.map ColumnDefinition.name).Nodup) {row : Row} (stored : row ∈ table.rows)
    {field : Field} (own : field ∈ type.fields) {entry : ColumnDefinition × Cell}
    (member : entry ∈ table.columns.zip row) (named : columnName field.name = entry.1.name) :
    (columnType field.type).takes entry.2 := by
  have inside : table.record row ∈ database.records (tableName type) := by
    rw [records_of_table found]
    exact List.mem_map_of_mem stored
  have taken := typed type known _ inside field own
  rwa [named, Table.record, recordOf_zip distinct member] at taken

theorem DifferOnly.like (differ : DifferOnly schema secret left right) (shaped : Shaped schema left)
    (typed : FieldsTyped schema left) (typed' : FieldsTyped schema right) :
    left.Like (schema.cover secret) right := by
  intro name
  have reached := differ name
  cases found : left.table? name with
  | none =>
      rw [found] at reached
      cases found' : right.table? name with
      | none => exact .none
      | some table' =>
          rw [found'] at reached
          cases reached
  | some table =>
      rw [found] at reached
      cases found' : right.table? name with
      | none =>
          rw [found'] at reached
          cases reached
      | some table' =>
          rw [found'] at reached
          cases reached with
          | some tables =>
              refine .some ⟨tables.columns, (forall₂_mem tables.rows).imp fun row row' ⟨stored, stored', rows⟩ => ?_⟩
              refine (forall₂_mem rows).imp fun entry entry' ⟨member, member', column, values⟩ => ⟨column, ?_⟩
              rcases values with same | ⟨type, known, rfl, field, own, hidden, named⟩
              · exact .inl same
              · obtain ⟨table'', found'', laid, _⟩ := shaped.entities type known
                cases found''.symm.trans found
                have distinct := columns_distinct laid
                have own' : field ∈ type.fields := List.mem_cons_of_mem _ own
                refine .inr ⟨type, known, rfl, field, own, hidden, named, ?_, ?_⟩
                · exact typed.entry known found distinct stored own' member named
                · refine typed'.entry known found' (tables.columns ▸ distinct) stored' own' ?_ (named.trans ?_)
                  · rw [tables.columns]
                    exact member'
                  · rw [column]

end

theorem like_replace {cover : Cover} {database : Database} {name : String} {table changed : Table}
    (found : database.table? name = some table) (named : changed.name = name)
    (like : Table.Like (cover name) table changed) : database.Like cover (database.replace changed) := by
  intro wanted
  rw [table?_replace changed found named]
  split
  · rename_i same
    rw [same, found]
    exact .some like
  · cases database.table? wanted with
    | none => exact .none
    | some other =>
        exact .some ⟨rfl, List.forall₂_same.mpr fun _ _ => List.forall₂_same.mpr fun _ _ => ⟨rfl, .inl rfl⟩⟩

/-! APIs that hide attributes by their settings. -/

/-- The APIs that come of registering types of a schema, with neither processors nor serializers of their own. -/
inductive Api.Unprocessed (schema : Schema) (config : ApiConfig) : Api → Prop
  | start : Api.Unprocessed schema config (.ofSchema schema config)
  | register {api next : Api} {type : String} {settings : ResourceConfig}
      (before : Api.Unprocessed schema config api) (plain : settings.Plain) (default : settings.serializer = none)
      (done : api.register type settings = .ok next) : Api.Unprocessed schema config next

/-- An attribute that the settings of its type hide, and that is no part of the primary key. -/
def Api.Hidden (api : Api) : Secrets := fun type name =>
  name ∉ type.primaryKey ∧ ∃ settings visibility, api.resources.get? type.name = some settings ∧
    settings.visibility = .ok visibility ∧ visibility.exposes name = false

section

variable {schema : Schema} {config : ApiConfig} {api : Api}

/-- What registering types gives: no serializers and no processors, and the visibility that the settings ask for. -/
theorem Api.Unprocessed.settled (unprocessed : Api.Unprocessed schema config api) :
    api.schema = schema ∧ api.assembler.serializers = [] ∧ (∀ entry ∈ api.resources, entry.2.Plain) ∧
      ∀ name settings, api.resources.get? name = some settings →
        settings.visibility = .ok (api.assembler.visibility name) := by
  induction unprocessed with
  | start => exact ⟨rfl, rfl, nofun, nofun⟩
  | @register api next type settings _ plain default done ih =>
      obtain ⟨same, serializers, plains, visible⟩ := ih
      unfold Api.register at done
      dsimp only at done
      split at done
      · cases done
      obtain ⟨visibility, chosen, done⟩ := bind_ok done
      rw [default] at done
      cases done
      refine ⟨same, serializers, fun entry member => ?_, fun name given found => ?_⟩
      · rcases Keyed.mem_put member with rfl | old
        · exact plain
        · exact plains entry old
      · unfold Keyed.get? at found
        unfold Assembler.visibility Assembler.setVisibility Keyed.get?
        dsimp only
        rw [Keyed.lookup_put] at found ⊢
        split at found
        · rename_i same
          cases found
          rw [if_pos same, chosen]
          rfl
        · rename_i other
          rw [if_neg other]
          exact visible name given found

theorem Api.Unprocessed.serializer (unprocessed : Api.Unprocessed schema config api) (name : String) :
    api.assembler.serializer name = Serializer.default := by
  unfold Assembler.serializer
  rw [unprocessed.settled.2.1]
  rfl

end

/-- Requests that read and that do not filter or sort by hidden attributes are answered alike on databases that
differ only in hidden attributes. -/
theorem hidden_attributes_do_not_show {schema : Schema} {config : ApiConfig} {api : Api}
    (unprocessed : Api.Unprocessed schema config api) (formed : schema.Formed) (tables : schema.TablesDistinct)
    (columns : schema.ColumnsDistinct) (keys : schema.KeysApart)
    (unaliased : ∀ type ∈ schema.types, Unaliased (tableName type))
    (reserved : ∀ type ∈ schema.types, tableName type ≠ "rel_owner" ∧ tableName type ≠ "rel_link")
    {left right : Database} (shaped : Shaped schema left) (typed : FieldsTyped schema left)
    (typed' : FieldsTyped schema right) (differ : DifferOnly schema api.Hidden left right)
    (now : Timestamp) {request : Request} (reading : request.verb = .get)
    (spares : ∀ endpoint parameters, api.route request.url.path = .ok (endpoint, .collection) →
      parametersOf request = .ok parameters → parameters.Spares schema now api.Hidden endpoint.type) :
    (handle api now request left).response = (handle api now request right).response := by
  obtain ⟨rfl, _, plain, visible⟩ := unprocessed.settled
  have hides : api.assembler.Hides api.schema api.Hidden := by
    refine ⟨unprocessed.serializer, fun type known field own exposed hidden => ?_⟩
    obtain ⟨_, settings, visibility, found, chosen, unexposed⟩ := hidden
    cases (visible _ _ found).symm.trans chosen
    exact Bool.false_ne_true (unexposed.symm.trans exposed)
  have discreet : Discreet api api.Hidden :=
    ⟨⟨formed, tables, columns, keys⟩, unaliased, reserved, hides, fun _ _ _ part hidden => hidden.1 part⟩
  have dispatched := dispatch_parallel discreet (differ.like shaped typed typed') plain reading spares
  have begun : Handled left right ⟨⟨left, none, []⟩, []⟩ ⟨⟨right, none, []⟩, []⟩ := ⟨rfl, rfl⟩
  rw [handle_response, handle_response, (dispatched.sound begun).1.eq]

/-! Authors whose names are hidden. -/

namespace Shelf

def nameless : ResourceConfig := { exclude := ["name"] }

def authorsOnly : Api :=
  { Api.ofSchema schema {} with
    resources := [("author", nameless)]
    assembler := ⟨"/api", [("author", "/api/author")], [], [("author", .except ["name"])]⟩ }

def anonymous : Api :=
  { Api.ofSchema schema {} with
    resources := [("author", nameless), ("book", {})]
    assembler := ⟨"/api", [("author", "/api/author"), ("book", "/api/book")], [],
      [("author", .except ["name"]), ("book", .all)]⟩ }

theorem anonymous_unprocessed : Api.Unprocessed schema {} anonymous := by
  have first : Api.Unprocessed schema {} authorsOnly :=
    .register .start ⟨rfl, rfl⟩ rfl (rfl : (Api.ofSchema schema {}).register "author" nameless = .ok authorsOnly)
  exact .register first ⟨rfl, rfl⟩ rfl (rfl : authorsOnly.register "book" {} = .ok anonymous)

def renamed : Database :=
  tables.replace ⟨"author", [⟨"id", .serial⟩, ⟨"name", .text⟩], [[0]], [[.integer 1, .text "Bea"]], 2⟩

theorem name_hidden : anonymous.Hidden author "name" :=
  ⟨by decide, nameless, .except ["name"], rfl, rfl, rfl⟩

theorem renamed_differs : DifferOnly schema anonymous.Hidden tables renamed := by
  have found : tables.table? "author" = some ⟨"author", [⟨"id", .serial⟩, ⟨"name", .text⟩], [[0]],
      [[.integer 1, .text "Ann"]], 2⟩ := rfl
  refine like_replace found rfl ⟨rfl, .cons (.cons ⟨rfl, .inl rfl⟩ (.cons ⟨rfl, .inr ?_⟩ .nil)) .nil⟩
  exact ⟨author, List.mem_cons_self, by decide, ⟨"name", .string, false⟩, List.mem_cons_self, name_hidden,
    by decide +kernel⟩

def browsing : Request :=
  ⟨.get, ⟨"http", some (.ofHost "localhost"), "/api/book", some "sort=title&include=author", none⟩, none⟩

theorem browsing_spares (endpoint : Endpoint) (parameters : Parameters)
    (routed : anonymous.route browsing.url.path = .ok (endpoint, .collection))
    (read : parametersOf browsing = .ok parameters) :
    parameters.Spares schema Client.now anonymous.Hidden endpoint.type := by
  have given : parametersOf browsing = .ok { sort := .byKeys [⟨false, ["title"]⟩], include? := some ["author"] } := rfl
  have reached : anonymous.route browsing.url.path = .ok (⟨book, {}⟩, .collection) := rfl
  cases reached.symm.trans routed
  cases given.symm.trans read
  refine ⟨fun predicate resolved => ?_, fun keys asked key member resolved run => ?_⟩
  · cases resolved
    rintro _ _ (⟨⟨⟩, _⟩)
  · cases asked
    cases List.mem_singleton.mp member
    cases run
    rintro last ⟨⟩ ⟨_, settings, visibility, found, chosen, unexposed⟩
    cases found
    cases chosen
    cases unexposed

end Shelf

/-- A change of a hidden name does not show where books are listed with their authors. -/
theorem books_show_no_names :
    DifferOnly Shelf.schema Shelf.anonymous.Hidden Shelf.tables Shelf.renamed ∧ Shelf.tables ≠ Shelf.renamed ∧
      (handle Shelf.anonymous Client.now Shelf.browsing Shelf.tables).response.status = 200 ∧
      (handle Shelf.anonymous Client.now Shelf.browsing Shelf.tables).response =
        (handle Shelf.anonymous Client.now Shelf.browsing Shelf.renamed).response := by
  have unaliased : ∀ type ∈ Shelf.schema.types, Unaliased (tableName type) := by
    intro type known
    simp only [Shelf.schema, List.mem_cons, List.not_mem_nil, or_false] at known
    rcases known with rfl | rfl <;> exact unaliased_of_head (by decide)
  have valid : Schema.ofTypes [Shelf.author, Shelf.book] = .ok Shelf.schema := rfl
  have typed : FieldsTyped Shelf.schema Shelf.tables := by
    unfold FieldsTyped
    decide +kernel
  have typed' : FieldsTyped Shelf.schema Shelf.renamed := by
    unfold FieldsTyped
    decide +kernel
  refine ⟨Shelf.renamed_differs, by decide, by decide +kernel, ?_⟩
  exact hidden_attributes_do_not_show Shelf.anonymous_unprocessed (ofTypes_formed valid) Shelf.tablesDistinct
    Shelf.columnsDistinct Shelf.keysApart unaliased (by decide) Shelf.stored.shaped typed typed'
    Shelf.renamed_differs Client.now rfl Shelf.browsing_spares

end ResourceServer
