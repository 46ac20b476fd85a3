import Mathlib.Tactic.SplitIfs
import ResourceServer.Parameters
import ResourceServer.Proofs.Counting
import ResourceServer.Proofs.FilterValues
import ResourceServer.Proofs.PartialLoading
import ResourceServer.Proofs.PartialRendering
import ResourceServer.Proofs.SortedQueries

/-! Pages of a list: each is a stretch of it, and together they are the list. -/

namespace ResourceServer.Paging

variable {total size number : Nat}

theorem pageCount_positive (sized : 0 < size) : 1 ≤ pageCount total size := by
  unfold pageCount
  split
  · exact Nat.le_refl 1
  · exact (Nat.one_le_div_iff sized).mpr (by omega)

theorem pageCount_le (sized : 0 < size) : pageCount total size ≤ max total 1 := by
  unfold pageCount
  split
  · omega
  · have few : (total + size - 1) / size ≤ total := by
      have least := Nat.le_mul_of_pos_left total sized
      rw [Nat.div_le_iff_le_mul_add_pred sized]
      omega
    omega

theorem total_le_pages (sized : 0 < size) : total ≤ pageCount total size * size := by
  unfold pageCount
  split
  · omega
  · have rounded := Nat.lt_div_mul_add (a := total + size - 1) sized
    omega

theorem offset_le (sized : 0 < size) (within : number ≤ pageCount total size) :
    (number - 1) * size ≤ total := by
  unfold pageCount at within
  split at within
  · have first : number - 1 = 0 := by omega
    rw [first, Nat.zero_mul]
    exact Nat.zero_le total
  · have whole := Nat.mul_le_of_le_div size number (total + size - 1) within
    rw [Nat.sub_mul]
    omega

theorem window_page (sized : 0 < size) (within : number ≤ pageCount total size) (countable : total ≤ maxCount) :
    PageRequest.window? ⟨size, number⟩ = some ⟨(number - 1) * size, size⟩ := by
  have small := Nat.le_trans (offset_le sized within) countable
  simp [PageRequest.window?, PageRequest.isPaginated, PageRequest.offset, sized, Nat.min_eq_left small]

theorem make_page (sized : 0 < size) {maximum : Nat} (allowed : size ≤ maximum) (counts : 0 < number) :
    PageRequest.make size number maximum = .ok ⟨size, number⟩ := by
  unfold PageRequest.make
  rw [if_neg (by omega), if_neg (by omega), if_neg (by omega), if_neg (by omega), if_neg (by omega)]
  simp only [Int.toNat_natCast, Nat.max_eq_left counts]

theorem make_size {size number : Int} {maximum : Nat} {request : PageRequest}
    (made : PageRequest.make size number maximum = .ok request) : request.size = size.toNat := by
  unfold PageRequest.make at made
  split_ifs at made
  cases made
  rfl

theorem next_page (sized : 0 < size) (number : Nat) :
    (paginate total ⟨size, number⟩).next =
      if number < pageCount total size then some (number + 1) else none := by
  simp [paginate, PageRequest.isPaginated, sized]

theorem total_page (request : PageRequest) : (paginate total request).total = total := by
  unfold paginate
  split <;> rfl

section

variable {α : Type}

def pageOf (items : List α) (size number : Nat) : List α :=
  (items.drop ((number - 1) * size)).take size

theorem drop_page (items : List α) (size : Nat) {number : Nat} (counts : 0 < number) :
    items.drop ((number - 1) * size) = pageOf items size number ++ items.drop (number * size) := by
  have further : items.drop (number * size) = (items.drop ((number - 1) * size)).drop size := by
    rw [List.drop_drop, ← Nat.succ_mul]
    congr
    omega
  rw [further]
  exact (List.take_append_drop size _).symm

theorem drop_pages (items : List α) (sized : 0 < size) :
    items.drop (pageCount items.length size * size) = [] :=
  List.drop_eq_nil_of_le (total_le_pages sized)

end

end ResourceServer.Paging

/-! A query returns the resources of stored records, and each record once. -/

namespace ResourceServer

open ResourceServer.Store ResourceServer.Mapping ResourceServer.Api ResourceServer.Paging
open ResourceServer.Calendar ResourceServer.Filter ResourceServer.Sorting
open ResourceServer.Filter (Predicate)
open ResourceServer.Sorting (OrderKey)

section

variable {α β ε : Type}

theorem filterM_sublist {test : α → Except ε Bool} {items kept : List α}
    (run : items.filterM test = .ok kept) : kept.Sublist items := by
  let passing (item : α) : Bool := (test item).toOption.getD false
  have each : ∀ item ∈ items, test (id item) = .ok (passing item) := by
    intro item member
    cases outcome : test item with
    | ok passes => simp only [passing, id, outcome, Except.toOption, Option.getD]
    | error error =>
        obtain ⟨_, stopped⟩ := filterM_error member outcome
        rw [run] at stopped
        cases stopped
  have filtered := filterM_map_ok passing each
  rw [List.map_id, List.map_id, run] at filtered
  cases filtered
  exact List.filter_sublist

theorem forall₂_sublist {relation : α → β → Prop} {items : List α} {values part : List β}
    (aligned : List.Forall₂ relation items values) (inside : part.Sublist values) :
    ∃ some, some.Sublist items ∧ List.Forall₂ relation some part := by
  induction inside generalizing items with
  | slnil =>
      cases aligned
      exact ⟨[], .slnil, .nil⟩
  | cons value _ ih =>
      cases aligned with
      | cons _ rest =>
          obtain ⟨some, inside, related⟩ := ih rest
          exact ⟨some, inside.cons _, related⟩
  | cons_cons value _ ih =>
      cases aligned with
      | cons one rest =>
          obtain ⟨some, inside, related⟩ := ih rest
          exact ⟨_, inside.cons_cons _, .cons one related⟩

end

section

variable {schema : Schema} {type : EntityType} {predicate : Predicate} {ordering : List OrderKey}
  {connection : Connection} {resources : List Instance}

theorem query_records (formed : schema.Formed) (distinct : schema.ColumnsDistinct)
    (shaped : Shaped schema connection.database) (known : type ∈ schema.types)
    (unsorted : Unsorted (tableName type) 1)
    (leads : ∀ key ∈ ordering, LeadsOne schema connection.database type key.path)
    (run : (execute (Mapping.query schema type { predicate, ordering }) connection).1 =
      .ok resources) :
    ∃ records, records.Subperm (connection.database.records (tableName type)) ∧
      List.Forall₂ (fun record resource => readRecord type record = .ok resource) records resources := by
  obtain ⟨scopes, ⟨compiled, sorted, scanned, tested, arranged⟩, read⟩ := query_ok_iff.mp run
  rename_i clause joined order rows kept
  obtain ⟨table, found, laid, wide⟩ := shaped.entities type known
  have alone : KeepsEach schema connection.database type table ⟨[], []⟩ _ :=
    keepsEach_alone found wide unsorted
  obtain ⟨⟨grown, keeps⟩, _⟩ := alone.order formed distinct shaped leads sorted
  cases keeps.scanned.symm.trans scanned
  have paired : List.Forall₂ (fun row scope => row ∈ table.rows ∧
      Widened schema connection.database type table joined row scope) table.rows rows :=
    (List.forall₂_and_left _ _).mpr ⟨fun row member => member, keeps.rows⟩
  obtain ⟨part, inside, aligned⟩ := forall₂_sublist paired (filterM_sublist tested)
  obtain ⟨placed, related, moved⟩ := List.perm_comp_forall₂ (sorted_perm arranged) aligned.flip
  have present : ∀ field ∈ type.fields, table.Has (columnName field.name) := fun field member =>
    ⟨_, field_column laid (distinct type known) member, rfl⟩
  refine ⟨placed.map table.record, ?_, ?_⟩
  · rw [records_of_table found]
    exact (moved.map table.record).subperm.trans (inside.map table.record).subperm
  · rw [List.forall₂_map_left_iff]
    refine forall₂_comp related.flip read fun {row scope resource} one reads => ?_
    obtain ⟨member, widened⟩ := one
    obtain ⟨cells, projected, read⟩ := reads
    have fields := project_fields (widened.binds (wide row member)) present []
    cases fields.symm.trans projected
    exact read

theorem query_resources (formed : schema.Formed) (distinct : schema.ColumnsDistinct)
    (shaped : Shaped schema connection.database) (unique : IdsUnique schema connection.database)
    (known : type ∈ schema.types) (unsorted : Unsorted (tableName type) 1)
    (leads : ∀ key ∈ ordering, LeadsOne schema connection.database type key.path)
    (run : (execute (Mapping.query schema type { predicate, ordering }) connection).1 =
      .ok resources) :
    (∀ resource ∈ resources, IsResource schema connection.database resource) ∧
      (resources.map Instance.identifier).Nodup ∧
      resources.length ≤ (connection.database.records (tableName type)).length := by
  obtain ⟨records, inside, read⟩ := query_records formed distinct shaped known unsorted leads run
  refine ⟨fun resource member => ?_, ?_, read.length_eq ▸ inside.length_le⟩
  · obtain ⟨record, among, one⟩ := mem_of_forall₂ read.flip member
    exact ⟨type, known, record, inside.subset among, one⟩
  · have written : records.filterMap (writtenId type) = resources.map Instance.id := by
      clear inside run
      induction read with
      | nil => rfl
      | cons one _ ih => rw [List.filterMap_cons, writtenId_ok one, List.map_cons, ih]
    obtain ⟨part, moved, sublist⟩ := inside
    have once : (resources.map Instance.id).Nodup := by
      rw [← written, ← (moved.filterMap (writtenId type)).nodup_iff]
      exact (unique type known).sublist (sublist.filterMap (writtenId type))
    exact List.Nodup.of_map Identifier.id (by rwa [List.map_map])

end

/-! A page of a collection that can be read as a whole is read, and shows a stretch of it. -/

/-- An API over stored resources that pages can be made of: its tables are those of an accepted schema and are
told apart from generated names, no two resources have one identity, there are no more of them than can be
numbered, and what is rendered is named. -/
structure Pageable (api : Api) (database : Database) : Prop where
  valid : ∃ types, Schema.ofTypes types = .ok api.schema
  columns : api.schema.ColumnsDistinct
  unaliased : ∀ type ∈ api.schema.types, Unaliased (tableName type)
  reserved : ∀ type ∈ api.schema.types, tableName type ≠ "rel_owner" ∧ tableName type ≠ "rel_link"
  shaped : Shaped api.schema database
  unique : IdsUnique api.schema database
  countable : ∀ type ∈ api.schema.types,
    ((database.records (tableName type)).length : Int) ≤ Number.maxInteger
  steady : ∀ name, (api.assembler.serializer name).Steady

section

variable {api : Api} {database : Database}

theorem Pageable.formed (pageable : Pageable api database) : api.schema.Formed :=
  let ⟨_, valid⟩ := pageable.valid
  ofTypes_formed valid

theorem Pageable.accessible (pageable : Pageable api database) : Accessible api.schema database :=
  ⟨pageable.formed, pageable.columns, pageable.reserved, pageable.shaped⟩

variable {endpoint : Endpoint} {parameters : Parameters} {predicate : Predicate} {ordering : List OrderKey}
  {resources : List Instance} {included : Option (List Instance)}

/-- A collection as a whole: its resources in their order, and what is included with them, which can all be
presented. -/
structure Collects (api : Api) (database : Database) (endpoint : Endpoint) (parameters : Parameters)
    (predicate : Predicate) (ordering : List OrderKey) (resources : List Instance)
    (included : Option (List Instance)) : Prop where
  sorted : Sorting.resolve api.schema endpoint.type parameters.sort = .ok ordering
  queried : ∀ connection, connection.database = database →
    (execute (Mapping.query api.schema endpoint.type { predicate, ordering }) connection).1 = .ok resources
  followed : Runs database (includeFor api.schema endpoint.type endpoint.config parameters resources) included
  presented : ∀ resource ∈ resources ++ included.getD [],
    Assembler.Presents api.schema database api.assembler parameters.fields resource

theorem runs_query {schema : Schema} {type : EntityType}
    (run : Runs database (SourceAction.reading (Mapping.query schema type { predicate, ordering })) resources)
    (connection : Connection) (here : connection.database = database) :
    (execute (Mapping.query schema type { predicate, ordering }) connection).1 = .ok resources := by
  obtain ⟨start, same, given⟩ := runs_reading run
  have scopes := query_ok_iff.mp given
  rw [same, ← here] at scopes
  exact query_ok_iff.mpr scopes

theorem page_whole (whole : parameters.pageSize = some 0) {size maximum : Nat} {request : PageRequest}
    (paged : parameters.page size maximum = .ok request) :
    request.isPaginated = false ∧ request.window? = none := by
  unfold Parameters.page at paged
  rw [whole, Option.getD_some] at paged
  have none : request.size = 0 := make_size paged
  simp [PageRequest.window?, PageRequest.isPaginated, none]

theorem page_numbered {size number maximum : Nat} (sized : 0 < size) (allowed : size ≤ maximum)
    (counts : 0 < number) {asked : Option Int} (named : asked.getD 1 = number) (fallback : Nat) :
    ({ parameters with pageSize := some (size : Int), pageNumber := asked } : Parameters).page fallback maximum =
      .ok ⟨size, number⟩ := by
  unfold Parameters.page
  rw [Option.getD_some, named]
  exact make_page sized allowed counts

theorem runs_collectionDocument (pageable : Pageable api database) {now : Timestamp} {request : Request}
    (whole : parameters.pageSize = some 0) {document : Document}
    (run : Runs database (collectionDocument api now endpoint request parameters) document) :
    ∃ predicate ordering resources included objects,
      resolveAll api.schema now endpoint.type parameters.filters = .ok predicate ∧
        Collects api database endpoint parameters predicate ordering resources included ∧
          document.data = some (.array objects) ∧ Assembler.Names resources objects := by
  unfold collectionDocument at run
  obtain ⟨predicate, filtered, run⟩ := runs_bind (keeps_ofExcept _) run
  obtain ⟨ordering, sorted, run⟩ := runs_bind (keeps_ofExcept _) run
  obtain ⟨page, paged, run⟩ := runs_bind (keeps_ofExcept _) run
  obtain ⟨resources, queried, run⟩ := runs_bind (reading_keeps (query_keeps ..)) run
  have filtered := mapError_ok (runs_ofExcept filtered)
  have sorted := mapError_ok (runs_ofExcept sorted)
  obtain ⟨alone, unlimited⟩ := page_whole whole (mapError_ok (runs_ofExcept paged))
  rw [alone] at run
  rw [unlimited] at queried
  obtain ⟨total, _, run⟩ := runs_bind (keeps_pure _) run
  obtain ⟨included, followed, run⟩ := runs_bind (include_keeps ..) run
  obtain ⟨presented, objects, data, names⟩ := Assembler.runs_assemble pageable.accessible pageable.steady run
  exact ⟨predicate, ordering, resources, included, objects, filtered,
    ⟨sorted, runs_query queried, followed, presented⟩, data, names⟩

section

variable (pageable : Pageable api database) (known : endpoint.type ∈ api.schema.types)
  (collects : Collects api database endpoint parameters predicate ordering resources included)
  (leads : ∀ key ∈ ordering, LeadsOne api.schema database endpoint.type key.path)

include pageable known collects leads

theorem Collects.stored : (∀ resource ∈ resources, IsResource api.schema database resource) ∧
    (resources.map Instance.identifier).Nodup ∧
      resources.length ≤ (database.records (tableName endpoint.type)).length := by
  have queried := collects.queried ⟨database, none, []⟩ rfl
  have unsorted := (pageable.unaliased endpoint.type known).unsorted
  exact query_resources pageable.formed pageable.columns pageable.shaped pageable.unique known unsorted leads
    queried

theorem Collects.includes {part : List Instance} (among : ∀ resource ∈ part, resource ∈ resources) :
    Delivers database (includeFor api.schema endpoint.type endpoint.config parameters part) fun others =>
      ∀ resource ∈ part ++ others.getD [],
        Assembler.Presents api.schema database api.assembler parameters.fields resource := by
  have roots : ∀ resource ∈ part,
      Assembler.Presents api.schema database api.assembler parameters.fields resource :=
    fun resource member => collects.presented resource (List.mem_append_left _ (among resource member))
  have followed := collects.followed
  have presented := collects.presented
  unfold includeFor at followed ⊢
  dsimp only at followed ⊢
  split at followed
  · rename_i none
    rw [if_pos none]
    refine delivers_pure fun resource member => ?_
    rw [Option.getD_none, List.append_nil] at member
    exact roots resource member
  · rename_i paths
    rw [if_neg paths]
    obtain ⟨all, run, same⟩ := runs_bind (resolve_keeps ..) followed
    rw [runs_pure same] at presented
    -- What the part includes, the whole includes or shows: it is the same resource, for there is one of its name.
    have every : ∀ resource ∈ resources ++ all, IsResource api.schema database resource := by
      intro resource member
      rcases List.mem_append.mp member with root | other
      · exact (collects.stored pageable known leads).1 resource root
      · have within : ∀ root ∈ resources, root ∈ resources := fun _ root => root
        exact ((Inclusion.resolve_part pageable.accessible known within run).of_runs run resource other).1
    refine (Inclusion.resolve_part pageable.accessible known among run).bind fun others found => ?_
    refine delivers_pure fun resource member => ?_
    rcases List.mem_append.mp member with root | other
    · exact roots resource root
    · obtain ⟨one, twin, inside, same⟩ := found resource other
      rw [← (every twin inside).unique pageable.formed pageable.unique one same]
      exact presented twin inside

theorem Collects.page {now : Timestamp}
    (filtered : resolveAll api.schema now endpoint.type parameters.filters = .ok predicate) {size number : Nat}
    (sized : 0 < size) (allowed : size ≤ endpoint.config.maxPageSize) (counts : 0 < number)
    (within : number ≤ pageCount resources.length size) {asked : Option Int} (named : asked.getD 1 = number)
    (request : Request) :
    Delivers database
      (collectionDocument api now endpoint request
        { parameters with pageSize := some (size : Int), pageNumber := asked })
      fun document => ∃ plain objects,
        document = Assembler.addPage plain request.url (paginate resources.length ⟨size, number⟩) ∧
          plain.data = some (.array objects) ∧ Assembler.Names (pageOf resources size number) objects := by
  have countable : resources.length ≤ maxCount := by
    have few := (collects.stored pageable known leads).2.2
    have bound := pageable.countable endpoint.type known
    have less : Number.maxInteger ≤ maxCount := by decide
    omega
  have paged : ({ parameters with pageSize := some (size : Int), pageNumber := asked } : Parameters).page
      endpoint.config.pageSize endpoint.config.maxPageSize = .ok ⟨size, number⟩ :=
    page_numbered sized allowed counts named _
  have queried : Delivers database (SourceAction.reading (Mapping.query api.schema endpoint.type
      ⟨predicate, ordering, some ⟨(number - 1) * size, size⟩⟩)) (· = pageOf resources size number) :=
    delivers_reading (query_keeps ..) fun start here =>
      ⟨_, query_window (collects.queried start here) _, rfl⟩
  have counted : Delivers database (SourceAction.reading (Mapping.count api.schema endpoint.type predicate))
      (· = resources.length) := by
    refine delivers_reading (count_keeps ..) ?_
    rintro start rfl
    exact ⟨_, query_counted pageable.formed pageable.columns pageable.shaped known
      (pageable.unaliased endpoint.type known).unsorted (resolveAll_accepted pageable.formed known filtered) leads
      (collects.queried start rfl), rfl⟩
  have among : ∀ resource ∈ pageOf resources size number, resource ∈ resources :=
    fun resource member => List.drop_subset _ _ (List.take_subset _ _ member)
  unfold collectionDocument
  refine (delivers_ofExcept (congrArg (Except.mapError RequestError.filter) filtered)).bind ?_
  rintro predicate rfl
  refine (delivers_ofExcept (congrArg (Except.mapError RequestError.sort) collects.sorted)).bind ?_
  rintro ordering rfl
  refine (delivers_ofExcept (congrArg (Except.mapError RequestError.page) paged)).bind ?_
  rintro _ rfl
  rw [window_page sized within countable]
  refine queried.bind ?_
  rintro _ rfl
  have paginated : PageRequest.isPaginated ⟨size, number⟩ = true := decide_eq_true sized
  dsimp only
  rw [if_pos paginated]
  refine counted.bind ?_
  rintro _ rfl
  refine (collects.includes pageable known leads among).bind fun others presented => ?_
  exact Assembler.delivers_assemble pageable.accessible pageable.steady presented _

end

end

end ResourceServer

/-! Answers to requests for collections. -/

namespace ResourceServer

open ResourceServer.Store ResourceServer.Api ResourceServer.Paging ResourceServer.Calendar
open ResourceServer.Filter (Node Predicate resolveAll)
open ResourceServer.Sorting (OrderKey)

/-- The identifiers of the resources in a document's data. -/
def Document.identifiers? (document : Document) : Option (List Identifier) :=
  match document.data with
  | some (.array objects) => objects.mapM Json.identifier?
  | _ => none

theorem Document.data_isSome {document : Document} {identifiers : List Identifier}
    (identified : document.identifiers? = some identifiers) : document.data.isSome := by
  unfold Document.identifiers? at identified
  split at identified
  · rename_i data
    rw [data]
    rfl
  · cases identified

/-- A request for a URL is answered with data. -/
structure Answers (api : Api) (now : Timestamp) (database : Database) (url : Url) (document : Document) :
    Prop where
  status : (handle api now ⟨.get, url, none⟩ database).response.status = 200
  body : (handle api now ⟨.get, url, none⟩ database).response.body = some document
  data : document.data.isSome

/-- Documents with the same data, links and meta information. -/
structure Document.SameContent (document other : Document) : Prop where
  data : document.data = other.data
  links : document.links = other.links
  metadata : document.metadata = other.metadata

/-- The processors of collections let every request pass, and leave the content of documents as it is. -/
structure Api.Endpoint.Transparent (endpoint : Endpoint) : Prop where
  before : ∀ processor ∈ endpoint.config.before .getCollection, ∀ context, processor context = .ok ()
  after : ∀ processor ∈ endpoint.config.after .getCollection, ∀ context document,
    (processor context document).SameContent document

section

variable {api : Api} {endpoint : Endpoint} {context : Context}

theorem execute_preprocess {processors : List Preprocessor}
    (pass : ∀ processor ∈ processors, ∀ context, processor context = .ok ()) (handling : Handling) :
    ∃ calls, execute (Handler.preprocess context processors) handling =
      (.ok (), { handling with calls := calls }) := by
  induction processors generalizing handling with
  | nil => exact ⟨handling.calls, rfl⟩
  | cons processor rest ih =>
      obtain ⟨calls, run⟩ := ih (fun other member => pass other (List.mem_cons_of_mem _ member))
        { handling with calls := handling.calls ++ [.before context] }
      refine ⟨calls, ?_⟩
      unfold Handler.preprocess Handler.note
      rw [execute_bind, execute_modify]
      dsimp only
      rw [pass processor List.mem_cons_self]
      exact run

theorem execute_postprocess {processors : List Postprocessor}
    (leave : ∀ processor ∈ processors, ∀ context document, (processor context document).SameContent document)
    (document : Document) (handling : Handling) :
    ∃ shown handling', execute (Handler.postprocess context document processors) handling =
      (.ok shown, handling') ∧ shown.SameContent document := by
  induction processors generalizing document handling with
  | nil => exact ⟨document, handling, rfl, rfl, rfl, rfl⟩
  | cons processor rest ih =>
      obtain ⟨shown, after, run, same⟩ := ih (fun other member => leave other (List.mem_cons_of_mem _ member))
        (processor context document) { handling with calls := handling.calls ++ [.after context true] }
      obtain ⟨data, links, metadata⟩ := leave processor List.mem_cons_self context document
      refine ⟨shown, after, ?_, same.data.trans data, same.links.trans links, same.metadata.trans metadata⟩
      unfold Handler.postprocess Handler.note
      rw [execute_bind, execute_modify]
      exact run

variable {url : Url} {parameters : Parameters}

theorem collection_response (routed : api.route url.path = .ok (endpoint, .collection))
    (allowed : endpoint.config.allows .get = true) (transparent : endpoint.Transparent)
    (read : Parameters.read (url.query.getD "") = .ok parameters) (now : Timestamp) (database : Database) :
    match (execute (collectionDocument api now endpoint ⟨.get, url, none⟩ parameters) ⟨database, none, []⟩).1 with
    | .ok document => ∃ shown, (handle api now ⟨.get, url, none⟩ database).response = .ofDocument 200 shown ∧
        shown.SameContent document
    | .error error => (handle api now ⟨.get, url, none⟩ database).response = .ofError error := by
  rw [handle_response, dispatch_routed routed, if_pos allowed]
  obtain ⟨calls, begun⟩ := execute_preprocess transparent.before ⟨⟨database, none, []⟩, []⟩
  unfold carryOutRoute getCollection answerDocument
  dsimp only
  rw [execute_bind, begun]
  dsimp only
  rw [execute_bind, execute_bind]
  have asked : Handler.ofExcept (parametersOf ⟨.get, url, none⟩) = (pure parameters : Handler Parameters) := by
    unfold parametersOf
    rw [read]
    rfl
  rw [asked, execute_pure]
  dsimp only
  rw [execute_source]
  dsimp only
  rcases (execute (collectionDocument api now endpoint ⟨.get, url, none⟩ parameters) ⟨database, none, []⟩) with
    ⟨result, connection⟩
  cases result with
  | error error => rfl
  | ok document =>
      obtain ⟨shown, handling, ended, same⟩ := execute_postprocess transparent.after document ⟨connection, calls⟩
      dsimp only
      rw [execute_bind, ended]
      exact ⟨shown, rfl, same⟩

theorem Answers.made {now : Timestamp} {database : Database} {document : Document}
    (answered : Answers api now database url document)
    (routed : api.route url.path = .ok (endpoint, .collection)) (transparent : endpoint.Transparent)
    (read : Parameters.read (url.query.getD "") = .ok parameters) :
    endpoint.config.allows .get = true ∧ ∃ plain,
      Runs database (collectionDocument api now endpoint ⟨.get, url, none⟩ parameters) plain ∧
        document.SameContent plain := by
  have served (error : RequestError) :
      (handle api now ⟨.get, url, none⟩ database).response ≠ .ofError error := by
    intro refused
    have shown := answered.body
    rw [refused] at shown
    cases shown
    cases answered.data
  have allowed : endpoint.config.allows .get = true := by
    by_contra refused
    refine served (.methodNotAllowed Verb.get.name url.path) ?_
    rw [handle_response, dispatch_routed routed, if_neg refused, execute_throw]
  have response := collection_response routed allowed transparent read now database
  refine ⟨allowed, ?_⟩
  rcases run : execute (collectionDocument api now endpoint ⟨.get, url, none⟩ parameters) ⟨database, none, []⟩ with
    ⟨result, finish⟩
  rw [run] at response
  cases result with
  | error error => exact absurd response (served error)
  | ok plain =>
      obtain ⟨shown, given, same⟩ := response
      have body := answered.body
      rw [given] at body
      cases body
      exact ⟨plain, ⟨_, _, rfl, run⟩, same⟩

theorem delivered_response (routed : api.route url.path = .ok (endpoint, .collection))
    (allowed : endpoint.config.allows .get = true) (transparent : endpoint.Transparent)
    (read : Parameters.read (url.query.getD "") = .ok parameters) {now : Timestamp} {database : Database}
    {holds : Document → Prop}
    (delivers : Delivers database (collectionDocument api now endpoint ⟨.get, url, none⟩ parameters) holds) :
    ∃ plain shown, holds plain ∧ (handle api now ⟨.get, url, none⟩ database).response = .ofDocument 200 shown ∧
      shown.SameContent plain := by
  obtain ⟨plain, finish, run, _, given⟩ := delivers ⟨database, none, []⟩ rfl
  have response := collection_response routed allowed transparent read now database
  rw [run] at response
  obtain ⟨shown, answered, same⟩ := response
  exact ⟨plain, shown, given, answered, same⟩

/-- Data that names resources has their identifiers. -/
theorem Document.SameContent.identifiers {document plain : Document} (same : document.SameContent plain)
    {objects : List Json} (data : plain.data = some (.array objects)) {resources : List Instance}
    (names : Assembler.Names resources objects) :
    document.identifiers? = some (resources.map Instance.identifier) := by
  unfold Document.identifiers?
  rw [same.data, data]
  dsimp only
  clear data
  induction names with
  | nil => rfl
  | cons one _ ih =>
      rw [List.mapM_cons, one, List.map_cons, ih]
      rfl

end

end ResourceServer
