import ResourceServer.Proofs.PageDocuments
import ResourceServer.Proofs.PageLinks

/-! Walks along the links to next pages: they read collections as a whole. -/

namespace ResourceServer

open ResourceServer.Store ResourceServer.Api ResourceServer.Paging ResourceServer.Calendar
open ResourceServer.Filter (Node Predicate resolveAll)
open ResourceServer.Sorting (OrderKey)

def Url.pageNumber? (url : Url) : Option Int :=
  (Parameters.read (url.query.getD "")).toOption.map fun parameters => parameters.pageNumber.getD 1

/-- The pages from a URL on, each asked for at a moment of its own, along the links to the next one until there is
none. -/
def walk (api : Api) : List Timestamp → Database → Url → Option (List (Url × Document))
  | [], _, _ => none
  | now :: later, database, url =>
    let outcome := handle api now ⟨.get, url, none⟩ database
    match outcome.response.status, outcome.response.body with
    | 200, some document =>
      match document.links.get? "next" with
      | some .null => some [(url, document)]
      | some (.string text) =>
        match Url.read text with
        | .ok next => (walk api later outcome.database next).map fun visited => (url, document) :: visited
        | .error _ => none
      | _ => none
    | _, _ => none

/-- A URL asks for a page of a collection: it is what its text is read as, it leads to the collection, and its
parameters are those of the collection but for the page. -/
structure AsksPage (api : Api) (endpoint : Endpoint) (parameters : Parameters) (size number : Nat) (url : Url) :
    Prop where
  canonical : Url.read url.text = .ok url
  routed : api.route url.path = .ok (endpoint, .collection)
  numbered : ∃ asked : Option Int, asked.getD 1 = number ∧ Parameters.read (url.query.getD "") =
    .ok { parameters with pageSize := some (size : Int), pageNumber := asked }

/-- A document is a page of a collection with some identifiers. -/
structure ShowsPage (identifiers : List Identifier) (size number : Nat) (url : Url) (document : Document) :
    Prop where
  next : document.links.get? "next" = some (if number < pageCount identifiers.length size
    then .string (url.withPage (number + 1)).text else .null)
  total : document.metadata.get? "total" = some (.integer identifiers.length)
  data : document.identifiers? = some (pageOf identifiers size number)

/-- What a walk visits are the pages from one on to the last, which all tell the same total, and together have the
identifiers from there on. -/
structure VisitsPages (identifiers : List Identifier) (size number : Nat) (visited : List (Url × Document)) :
    Prop where
  numbers : visited.map (fun visit => visit.1.pageNumber?) =
    (List.range' number (pageCount identifiers.length size + 1 - number)).map fun page : Nat => some (page : Int)
  totals : ∀ visit ∈ visited, visit.2.metadata.get? "total" = some (.integer identifiers.length)
  data : ∃ pages, visited.mapM (fun visit => visit.2.identifiers?) = some pages ∧
    pages.flatten = identifiers.drop ((number - 1) * size)

section

variable {api : Api} {database : Database} {endpoint : Endpoint} {parameters : Parameters} {size number : Nat}
  {url : Url}

theorem AsksPage.pageNumber (asks : AsksPage api endpoint parameters size number url) :
    url.pageNumber? = some (number : Int) := by
  obtain ⟨asked, named, read⟩ := asks.numbered
  unfold Url.pageNumber?
  rw [read]
  exact congrArg some named

theorem AsksPage.next (asks : AsksPage api endpoint parameters size number url) {next : Nat}
    (storable : (next : Int) ≤ Number.maxInteger) :
    AsksPage api endpoint parameters size next (url.withPage next) := by
  obtain ⟨asked, _, read⟩ := asks.numbered
  have given : url.query.isSome := by
    cases query : url.query with
    | some _ => rfl
    | none =>
        rw [query] at read
        cases congrArg (Except.map Parameters.pageSize) read
  exact ⟨Url.read_withPage asks.canonical given next, asks.routed, some (next : Int), rfl,
    Url.withPage_parameters read storable⟩

variable {identifiers : List Identifier} {document : Document} {visited : List (Url × Document)}

theorem visits_nothing (sized : 0 < size) :
    VisitsPages identifiers size (pageCount identifiers.length size + 1) [] := by
  refine ⟨?_, nofun, [], rfl, ?_⟩
  · rw [Nat.sub_self]
    rfl
  · rw [Nat.add_sub_cancel, drop_pages identifiers sized]
    rfl

theorem VisitsPages.cons (rest : VisitsPages identifiers size (number + 1) visited)
    (shows : ShowsPage identifiers size number url document) (numbered : url.pageNumber? = some (number : Int))
    (counts : 0 < number) (within : number ≤ pageCount identifiers.length size) :
    VisitsPages identifiers size number ((url, document) :: visited) := by
  obtain ⟨numbers, totals, pages, found, flat⟩ := rest
  refine ⟨?_, fun visit member => ?_, pageOf identifiers size number :: pages, ?_, ?_⟩
  · have interval : pageCount identifiers.length size + 1 - number =
        pageCount identifiers.length size + 1 - (number + 1) + 1 := by omega
    rw [List.map_cons, numbers, numbered, interval, List.range'_succ, List.map_cons]
  · rcases List.mem_cons.mp member with rfl | other
    · exact shows.total
    · exact totals visit other
  · rw [List.mapM_cons, shows.data, found]
    rfl
  · rw [List.flatten_cons, flat, drop_page identifiers size counts]
    rfl

theorem walk_answered {now : Timestamp} {later : List Timestamp}
    (answered : (handle api now ⟨.get, url, none⟩ database).response = .ofDocument 200 document) :
    walk api (now :: later) database url =
      match document.links.get? "next" with
      | some .null => some [(url, document)]
      | some (.string text) =>
        match Url.read text with
        | .ok next => (walk api later database next).map fun visited => (url, document) :: visited
        | .error _ => none
      | _ => none := by
  rw [walk, answered, failed_or_reading_request_keeps_tables api now ⟨.get, url, none⟩ database (.inr rfl)]
  rfl

theorem walk_visits (sized : 0 < size)
    (storable : (pageCount identifiers.length size : Int) ≤ Number.maxInteger)
    (each : ∀ number url now, 0 < number → number ≤ pageCount identifiers.length size →
      AsksPage api endpoint parameters size number url → ∃ document,
        (handle api now ⟨.get, url, none⟩ database).response = .ofDocument 200 document ∧
          ShowsPage identifiers size number url document)
    {moments : List Timestamp} (asks : AsksPage api endpoint parameters size number url) (counts : 0 < number)
    (within : number ≤ pageCount identifiers.length size)
    (enough : pageCount identifiers.length size < number + moments.length) :
    ∃ visited, walk api moments database url = some visited ∧ VisitsPages identifiers size number visited := by
  induction moments generalizing number url with
  | nil =>
      rw [List.length_nil] at enough
      omega
  | cons now later ih =>
      rw [List.length_cons] at enough
      obtain ⟨document, answered, shows⟩ := each number url now counts within asks
      rw [walk_answered answered, shows.next]
      rcases Nat.lt_or_eq_of_le within with more | last
      · have follows : AsksPage api endpoint parameters size (number + 1) (url.withPage (number + 1)) :=
          asks.next (by omega)
        obtain ⟨visited, walked, rest⟩ := ih follows (by omega) more (by omega)
        rw [if_pos more]
        dsimp only
        rw [follows.canonical]
        dsimp only
        rw [walked]
        exact ⟨_, rfl, rest.cons shows asks.pageNumber counts within⟩
      · rw [if_neg (by omega)]
        have rest : VisitsPages identifiers size (number + 1) [] := last ▸ visits_nothing sized
        exact ⟨_, rfl, rest.cons shows asks.pageNumber counts within⟩

end

theorem page_shown {api : Api} {database : Database} {endpoint : Endpoint} {parameters : Parameters}
    {predicate : Predicate} {ordering : List OrderKey} {resources : List Instance}
    {included : Option (List Instance)} {size number : Nat} {url : Url}
    (pageable : Pageable api database) (known : endpoint.type ∈ api.schema.types)
    (collects : Collects api database endpoint parameters predicate ordering resources included)
    (leads : ∀ key ∈ ordering, LeadsOne api.schema database endpoint.type key.path) {now : Timestamp}
    (filtered : resolveAll api.schema now endpoint.type parameters.filters = .ok predicate)
    (served : endpoint.config.allows .get = true) (transparent : endpoint.Transparent) (sized : 0 < size)
    (allowed : size ≤ endpoint.config.maxPageSize) (counts : 0 < number)
    (within : number ≤ pageCount resources.length size)
    (asks : AsksPage api endpoint parameters size number url) :
    ∃ document, (handle api now ⟨.get, url, none⟩ database).response = .ofDocument 200 document ∧
      ShowsPage (resources.map Instance.identifier) size number url document := by
  obtain ⟨asked, named, read⟩ := asks.numbered
  obtain ⟨_, document, ⟨plain, objects, rfl, data, names⟩, answered, same⟩ :=
    delivered_response asks.routed served transparent read
      (collects.page pageable known leads filtered sized allowed counts within named ⟨.get, url, none⟩)
  obtain ⟨next, total⟩ :=
    Assembler.addPage_next plain url (paginate resources.length ⟨size, number⟩)
  refine ⟨document, answered, ?_, ?_, ?_⟩
  · rw [same.links, List.length_map]
    refine next.trans (congrArg some ?_)
    rw [next_page sized]
    by_cases more : number < pageCount resources.length size
    · rw [if_pos more, if_pos more]
    · rw [if_neg more, if_neg more]
  · rw [same.metadata, List.length_map]
    exact total.trans (by rw [total_page])
  · rw [same.identifiers data names]
    unfold pageOf
    rw [List.map_take, List.map_drop]

namespace Shelf

def listing (page : String) : Url :=
  ⟨"http", some (.ofHost "[::1]"), "/api/book", some ("sort=author.name&" ++ page), none⟩

def listed : Parameters :=
  { sort := .byKeys [⟨false, ["author", "name"]⟩], pageSize := some 0 }

theorem answered : ∃ document, Answers api Client.now tables (listing "page[size]=0") document ∧
    document.identifiers? = some [⟨"book", "2"⟩, ⟨"book", "1"⟩, ⟨"book", "3"⟩] := by
  have run : (handle api Client.now ⟨.get, listing "page[size]=0", none⟩ tables).response.status = 200 ∧
      (handle api Client.now ⟨.get, listing "page[size]=0", none⟩ tables).response.body.bind
        Document.identifiers? = some [⟨"book", "2"⟩, ⟨"book", "1"⟩, ⟨"book", "3"⟩] := by
    decide +kernel
  obtain ⟨status, shown⟩ := run
  obtain ⟨document, body, identified⟩ := Option.bind_eq_some_iff.mp shown
  exact ⟨document, ⟨status, body, Document.data_isSome identified⟩, identified⟩

theorem pageable : Pageable api tables where
  valid := ⟨[author, book], rfl⟩
  columns := columnsDistinct
  unaliased := by
    intro type known
    simp only [api, Api.ofSchema, schema, List.mem_cons, List.not_mem_nil, or_false] at known
    rcases known with rfl | rfl <;> exact unaliased_of_head (by decide +kernel)
  reserved := by decide +kernel
  shaped := stored.shaped
  unique := by decide +kernel
  countable := by decide +kernel
  steady := fun _ => default_steady

theorem asks_first : AsksPage api ⟨book, {}⟩ listed 2 1 (listing "page[size]=2") where
  canonical := by decide +kernel
  routed := rfl
  numbered := ⟨none, rfl, rfl⟩

theorem listing_leads : ∀ ordering, Sorting.resolve api.schema book listed.sort = .ok ordering →
    ∀ key ∈ ordering, LeadsOne api.schema tables book key.path := by
  intro ordering resolved key member
  cases resolved
  rw [List.mem_singleton.mp member]
  exact leads_to_one _ List.mem_cons_self

end Shelf

end ResourceServer
