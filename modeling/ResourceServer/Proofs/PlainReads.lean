import ResourceServer.Proofs.Filtering
import ResourceServer.Proofs.RouteOrder

/-! Reading without a query string. What the server adds to such a request by default is never the client's fault,
except that the inclusions of a type are also followed from the types related to it that are not served. -/

namespace ResourceServer

open ResourceServer.Store ResourceServer.Mapping ResourceServer.Api ResourceServer.Calendar

section

variable {σ ε α β : Type} {possible : ε → Prop}

/-- A step fails in no other ways than those that are possible. -/
structure FailsOnly (possible : ε → Prop) (step : ExceptT ε (StateM σ) α) : Prop where
  sound : ∀ {state next : σ} {error : ε}, execute step state = (.error error, next) → possible error

theorem failsOnly_pure (value : α) : FailsOnly possible (pure value : ExceptT ε (StateM σ) α) :=
  ⟨fun run => nomatch run⟩

theorem failsOnly_throw {error : ε} (fits : possible error) :
    FailsOnly possible (throw error : ExceptT ε (StateM σ) α) :=
  ⟨fun run => by cases run; exact fits⟩

theorem failsOnly_bind {step : ExceptT ε (StateM σ) α} {next : α → ExceptT ε (StateM σ) β}
    (first : FailsOnly possible step) (then_ : ∀ value, FailsOnly possible (next value)) :
    FailsOnly possible (step >>= next) := by
  refine ⟨fun {state _ _} run => ?_⟩
  rw [execute_bind] at run
  rcases outcome : execute step state with ⟨result, middle⟩
  rw [outcome] at run
  cases result with
  | error error =>
      cases run
      exact first.sound outcome
  | ok value => exact (then_ value).sound run

theorem failsOnly_mapM {items : List α} {step : α → ExceptT ε (StateM σ) β}
    (each : ∀ item ∈ items, FailsOnly possible (step item)) : FailsOnly possible (items.mapM step) := by
  induction items with
  | nil => exact failsOnly_pure []
  | cons item rest ih =>
      rw [List.mapM_cons]
      exact failsOnly_bind (each item List.mem_cons_self) fun _ =>
        failsOnly_bind (ih fun other member => each other (List.mem_cons_of_mem _ member)) fun _ => failsOnly_pure _

theorem failsOnly_foldlM {items : List α} {step : β → α → ExceptT ε (StateM σ) β}
    (each : ∀ value item, FailsOnly possible (step value item)) (start : β) :
    FailsOnly possible (items.foldlM step start) := by
  induction items generalizing start with
  | nil => exact failsOnly_pure start
  | cons item rest ih =>
      rw [List.foldlM_cons]
      exact failsOnly_bind (each start item) ih

theorem failsOnly_ofExcept {result : Except ε α} (fits : ∀ error, result = .error error → possible error) :
    FailsOnly possible (Action.ofExcept result) := by
  refine ⟨fun {connection _ error} run => ?_⟩
  rw [execute_ofExcept] at run
  exact fits error (congrArg Prod.fst run)

end

section

variable {α : Type} {possible : RequestError → Prop}

theorem failsOnly_source {action : SourceAction α} (inner : FailsOnly possible action) :
    FailsOnly possible (Handler.source action) := by
  refine ⟨fun {handling _ _} run => ?_⟩
  rw [execute_source] at run
  rcases outcome : execute action handling.connection with ⟨result, after⟩
  rw [outcome] at run
  cases run
  exact inner.sound outcome

theorem failsOnly_mapError {δ : Type} {action : Action δ α} {convert : δ → RequestError}
    (fits : ∀ error, possible (convert error)) : FailsOnly possible (action.mapError convert) := by
  refine ⟨fun {connection _ _} run => ?_⟩
  rw [execute_mapError] at run
  cases outcome : (execute action connection).1 with
  | ok value =>
      rw [outcome] at run
      cases congrArg Prod.fst run
  | error error =>
      rw [outcome] at run
      cases congrArg Prod.fst run
      exact fits error

theorem failsOnly_result {result : Except RequestError α} (fits : ∀ error, result = .error error → possible error) :
    FailsOnly possible (Handler.ofExcept result) := by
  unfold Handler.ofExcept
  split
  · exact failsOnly_pure _
  · exact failsOnly_throw (fits _ rfl)

theorem failsOnly_note (call : Call) : FailsOnly possible (Handler.note call) :=
  ⟨fun run => nomatch run⟩

theorem failsOnly_preprocess {context : Context} {processors : List Preprocessor}
    (refuse : ∀ processor ∈ processors, ∀ rejection, processor context = .error rejection →
      possible (.rejected rejection.status rejection.detail)) :
    FailsOnly possible (Handler.preprocess context processors) := by
  induction processors with
  | nil => exact failsOnly_pure ()
  | cons processor rest ih =>
      unfold Handler.preprocess
      refine failsOnly_bind (failsOnly_note _) fun _ => ?_
      split
      · exact ih fun other member => refuse other (List.mem_cons_of_mem _ member)
      · rename_i rejection refused
        exact failsOnly_throw (refuse processor List.mem_cons_self rejection refused)

theorem failsOnly_postprocess {context : Context} {processors : List Postprocessor} {document : Document} :
    FailsOnly possible (Handler.postprocess context document processors) := by
  induction processors generalizing document with
  | nil => exact failsOnly_pure document
  | cons processor rest ih =>
      unfold Handler.postprocess
      exact failsOnly_bind (failsOnly_note _) fun _ => ih

end

namespace Api

def Blamed (reason : Prop) (error : RequestError) : Prop :=
  error.status = 400 → reason

section

variable {α : Type} {reason : Prop} {schema : Schema} {type : EntityType}

theorem reading_blamed (action : MappingAction α) : FailsOnly (Blamed reason) (SourceAction.reading action) :=
  failsOnly_mapError fun _ bad => absurd bad (by decide : ¬(500 : Nat) = 400)

theorem given_blamed {result : Except RequestError α} (succeeds : ∃ value, result = .ok value) :
    FailsOnly (Blamed reason) (Action.ofExcept result) := by
  obtain ⟨value, done⟩ := succeeds
  exact failsOnly_ofExcept fun error failed => nomatch done.symm.trans failed

theorem requireResource_blamed (id : String) : FailsOnly (Blamed reason) (requireResource type id) := by
  unfold requireResource
  refine failsOnly_bind (reading_blamed _) fun found => ?_
  split
  · exact failsOnly_pure _
  · exact failsOnly_throw fun bad => absurd bad (by decide : ¬(404 : Nat) = 400)

theorem loadTargets_blamed (relationship : Relationship) (id : String) :
    FailsOnly (Blamed reason) (loadTargets schema type relationship id) :=
  failsOnly_bind (reading_blamed _) fun _ => failsOnly_pure _

/-! Inclusions. -/

theorem followChild_blamed (front : Inclusion.Front) (progress : Inclusion.Progress) (name : String)
    (child : PathTree) : FailsOnly (Blamed reason) (Inclusion.followChild schema front progress name child) := by
  unfold Inclusion.followChild
  split
  · exact failsOnly_bind (reading_blamed _) fun _ => failsOnly_pure _
  · exact failsOnly_pure _

theorem followFront_blamed (front : Inclusion.Front) (progress : Inclusion.Progress) :
    FailsOnly (Blamed reason) (Inclusion.followFront schema front progress) := by
  unfold Inclusion.followFront
  split
  · exact failsOnly_pure _
  · exact failsOnly_foldlM (fun _ _ => failsOnly_bind (followChild_blamed ..) fun _ => failsOnly_pure _) _

theorem followLevels_blamed (levels : Nat) (fronts : List Inclusion.Front) (progress : Inclusion.Progress) :
    FailsOnly (Blamed reason) (Inclusion.followLevels schema levels fronts progress) := by
  induction levels generalizing fronts progress with
  | zero => exact failsOnly_pure _
  | succ levels ih =>
      unfold Inclusion.followLevels
      exact failsOnly_bind (failsOnly_foldlM
        (fun _ _ => failsOnly_bind (followFront_blamed ..) fun _ => failsOnly_pure _) _) fun _ => ih _ _

theorem includeFor_blamed {config : ResourceConfig}
    (leads : (PathTree.ofPaths config.includes).check schema type = .ok () ∨ reason) (roots : List Instance) :
    FailsOnly (Blamed reason) (includeFor schema type config {} roots) := by
  unfold includeFor
  dsimp only [Option.getD_none]
  split
  · exact failsOnly_pure _
  · refine failsOnly_bind ?_ fun _ => failsOnly_pure _
    unfold Inclusion.resolve
    refine failsOnly_bind (failsOnly_ofExcept fun error failed => ?_) fun _ =>
      failsOnly_bind (followLevels_blamed ..) fun _ => failsOnly_pure _
    rcases leads with fits | reason
    · cases fits.symm.trans failed
    · exact fun _ => reason

/-! Documents. -/

theorem render_blamed (assembler : Assembler) (resources : List Instance) (fieldsets : Fieldsets) :
    FailsOnly (Blamed reason) (assembler.render schema resources fieldsets) := by
  refine failsOnly_bind ?_ fun _ => failsOnly_pure _
  refine failsOnly_bind (failsOnly_mapM fun _ _ => failsOnly_mapM fun _ _ => ?_) fun _ => failsOnly_pure _
  exact failsOnly_bind (reading_blamed _) fun _ => failsOnly_pure _

theorem assemble_blamed (assembler : Assembler) (data : PrimaryData) (included : Option (List Instance))
    (page : Option Paging.Page) (url : Url) (fieldsets : Fieldsets) :
    FailsOnly (Blamed reason) (assembler.assemble schema data included page url fieldsets) := by
  have failed (failures : List RenderError) (document : Document) : FailsOnly (Blamed reason) (do
      if !failures.isEmpty then throw (.unrenderable (failures.map RenderError.message))
      return document : SourceAction Document) := by
    split
    · exact failsOnly_bind (failsOnly_throw fun bad => absurd bad (by decide : ¬(500 : Nat) = 400)) fun _ =>
        failsOnly_pure _
    · exact failsOnly_pure _
  unfold Assembler.assemble
  refine failsOnly_bind (render_blamed ..) fun _ => ?_
  dsimp only
  split
  · exact failsOnly_bind (render_blamed ..) fun _ => failed _ _
  · exact failed _ _

theorem default_page {config : ResourceConfig} (allowed : config.pageSize ≤ config.maxPageSize) :
    ∃ page, (({} : Parameters).page config.pageSize config.maxPageSize).mapError RequestError.page = .ok page := by
  have size : min (config.pageSize : Int) Number.maxInteger ≤ config.maxPageSize :=
    le_trans (min_le_left _ _) (Int.ofNat_le.mpr allowed)
  have positive : ¬min (config.pageSize : Int) Number.maxInteger < 0 := by
    have stored : (0 : Int) ≤ Number.maxInteger := by decide
    exact not_lt.mpr (le_min (Int.natCast_nonneg _) stored)
  unfold Parameters.page Paging.PageRequest.make
  dsimp only [Option.getD_none]
  rw [if_neg positive, if_neg (not_lt.mpr size), if_neg (by decide), if_neg (fun zero => absurd zero.2 (by decide)),
    if_neg (fun zero => absurd zero.2 (by decide))]
  exact ⟨_, rfl⟩

end

/-- The defaults of the registered types fit these types. -/
structure DefaultsFit (api : Api) : Prop where
  includes : ∀ entry ∈ api.resources, ∀ type, api.schema.type? entry.1 = some type →
    (PathTree.ofPaths entry.2.includes).check api.schema type = .ok ()
  sizes : ∀ entry ∈ api.resources, entry.2.pageSize ≤ entry.2.maxPageSize

/-- A processor of an endpoint refuses a request with status 400. -/
def RefusedAsBad (endpoint : Endpoint) (request : Request) : Prop :=
  ∃ context : Context, context.type = endpoint.type.name ∧ context.request = request ∧
    ∃ processor ∈ endpoint.config.before context.operation, ∃ rejection, processor context = .error rejection ∧
      rejection.status = 400

/-- A route leads to resources of a type that is not served, from which the inclusions of the endpoint lead astray. -/
def StrayInclusion (api : Api) (endpoint : Endpoint) (route : Route) : Prop :=
  ∃ id name relationship target, route = .related id name ∧ endpoint.type.relationship? name = some relationship ∧
    api.schema.type? relationship.target = some target ∧ api.resources.get? target.name = none ∧
      (PathTree.ofPaths endpoint.config.includes).check api.schema target ≠ .ok ()

section

variable {api : Api} {endpoint : Endpoint} {request : Request} {now : Timestamp}

theorem answerDocument_blamed {reason : Prop} {context : Context} (own : context.type = endpoint.type.name)
    (about : context.request = request) (refused : RefusedAsBad endpoint request → reason)
    {document : Handler Document} (made : FailsOnly (Blamed reason) document) :
    FailsOnly (Blamed reason) (answerDocument endpoint context document) := by
  unfold answerDocument
  refine failsOnly_bind (failsOnly_preprocess fun processor among rejection refuses bad => ?_) fun _ =>
    failsOnly_bind made fun _ => failsOnly_bind failsOnly_postprocess fun _ => failsOnly_pure _
  exact refused ⟨context, own, about, processor, among, rejection, refuses, bad⟩

theorem answerDocument_answers {context : Context} (document : Handler Document) :
    Establishes (fun _ => True) (answerDocument endpoint context document) fun response _ => response.status = 200 := by
  have anywhere {α : Type} (step : Handler α) : Establishes (fun _ => True) step fun _ _ => True :=
    ⟨fun _ _ => trivial⟩
  exact establishes_bind (anywhere _) fun _ => establishes_bind (anywhere _) fun _ =>
    establishes_bind (anywhere _) fun _ => establishes_pure fun _ _ => rfl

theorem carryOutRoute_answers {route : Route} :
    Establishes (fun _ => True) (carryOutRoute api now endpoint request route .get) fun response _ =>
      response.status = 200 := by
  have named (name : String) : Establishes (fun _ => True) (Handler.ofExcept (findRelationship endpoint.type name))
      fun _ _ => True := ⟨fun _ _ => trivial⟩
  cases route with
  | collection => exact answerDocument_answers _
  | resource id => exact answerDocument_answers _
  | related id name => exact establishes_bind (named name) fun _ => answerDocument_answers _
  | relationship id name => exact establishes_bind (named name) fun _ => answerDocument_answers _

theorem plain_parameters (plain : request.url.query = none) : parametersOf request = .ok {} := by
  unfold parametersOf
  rw [plain]
  rfl

section

variable {reason : Prop} (plain : request.url.query = none)
  (entry : (endpoint.type.name, endpoint.config) ∈ api.resources)
  (known : api.schema.type? endpoint.type.name = some endpoint.type) (fit : api.DefaultsFit)
include fit

include entry known in
theorem collectionDocument_blamed :
    FailsOnly (Blamed reason) (collectionDocument api now endpoint request {}) := by
  unfold collectionDocument
  refine failsOnly_bind (given_blamed ⟨_, rfl⟩) fun _ => failsOnly_bind (given_blamed ⟨_, rfl⟩) fun _ => ?_
  refine failsOnly_bind (given_blamed (default_page (fit.sizes _ entry))) fun page => ?_
  refine failsOnly_bind (reading_blamed _) fun resources => ?_
  have rest (total : Nat) : FailsOnly (Blamed reason) (do
      let included ← includeFor api.schema endpoint.type endpoint.config {} resources
      api.assembler.assemble api.schema (.collection resources) included
        (some (Paging.paginate total page)) request.url {}) :=
    failsOnly_bind (includeFor_blamed (.inl (fit.includes _ entry _ known)) _) fun _ => assemble_blamed ..
  dsimp only
  split
  · exact failsOnly_bind (reading_blamed _) fun _ => rest _
  · exact rest _

include entry known in
theorem resourceDocument_blamed (id : String) :
    FailsOnly (Blamed reason) (resourceDocument api endpoint request id {}) :=
  failsOnly_bind (requireResource_blamed id) fun _ =>
    failsOnly_bind (includeFor_blamed (.inl (fit.includes _ entry _ known)) _) fun _ => assemble_blamed ..

include entry in
theorem relatedDocument_blamed {id name : String} {relationship : Relationship}
    (own : endpoint.type.relationship? name = some relationship)
    (stray : StrayInclusion api endpoint (.related id name) → reason) :
    FailsOnly (Blamed reason) (relatedDocument api endpoint request id relationship {}) := by
  unfold relatedDocument
  cases leads : api.schema.type? relationship.target with
  | none => exact failsOnly_throw fun bad => absurd bad (by decide : ¬(404 : Nat) = 400)
  | some target =>
      have named : target.name = relationship.target := by simpa using List.find?_some leads
      refine failsOnly_bind (requireResource_blamed id) fun _ => failsOnly_bind (loadTargets_blamed _ _) fun related => ?_
      have settings : ∀ config, (api.resources.get? target.name).getD endpoint.config = config →
          config.pageSize ≤ config.maxPageSize ∧
            ((PathTree.ofPaths config.includes).check api.schema target = .ok () ∨ reason) := by
        rintro config rfl
        cases served : api.resources.get? target.name with
        | some config =>
            have among := Keyed.mem_of_lookup served
            exact ⟨fit.sizes _ among, .inl (fit.includes _ among _ (named ▸ leads))⟩
        | none =>
            refine ⟨fit.sizes _ entry, ?_⟩
            by_cases fits : (PathTree.ofPaths endpoint.config.includes).check api.schema target = .ok ()
            · exact .inl fits
            · exact .inr (stray ⟨id, name, relationship, target, rfl, own, leads, served, fits⟩)
      obtain ⟨sizes, fits⟩ := settings _ rfl
      dsimp only
      refine failsOnly_bind (given_blamed ?_) fun _ =>
        failsOnly_bind (includeFor_blamed fits _) fun _ => assemble_blamed ..
      unfold relatedData
      split
      · obtain ⟨page, paged⟩ := default_page sizes
        rw [paged]
        exact ⟨_, rfl⟩
      · exact ⟨_, rfl⟩

include plain entry known in
theorem carryOutRoute_blamed {route : Route} (refused : RefusedAsBad endpoint request → reason)
    (stray : StrayInclusion api endpoint route → reason) :
    FailsOnly (Blamed reason) (carryOutRoute api now endpoint request route .get) := by
  have parameters (document : Parameters → SourceAction Document)
      (made : FailsOnly (Blamed reason) (document {})) : FailsOnly (Blamed reason) (do
        let parameters ← Handler.ofExcept (parametersOf request)
        Handler.source (document parameters)) := by
    rw [plain_parameters plain]
    exact failsOnly_source made
  have relationship (name : String) : FailsOnly (Blamed reason)
      (Handler.ofExcept (findRelationship endpoint.type name)) := by
    refine failsOnly_result fun error failed => ?_
    unfold findRelationship at failed
    split at failed
    · cases failed
    · cases failed
      exact fun bad => absurd bad (by decide : ¬(404 : Nat) = 400)
  cases route with
  | collection =>
      exact answerDocument_blamed rfl rfl refused (parameters _ (collectionDocument_blamed entry known fit))
  | resource id =>
      exact answerDocument_blamed rfl rfl refused (parameters _ (resourceDocument_blamed entry known fit id))
  | related id name =>
      unfold carryOutRoute
      dsimp only
      unfold findRelationship
      cases own : endpoint.type.relationship? name with
      | none => exact failsOnly_throw fun bad => absurd bad (by decide : ¬(404 : Nat) = 400)
      | some relationship =>
          exact answerDocument_blamed rfl rfl refused (parameters _ (relatedDocument_blamed entry fit own stray))
  | relationship id name =>
      refine failsOnly_bind (relationship name) fun relationship => answerDocument_blamed rfl rfl refused ?_
      exact failsOnly_source (failsOnly_bind (requireResource_blamed id) fun _ =>
        failsOnly_bind (loadTargets_blamed _ _) fun _ => failsOnly_pure _)

end

theorem dispatch_lost {error : RequestError} (lost : api.route request.url.path = .error error) :
    dispatch api now request = throw error := by
  unfold dispatch
  simp only [lost, Handler.ofExcept]
  rfl

theorem route_lost {path : String} {error : RequestError} (lost : api.route path = .error error) :
    error.status ≠ 400 := by
  unfold Api.route at lost
  split at lost
  · cases lost
  · cases lost
    exact (by decide : ¬(404 : Nat) = 400)

/-- Where the defaults of types fit them, a request that reads without a query string is answered with status 400 only
if a processor refuses it so, or if the inclusions of the type are followed from a related one that is not served. -/
theorem plain_read_blamed (fit : api.DefaultsFit) {database : Database} (reading : request.verb = .get)
    (plain : request.url.query = none) (bad : (handle api now request database).response.status = 400) :
    ∃ endpoint route, api.route request.url.path = .ok (endpoint, route) ∧
      (RefusedAsBad endpoint request ∨ StrayInclusion api endpoint route) := by
  rw [handle_response] at bad
  rcases run : execute (dispatch api now request) ⟨⟨database, none, []⟩, []⟩ with ⟨result, after⟩
  rw [run] at bad
  cases routed : api.route request.url.path with
  | error error =>
      rw [dispatch_lost routed] at run
      cases run
      exact absurd bad (route_lost routed)
  | ok found =>
      obtain ⟨endpoint, route⟩ := found
      obtain ⟨entry, known⟩ := route_registered routed
      refine ⟨endpoint, route, rfl, ?_⟩
      rw [dispatch_routed routed, reading] at run
      split at run
      · cases result with
        | error error =>
            exact (carryOutRoute_blamed plain entry known fit .inl .inr).sound run bad
        | ok response =>
            have answered : response.status = 200 := carryOutRoute_answers.sound trivial run
            cases answered.symm.trans bad
      · cases run
        exact absurd bad (by decide : ¬(405 : Nat) = 400)

end

end Api

/-! Books that are served with their authors, who are not served themselves. -/

namespace Shelf

def booksOnly : Api :=
  { Api.ofSchema schema {} with
    resources := [("book", { includes := ["author"] })]
    assembler := ⟨"/api", [("book", "/api/book")], [], [("book", .all)]⟩ }

theorem booksOnly_registered : Registered schema {} booksOnly :=
  Registered.start.foldlM [("book", { includes := ["author"] })] rfl

theorem booksOnly_fit : booksOnly.DefaultsFit := by
  constructor
  · intro entry among type known
    cases List.mem_singleton.mp among
    cases (rfl : booksOnly.schema.type? "book" = some book).symm.trans known
    decide
  · intro entry among
    cases List.mem_singleton.mp among
    decide

def authorOf (query : Option String) : Request :=
  ⟨.get, ⟨"http", some (.ofHost "localhost"), "/api/book/1/author", query, none⟩, none⟩

theorem authorOf_bad : (handle booksOnly Client.now (authorOf none) tables).response.status = 400 := by
  decide +kernel

end Shelf

theorem author_reached_by_stray_inclusion : Shelf.booksOnly.DefaultsFit ∧
    (handle Shelf.booksOnly Client.now (Shelf.authorOf none) Shelf.tables).response.status = 400 ∧
    ∃ endpoint route, Shelf.booksOnly.route "/api/book/1/author" = .ok (endpoint, route) ∧
      (RefusedAsBad endpoint (Shelf.authorOf none) ∨ StrayInclusion Shelf.booksOnly endpoint route) :=
  ⟨Shelf.booksOnly_fit, Shelf.authorOf_bad, plain_read_blamed Shelf.booksOnly_fit rfl rfl Shelf.authorOf_bad⟩

/-- The author of a book can be read, but not with what is included by default. -/
theorem default_inclusion_fails_plain_read : Registered Shelf.schema {} Shelf.booksOnly ∧
    Shelf.booksOnly.DefaultsFit ∧
    (handle Shelf.booksOnly Client.now (Shelf.authorOf (some "include=")) Shelf.tables).response.status = 200 ∧
    (handle Shelf.booksOnly Client.now (Shelf.authorOf none) Shelf.tables).response.status = 400 :=
  ⟨Shelf.booksOnly_registered, Shelf.booksOnly_fit, by decide +kernel, by decide +kernel⟩

end ResourceServer
