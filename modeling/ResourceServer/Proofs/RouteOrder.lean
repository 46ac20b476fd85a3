import Mathlib.Data.List.Nodup
import Mathlib.Data.List.Pairwise
import ResourceServer.Api.Config
import ResourceServer.Proofs.Columns
import ResourceServer.Proofs.Routes

/-! The APIs that registering types gives. -/

namespace ResourceServer.Api

open ResourceServer.Url

section

/-- The APIs that come of registering types of a schema, whatever their settings. -/
inductive Registered (schema : Schema) (config : ApiConfig) : Api → Prop
  | start : Registered schema config (.ofSchema schema config)
  | register {api next : Api} {type : String} {settings : ResourceConfig} (before : Registered schema config api)
      (done : api.register type settings = .ok next) : Registered schema config next

variable {schema : Schema} {config : ApiConfig} {api next : Api} {type : String} {settings : ResourceConfig}

theorem register_ok (done : api.register type settings = .ok next) :
    (∃ known, api.schema.type? type = some known) ∧ next.schema = api.schema ∧ next.config = api.config ∧
      next.resources = api.resources.put type settings := by
  unfold Api.register at done
  dsimp only at done
  split at done
  · cases done
  rename_i known
  obtain ⟨visibility, _, done⟩ := bind_ok done
  cases done
  exact ⟨Option.ne_none_iff_exists'.mp fun absent => known (by rw [absent]; rfl), rfl, rfl, rfl⟩

namespace Registered

theorem ordered (registered : Registered schema config api) : api.resources.Ordered := by
  induction registered with
  | start => exact List.Pairwise.nil
  | register _ done ih =>
      rw [(register_ok done).2.2.2]
      exact Keyed.ordered_put _ _ ih

theorem known (registered : Registered schema config api) {entry : String × ResourceConfig}
    (among : entry ∈ api.resources) : ∃ type, api.schema.type? entry.1 = some type := by
  induction registered with
  | start => cases among
  | register before done ih =>
      obtain ⟨own, same, _, resources⟩ := register_ok done
      rw [same]
      rw [resources] at among
      rcases Keyed.mem_put among with rfl | old
      · exact own
      · exact ih old

theorem foldlM (registered : Registered schema config api) (entries : List (String × ResourceConfig))
    (done : entries.foldlM (fun api entry => api.register entry.1 entry.2) api = .ok next) :
    Registered schema config next := by
  induction entries generalizing api with
  | nil =>
      cases done
      exact registered
  | cons entry rest ih =>
      rw [List.foldlM_cons] at done
      obtain ⟨between, first, later⟩ := bind_ok done
      exact ih (.register registered first) later

end Registered

end

/-! Where a path leads when the registered types are looked through in another order. The first collection that a
path is below decides, so that the order matters exactly where two collections compete for a path. -/

theorem findSome_perm {α β : Type} {find : α → Option β} {items others : List α} (perm : items.Perm others)
    (agree : ∀ one ∈ items, ∀ other ∈ items, ∀ {left right : β}, find one = some left → find other = some right →
      left = right) : items.findSome? find = others.findSome? find := by
  cases found : items.findSome? find with
  | none =>
      have nothing := List.findSome?_eq_none_iff.mp found
      exact (List.findSome?_eq_none_iff.mpr fun item among => nothing item (perm.mem_iff.mpr among)).symm
  | some left =>
      obtain ⟨one, among, here⟩ := List.exists_of_findSome?_eq_some found
      cases found' : others.findSome? find with
      | none =>
          have nothing := List.findSome?_eq_none_iff.mp found' one (perm.mem_iff.mp among)
          rw [here] at nothing
          cases nothing
      | some right =>
          obtain ⟨other, among', there⟩ := List.exists_of_findSome?_eq_some found'
          rw [agree one among other (perm.mem_iff.mpr among') here there]

def Below (collection path : String) : Prop :=
  path.toList = collection.toList ∨ collection.toList ++ ['/'] <+: path.toList

instance (collection path : String) : Decidable (Below collection path) :=
  inferInstanceAs (Decidable (_ ∨ _))

/-- One of two collections is the other, or is below it. -/
def Compete (one other : String) : Prop :=
  Below one other ∨ Below other one

instance (one other : String) : Decidable (Compete one other) :=
  inferInstanceAs (Decidable (_ ∨ _))

section

variable {collection one other path : String}

theorem Below.trans (upper : Below one other) (lower : Below other path) : Below one path := by
  rcases upper with same | ⟨rest, inner⟩
  · unfold Below at lower
    rwa [same] at lower
  · refine .inr ?_
    rcases lower with same | lower
    · exact same ▸ ⟨rest, inner⟩
    · exact List.IsPrefix.trans ⟨rest ++ ['/'], by rw [← List.append_assoc, inner]⟩ lower

theorem segmentsBelow_some :
    (∃ segments, segmentsBelow? collection path = some segments) ↔ Below collection (Text.trimEnd '/' path) := by
  unfold segmentsBelow?
  constructor
  · rintro ⟨segments, found⟩
    cases dropped : Text.dropStart? collection.toList (Text.trimEnd '/' path).toList with
    | none =>
        rw [dropped] at found
        cases found
    | some rest =>
        have text := Text.dropStart_ok dropped
        rw [dropped] at found
        split at found
        · cases found
        · rename_i exact
          cases exact
          exact .inl (by rw [text, List.append_nil])
        · rename_i rest' goes
          cases goes
          exact .inr ⟨rest', by rw [text, List.append_assoc]; rfl⟩
        · cases found
  · rintro (same | ⟨rest, text⟩)
    · have dropped := Text.dropStart_append collection.toList []
      rw [List.append_nil] at dropped
      rw [same, dropped]
      exact ⟨[], rfl⟩
    · rw [← text, List.append_assoc, Text.dropStart_append]
      exact ⟨_, rfl⟩

theorem compete_of_below (left : Below one path) (right : Below other path) : Compete one other := by
  have nested {upper lower : String} (inside : upper.toList <+: lower.toList) (left : Below upper path)
      (right : Below lower path) : Below upper lower := by
    obtain ⟨between, longer⟩ := inside
    match between with
    | [] => exact .inl (by rw [← longer, List.append_nil])
    | c :: between =>
        -- the path goes on after the upper collection, with the character that the lower one has there
        have goes : ∃ rest, path.toList = upper.toList ++ (c :: between ++ rest) := by
          rcases right with same | ⟨rest, text⟩
          · exact ⟨[], by rw [same, List.append_nil, longer]⟩
          · exact ⟨'/' :: rest, by rw [← text, ← longer]; simp⟩
        obtain ⟨rest, text⟩ := goes
        rcases left with same | ⟨rest', text'⟩
        · rw [text] at same
          exact absurd same (by simp)
        · rw [text, List.append_assoc, List.append_cancel_left_eq] at text'
          cases text'
          exact .inr ⟨between, by rw [← longer, List.append_assoc]; rfl⟩
  have begins {upper : String} (below : Below upper path) : upper.toList <+: path.toList := by
    rcases below with same | longer
    · exact ⟨[], by rw [same, List.append_nil]⟩
    · exact (List.prefix_append _ _).trans longer
  rcases List.prefix_or_prefix_of_prefix (begins left) (begins right) with inside | inside
  · exact .inl (nested inside left right)
  · exact .inr (nested inside right left)

end

section

variable {schema : Schema} {config : ApiConfig} {path : String}

def routeBelow? (schema : Schema) (config : ApiConfig) (path : String) (entry : String × ResourceConfig) :
    Option (Option (Endpoint × Route)) :=
  match schema.type? entry.1, segmentsBelow? (collectionPath config entry.1 entry.2) path with
  | some type, some segments => some ((routeOf? segments).map fun route => (⟨type, entry.2⟩, route))
  | _, _ => none

theorem routeBelow_ok {entry : String × ResourceConfig} {found : Option (Endpoint × Route)}
    (below : routeBelow? schema config path entry = some found) : ∃ type segments, schema.type? entry.1 = some type ∧
      segmentsBelow? (collectionPath config entry.1 entry.2) path = some segments ∧
      found = (routeOf? segments).map fun route => (⟨type, entry.2⟩, route) := by
  unfold routeBelow? at below
  split at below
  · rename_i type segments known under
    cases below
    exact ⟨type, segments, known, under, rfl⟩
  · cases below

theorem routeBelow_of {entry : String × ResourceConfig} {type : EntityType} {segments : List String}
    (known : schema.type? entry.1 = some type)
    (below : segmentsBelow? (collectionPath config entry.1 entry.2) path = some segments) :
    routeBelow? schema config path entry =
      some ((routeOf? segments).map fun route => (⟨type, entry.2⟩, route)) := by
  unfold routeBelow?
  rw [known, below]

theorem routeAmong_eq (entries : List (String × ResourceConfig)) :
    routeAmong schema config path entries = (entries.findSome? (routeBelow? schema config path)).join := by
  induction entries with
  | nil => rfl
  | cons entry rest ih =>
      unfold routeAmong
      rw [List.findSome?_cons]
      split
      · rename_i type segments known below
        rw [routeBelow_of known below]
        rfl
      · rename_i unknown
        rw [ih]
        cases below : routeBelow? schema config path entry with
        | none => rfl
        | some found =>
            obtain ⟨type, segments, known, below, _⟩ := routeBelow_ok below
            exact absurd below (unknown type segments known)

theorem routeAmong_registered {entries : List (String × ResourceConfig)} {endpoint : Endpoint} {route : Route}
    (found : routeAmong schema config path entries = some (endpoint, route)) :
    (endpoint.type.name, endpoint.config) ∈ entries ∧ schema.type? endpoint.type.name = some endpoint.type := by
  rw [routeAmong_eq] at found
  obtain ⟨entry, among, below⟩ := List.exists_of_findSome?_eq_some (Option.join_eq_some_iff.mp found)
  obtain ⟨type, segments, known, _, leads⟩ := routeBelow_ok below
  obtain ⟨_, _, same⟩ := Option.map_eq_some_iff.mp leads.symm
  cases same
  have named : type.name = entry.1 := by simpa using List.find?_some known
  exact ⟨named ▸ among, named ▸ known⟩

theorem routeAmong_front {entries : List (String × ResourceConfig)} {entry : String × ResourceConfig}
    {found : Option (Endpoint × Route)} (among : entry ∈ entries)
    (below : routeBelow? schema config path entry = some found) :
    ∃ order, order.Perm entries ∧ routeAmong schema config path order = found := by
  obtain ⟨before, after, rfl⟩ := List.append_of_mem among
  refine ⟨entry :: (before ++ after), List.perm_middle.symm, ?_⟩
  rw [routeAmong_eq, List.findSome?_cons, below]
  rfl

end

/-- A path is lost below a collection that it has too many segments, or other segments, for. -/
def LostBelow (collection path : String) : Prop :=
  ∃ segments, segmentsBelow? collection path = some segments ∧ routeOf? segments = none

/-- Wherever a path is below the collections of two types, it is lost below both. -/
def Settled (api : Api) (path : String) : Prop :=
  ∀ one ∈ api.resources, ∀ other ∈ api.resources, one.1 ≠ other.1 →
    Below (collectionPath api.config one.1 one.2) (Text.trimEnd '/' path) →
    Below (collectionPath api.config other.1 other.2) (Text.trimEnd '/' path) →
      LostBelow (collectionPath api.config one.1 one.2) path

section

variable {schema : Schema} {config : ApiConfig} {api : Api} {path : String}

theorem route_registered {endpoint : Endpoint} {route : Route} (routed : api.route path = .ok (endpoint, route)) :
    (endpoint.type.name, endpoint.config) ∈ api.resources ∧
      api.schema.type? endpoint.type.name = some endpoint.type := by
  unfold Api.route at routed
  split at routed
  · rename_i among
    cases routed
    exact routeAmong_registered among
  · cases routed

theorem route_eq_iff {order : List (String × ResourceConfig)} :
    { api with resources := order }.route path = api.route path ↔
      routeAmong api.schema api.config path order = routeAmong api.schema api.config path api.resources := by
  unfold Api.route
  dsimp only
  cases routeAmong api.schema api.config path order <;>
    cases routeAmong api.schema api.config path api.resources <;> simp

theorem Settled.routes_agree (settled : api.Settled path) (ordered : api.resources.Ordered)
    {order : List (String × ResourceConfig)} (perm : order.Perm api.resources) :
    { api with resources := order }.route path = api.route path := by
  rw [route_eq_iff, routeAmong_eq, routeAmong_eq]
  refine congrArg Option.join (findSome_perm perm fun one among other among' {left right} here there => ?_)
  by_cases same : one.1 = other.1
  · have own : one = other := List.inj_on_of_nodup_map ordered.names (perm.mem_iff.mp among)
      (perm.mem_iff.mp among') same
    rw [own, there] at here
    exact (Option.some.inj here).symm
  · -- both find that the path is lost
    obtain ⟨type, segments, _, below, rfl⟩ := routeBelow_ok here
    obtain ⟨type', segments', _, below', rfl⟩ := routeBelow_ok there
    have upper := segmentsBelow_some.mp ⟨_, below⟩
    have lower := segmentsBelow_some.mp ⟨_, below'⟩
    obtain ⟨_, under, lost⟩ := settled one (perm.mem_iff.mp among) other (perm.mem_iff.mp among') same upper lower
    obtain ⟨_, under', lost'⟩ := settled other (perm.mem_iff.mp among') one (perm.mem_iff.mp among) (Ne.symm same)
      lower upper
    cases below.symm.trans under
    cases below'.symm.trans under'
    rw [lost, lost']
    rfl

theorem settled_of_routes_agree (registered : Registered schema config api)
    (agree : ∀ order : List (String × ResourceConfig), order.Perm api.resources →
      { api with resources := order }.route path = api.route path) : api.Settled path := by
  intro one among other among' differ upper lower
  obtain ⟨type, known⟩ := registered.known among
  obtain ⟨type', known'⟩ := registered.known among'
  obtain ⟨segments, below⟩ := segmentsBelow_some.mpr upper
  obtain ⟨segments', below'⟩ := segmentsBelow_some.mpr lower
  obtain ⟨order, perm, first⟩ := routeAmong_front among (routeBelow_of known below)
  obtain ⟨order', perm', first'⟩ := routeAmong_front among' (routeBelow_of known' below')
  have alike : (routeOf? segments).map (fun route => (⟨type, one.2⟩, route)) =
      (routeOf? segments').map fun route => ((⟨type', other.2⟩ : Endpoint), route) := by
    rw [← first, ← first', route_eq_iff.mp (agree order perm), route_eq_iff.mp (agree order' perm')]
  refine ⟨segments, below, ?_⟩
  cases leads : routeOf? segments with
  | none => rfl
  | some route =>
      -- otherwise both lead to one endpoint, whose type has the names of both
      rw [leads] at alike
      obtain ⟨_, _, same⟩ := Option.map_eq_some_iff.mp alike.symm
      have endpoints : (⟨type', other.2⟩ : Endpoint) = ⟨type, one.2⟩ := (Prod.ext_iff.mp same).1
      have types : type' = type := congrArg Endpoint.type endpoints
      have named : type.name = one.1 := by simpa using List.find?_some known
      have named' : type'.name = other.1 := by simpa using List.find?_some known'
      exact absurd (named.symm.trans (types ▸ named')) differ

theorem competing_unsettled (registered : Registered schema config api)
    (settled : ∀ path, api.Settled path) :
    api.resources.Pairwise fun one other =>
      ¬Compete (collectionPath api.config one.1 one.2) (collectionPath api.config other.1 other.2) := by
  have apart {upper lower : String × ResourceConfig} (among : upper ∈ api.resources)
      (among' : lower ∈ api.resources) (differ : upper.1 ≠ lower.1) :
      ¬Below (collectionPath api.config upper.1 upper.2) (collectionPath api.config lower.1 lower.2) := by
    intro nested
    have plain : ∀ segment ∈ ["x"], IsSegment segment := by decide
    have under : segmentsBelow? (collectionPath api.config lower.1 lower.2)
        (collectionPath api.config lower.1 lower.2 ++ String.ofList (pathOf ["x"])) = some ["x"] :=
      segmentsBelow_pathOf plain (by decide)
    have lower' := segmentsBelow_some.mp ⟨_, under⟩
    have ends := Text.trimEnd_idle (pathOf_ends plain (by decide) (collectionPath api.config lower.1 lower.2))
    obtain ⟨segments, below, lost⟩ := settled _ lower among' upper among (Ne.symm differ) lower'
      (nested.trans lower')
    cases under.symm.trans below
    cases lost
  refine registered.ordered.imp_of_mem fun {one other} among among' before => ?_
  rintro (nested | nested)
  · exact apart among among' (ne_of_lt before) nested
  · exact apart among' among (ne_of_gt before) nested

/-- The order in which registered types are enumerated does not matter to a path exactly if the path is lost wherever
two of them compete for it, and to no path exactly if no two collections compete. -/
theorem route_order_immaterial_iff (registered : Registered schema config api) :
    (∀ path, (∀ order : List (String × ResourceConfig), order.Perm api.resources →
        { api with resources := order }.route path = api.route path) ↔ api.Settled path) ∧
    ((∀ (path : String) (order : List (String × ResourceConfig)), order.Perm api.resources →
        { api with resources := order }.route path = api.route path) ↔
      api.resources.Pairwise fun one other =>
        ¬Compete (collectionPath api.config one.1 one.2) (collectionPath api.config other.1 other.2)) := by
  have each (path : String) : (∀ order : List (String × ResourceConfig), order.Perm api.resources →
      { api with resources := order }.route path = api.route path) ↔ api.Settled path :=
    ⟨settled_of_routes_agree registered, fun settled _ perm => settled.routes_agree registered.ordered perm⟩
  refine ⟨each, fun agree => competing_unsettled registered fun path => (each path).mp (agree path),
    fun apart path => (each path).mpr ?_⟩
  intro one among other among' differ upper lower
  have competes := compete_of_below upper lower
  have : Std.Symm fun one other : String × ResourceConfig =>
      ¬Compete (collectionPath api.config one.1 one.2) (collectionPath api.config other.1 other.2) :=
    ⟨fun _ _ apart competes => apart competes.symm⟩
  exact absurd competes (apart.forall among among' fun same => differ (congrArg (·.1) same))

end

/-! Comments, found among all others or among those of one article. -/

namespace Comments

def schema : Schema :=
  ⟨[⟨"article", none, ⟨"id", .string, false⟩, [], [], []⟩, ⟨"comment", none, ⟨"id", .string, false⟩, [], [], []⟩]⟩

def serving (below : Option String) (collection : String) : Api :=
  { Api.ofSchema schema {} with
    resources := [("article", {}), ("comment", { urlPath := below })]
    assembler := ⟨"/api", [("article", "/api/article"), ("comment", collection)], [],
      [("article", .all), ("comment", .all)]⟩ }

def apart : Api :=
  serving none "/api/comment"

def nested : Api :=
  serving (some "/api/article/news/of/today") "/api/article/news/of/today/comment"

theorem apart_registered : Registered schema {} apart :=
  Registered.start.foldlM [("article", {}), ("comment", {})] rfl

theorem nested_registered : Registered schema {} nested :=
  Registered.start.foldlM [("article", {}), ("comment", { urlPath := some "/api/article/news/of/today" })] rfl

end Comments

theorem comments_apart_route_alike :
    Registered Comments.schema {} Comments.apart ∧
    ∀ path, { Comments.apart with resources := Comments.apart.resources.reverse }.route path =
      Comments.apart.route path :=
  ⟨Comments.apart_registered, fun path =>
    (route_order_immaterial_iff Comments.apart_registered).2.mpr (by decide) path _ (List.reverse_perm _)⟩

def led (result : Except RequestError (Endpoint × Route)) : Option (String × Route) :=
  result.toOption.map fun found => (found.1.type.name, found.2)

/-- With the articles looked at first, the collection of comments is not found. -/
theorem nested_comments_depend_on_order :
    Registered Comments.schema {} Comments.nested ∧
    led (Comments.nested.route "/api/article/news/of/today/comment") = none ∧
    led ({ Comments.nested with resources := Comments.nested.resources.reverse }.route
      "/api/article/news/of/today/comment") = some ("comment", .collection) :=
  ⟨Comments.nested_registered, by decide, by decide⟩

end ResourceServer.Api
