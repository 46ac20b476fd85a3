import ResourceServer.Proofs.PlainPaths
import ResourceServer.Proofs.Requests

/-! Routes below a collection: where no collection is below another, a path of plain segments below one leads to what
its segments name. -/

namespace ResourceServer

namespace Text

theorem dropStart_ok {start text rest : List Char} (dropped : dropStart? start text = some rest) :
    text = start ++ rest := by
  unfold dropStart? at dropped
  split at dropped
  · rename_i same
    cases dropped
    nth_rewrite 1 [← List.take_append_drop start.length text]
    rw [same]
  · cases dropped

theorem dropStart_append (start rest : List Char) : dropStart? start (start ++ rest) = some rest := by
  unfold dropStart?
  rw [List.take_left, if_pos rfl, List.drop_left]

theorem trimEnd_idle {mark : Char} {text : String} (ends : ∃ c ∈ text.toList.getLast?, c ≠ mark) :
    trimEnd mark text = text := by
  obtain ⟨c, last, apart⟩ := ends
  rw [← List.head?_reverse] at last
  obtain ⟨rest, reversed⟩ := List.head?_eq_some_iff.mp last
  unfold trimEnd
  rw [reversed, List.dropWhile_cons_of_neg (by simp [apart]), ← reversed, List.reverse_reverse,
    String.ofList_toList]

end Text

namespace Api

open ResourceServer.Url

/-- Neither of two collections is found below the other. -/
def Apart (path other : String) : Prop :=
  ¬path.toList <+: other.toList ∧ ¬other.toList <+: path.toList

instance (path other : String) : Decidable (Apart path other) :=
  inferInstanceAs (Decidable (_ ∧ _))

section

variable {collection other path : String} {segments : List String}

theorem segmentsBelow_begins (found : segmentsBelow? collection path = some segments) :
    collection.toList <+: (Text.trimEnd '/' path).toList := by
  unfold segmentsBelow? at found
  cases dropped : Text.dropStart? collection.toList (Text.trimEnd '/' path).toList with
  | none =>
      rw [dropped] at found
      cases found
  | some rest => exact ⟨rest, (Text.dropStart_ok dropped).symm⟩

theorem segmentsBelow_apart (apart : Apart collection other)
    (found : segmentsBelow? collection path = some segments) : segmentsBelow? other path = none := by
  cases found' : segmentsBelow? other path with
  | none => rfl
  | some segments' =>
      rcases List.prefix_or_prefix_of_prefix (segmentsBelow_begins found) (segmentsBelow_begins found') with
        inside | inside
      · exact absurd inside apart.1
      · exact absurd inside apart.2

theorem segmentsBelow_pathOf (plain : ∀ segment ∈ segments, IsSegment segment) (given : segments ≠ []) :
    segmentsBelow? collection (collection ++ String.ofList (pathOf segments)) = some segments := by
  unfold segmentsBelow?
  rw [Text.trimEnd_idle (pathOf_ends plain given _), String.toList_append, String.toList_ofList, Text.dropStart_append,
    pathOf_begins given]
  change some ((Text.splitChars '/' [] ((pathOf segments).drop 1)).map String.ofList) = _
  rw [splitChars_pathOf plain given, List.map_map]
  simp

end

section

variable {schema : Schema} {config : ApiConfig} {path : String} {endpoint : Endpoint}

theorem routeAmong_below {resources : List (String × ResourceConfig)}
    (apart : resources.Pairwise fun one other =>
      Apart (collectionPath config one.1 one.2) (collectionPath config other.1 other.2))
    {route : Route} (found : routeAmong schema config path resources = some (endpoint, route)) :
    (endpoint.type.name, endpoint.config) ∈ resources ∧ ∀ {below : String} {segments : List String},
      segmentsBelow? (collectionPath config endpoint.type.name endpoint.config) below = some segments →
        routeAmong schema config below resources = (routeOf? segments).map fun route => (endpoint, route) := by
  induction resources with
  | nil => cases found
  | cons entry rest ih =>
      obtain ⟨name, settings⟩ := entry
      obtain ⟨first, later⟩ := List.pairwise_cons.mp apart
      unfold routeAmong at found
      split at found
      · rename_i type segments known under
        obtain ⟨other, _, same⟩ := Option.map_eq_some_iff.mp found
        cases same
        have named : type.name = name := by simpa using List.find?_some known
        subst named
        refine ⟨List.mem_cons_self, fun {below segments'} under' => ?_⟩
        unfold routeAmong
        rw [known, under']
      · rename_i none
        obtain ⟨among, leads⟩ := ih later found
        refine ⟨List.mem_cons_of_mem _ among, fun {below segments'} under => ?_⟩
        have elsewhere : segmentsBelow? (collectionPath config name settings) below = Option.none :=
          segmentsBelow_apart ⟨(first _ among).2, (first _ among).1⟩ under
        unfold routeAmong
        rw [elsewhere]
        split
        · rename_i nothing
          cases nothing
        · exact leads under

end

/-- Below a collection that a path leads to, plain segments lead to what they name. -/
theorem route_below {api : Api} (apart : api.resources.Pairwise fun one other =>
      Apart (collectionPath api.config one.1 one.2) (collectionPath api.config other.1 other.2))
    {path : String} {endpoint : Endpoint} {route : Route} (routed : api.route path = .ok (endpoint, route)) :
    (endpoint.type.name, endpoint.config) ∈ api.resources ∧ ∀ {segments : List String} {other : Route},
      (∀ segment ∈ segments, IsSegment segment) → segments ≠ [] → routeOf? segments = some other →
        api.route (collectionPath api.config endpoint.type.name endpoint.config ++
          String.ofList (pathOf segments)) = .ok (endpoint, other) := by
  unfold Api.route at routed
  split at routed
  · rename_i found among
    cases routed
    obtain ⟨registered, leads⟩ := routeAmong_below apart among
    refine ⟨registered, fun {segments other} plain given named => ?_⟩
    unfold Api.route
    rw [leads (segmentsBelow_pathOf plain given), named]
    rfl
  · cases routed

end Api

end ResourceServer
