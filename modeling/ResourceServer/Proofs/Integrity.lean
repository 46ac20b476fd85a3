import ResourceServer.Proofs.Filtering

/-! References are to stored resources in the databases that requests lead to. -/

namespace ResourceServer

open ResourceServer.Store ResourceServer.Mapping ResourceServer.Api

theorem reference_invariant {schema : Schema} (formed : schema.Formed)
    (tables : schema.TablesDistinct) (columns : schema.ColumnsDistinct) (keys : schema.KeysApart)
    (agree : schema.KeysAgree) :
    Invariant schema True fun database => FieldsTyped schema database ∧ Integral schema database where
  formed := formed
  tables := tables
  columns := columns
  keys _ := keys
  kept _ changes _ held := ⟨changes.typed tables columns keys.fit held.1,
    changes.integral trivial tables columns keys agree held.1 held.2⟩

theorem vacant_references {schema : Schema} {database : Database} (vacant : database.Vacant) :
    FieldsTyped schema database ∧ Integral schema database := by
  refine ⟨vacant_typed vacant, fun table column target _ record member => ?_⟩
  rw [vacant_records vacant] at member
  cases member

/-- After any requests every key and every pair refers to a stored resource, if new resources with links do
not get identities that change when their texts are read. Only durations can. -/
theorem reachable_references_present {api : Api} {types : List EntityType}
    (valid : Schema.ofTypes types = .ok api.schema) (tables : api.schema.TablesDistinct)
    (columns : api.schema.ColumnsDistinct) (keys : api.schema.KeysApart)
    (agree : api.schema.KeysAgree) {database : Database}
    (reachable : Reachable api (StableIds api.schema) database) : Integral api.schema database := by
  have invariant := reference_invariant (ofTypes_formed valid) tables columns keys agree
  obtain ⟨_, _, integral⟩ := reachable_invariant invariant (fun _ _ stable => stable)
    (fun _ done => vacant_references (registered_columns done).1) reachable
  exact integral

/-! The book is followed by a sequel. -/

namespace Shelf

theorem keysAgree : schema.KeysAgree := by decide

def continuation : Request :=
  Client.create "book" [Client.linked "sequels" (.array [Client.identifier "book" "1"])]

theorem stable (request : Request) : StableIds api.schema request := by
  intro endpoint known _ _ _ _ temporal
  have whole : ∀ type ∈ schema.types, type.identity.type ≠ .duration := by decide
  exact absurd temporal (whole _ known)

@[irreducible]
def continued : Database :=
  afterRequests api Client.now [creation, continuation]

theorem continued_reachable : Reachable api (StableIds api.schema) continued := by
  unfold continued
  exact reachable_requests registers fun request _ => stable request

end Shelf

theorem sequel_references_present :
    Schema.ofTypes [Shelf.author, Shelf.book] = .ok Shelf.api.schema ∧
      Shelf.api.schema.TablesDistinct ∧ Shelf.api.schema.ColumnsDistinct ∧
      Shelf.api.schema.KeysApart ∧ Shelf.api.schema.KeysAgree ∧
      Reachable Shelf.api (StableIds Shelf.api.schema) Shelf.continued ∧
      Integral Shelf.api.schema Shelf.continued := by
  have valid : Schema.ofTypes [Shelf.author, Shelf.book] = .ok Shelf.api.schema := rfl
  exact ⟨valid, Shelf.tablesDistinct, Shelf.columnsDistinct, Shelf.keysApart, Shelf.keysAgree,
    Shelf.continued_reachable, reachable_references_present valid Shelf.tablesDistinct
      Shelf.columnsDistinct Shelf.keysApart Shelf.keysAgree Shelf.continued_reachable⟩

/-! Spans of time, which have durations as identities, with tags. -/

namespace Spans

def span : EntityType :=
  ⟨"span", none, ⟨"id", .duration, false⟩, [],
    [⟨"tags", .toMany, "tag", true, .joinTable "span_tag" "span_id" "tag_id"⟩], []⟩

def tag : EntityType :=
  ⟨"tag", none, ⟨"id", .string, false⟩, [], [], []⟩

def schema : Schema := ⟨[span, tag]⟩

def api : Api :=
  { Api.ofSchema schema {} with
    resources := [("span", { allowClientIds := true }), ("tag", { allowClientIds := true })] }

/-- Texts of durations this long may spell the next microsecond. So the last span is read back as the one
before it, whose own text spells the one that was deleted. -/
def requests : List Request :=
  [Client.create "tag" [("id", .string "red")],
    Client.create "span" [("id", .string "4400000000.000016")],
    Client.create "span" [("id", .string "4400000000.000014")],
    Client.delete "span" "4400000000.000016",
    Client.create "span" [("id", .string "4400000000.000013"),
      Client.linked "tags" (.array [Client.identifier "tag" "red"])]]

end Spans

/-- A link of a new resource is to no stored one, if the text of its identity reads as another identity. -/
theorem long_duration_dangles :
    Spans.api.schema.TablesDistinct ∧ Spans.api.schema.ColumnsDistinct ∧
      Spans.api.schema.KeysApart ∧ Spans.api.schema.KeysAgree ∧
      Reachable Spans.api (fun _ => True) (afterRequests Spans.api Client.now Spans.requests) ∧
      ¬Integral Spans.api.schema (afterRequests Spans.api Client.now Spans.requests) := by
  refine ⟨by decide +kernel, by decide, by decide +kernel, by decide,
    reachable_requests (registered_of_done (by decide +kernel)) fun _ _ => trivial, fun integral => ?_⟩
  obtain ⟨pair, member, given, apart⟩ : ∃ pair ∈
      (afterRequests Spans.api Client.now Spans.requests).records "span_tag", pair "span_id" ≠ .null ∧
        ∀ record ∈ (afterRequests Spans.api Client.now Spans.requests).records (tableName Spans.span),
          (pair "span_id").agrees (record (idName Spans.span)) = false := by
    decide +kernel
  have refers : Refers Spans.api.schema "span_tag" "span_id" Spans.span :=
    .ownerPair List.mem_cons_self List.mem_cons_self rfl
  rcases integral _ _ _ refers pair member with none | ⟨record, stored, agrees⟩
  · exact given none
  · rw [apart record stored] at agrees
    cases agrees

end ResourceServer
