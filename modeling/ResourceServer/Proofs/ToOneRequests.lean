import ResourceServer.Proofs.OrderJoins

/-! After any requests a to-one relationship links each owner to one target at most, unless another one writes
where it keeps its links. -/

namespace ResourceServer

open ResourceServer.Store ResourceServer.Mapping ResourceServer.Api

section

variable {api : Api} {types : List EntityType} (valid : Schema.ofTypes types = .ok api.schema)
  (tables : api.schema.TablesDistinct) (shared : api.schema.PairsShared)
  (apart : api.schema.PairsDistinct) (columns : api.schema.ColumnsDistinct)
  (keys : api.schema.KeysApart) (agree : api.schema.KeysAgree)
include valid tables apart columns keys agree

theorem reachable_sole {type target : EntityType} {relationship : Relationship}
    (one : api.schema.LeadsToOne type relationship target) {database : Database}
    (reachable : Reachable api (fun _ => True) database) :
    Sole api.schema type relationship target database :=
  (reachable_invariant
    (sole_invariant (ofTypes_formed valid) tables columns apart keys agree one) False.elim
    (fun _ done => vacant_sole done) reachable).2

include shared

/-- After any requests, a to-one relationship links each owner to one target at most, if no other relationship
writes where it keeps its links or if it keeps them with the owners. So one link at most is loaded for an owner,
by itself or among others, and a query in an order that follows such relationships returns each stored resource
once at most. -/
theorem to_one_links_once
    (reserved : ∀ type ∈ api.schema.types,
      tableName type ≠ "rel_owner" ∧ tableName type ≠ "rel_link")
    {connection : Connection} (reachable : Reachable api (fun _ => True) connection.database) :
    (∀ type relationship target, api.schema.LeadsToOne type relationship target →
      Once ((linkRows connection.database type target relationship.storage).map linkOwner) ∧
        (∀ owner, ∃ links,
          (execute (loadRelation api.schema type relationship [owner]) connection).1 = .ok links ∧
            links.length ≤ 1) ∧
        (type.identity.type.Exact → ∀ owners, ∃ links,
          (execute (loadRelation api.schema type relationship owners) connection).1 = .ok links ∧
            ∀ owner, (links.of owner).length ≤ 1)) ∧
      ∀ type ∈ api.schema.types, Unsorted (tableName type) 1 → ∀ query : Query,
        (∀ key ∈ query.ordering, api.schema.LeadsAlong type key.path) → ∀ resources,
          (execute (Mapping.query api.schema type query) connection).1 = .ok resources →
            ∃ records : List Record,
              records.Subperm (connection.database.records (tableName type)) ∧
                records.mapM (readRecord type) = .ok resources := by
  have formed := ofTypes_formed valid
  obtain ⟨shaped, _⟩ := reachable_shaped valid tables shared columns reachable
  have sole {type target : EntityType} {relationship : Relationship}
      (one : api.schema.LeadsToOne type relationship target) :
      Sole api.schema type relationship target connection.database :=
    reachable_sole valid tables apart columns keys agree one reachable
  refine ⟨fun type relationship target one => ?_, fun type known unsorted query leads resources run => ?_⟩
  · have loaded := execute_loadRelation shaped (reserved target one.relates.known')
      one.relates.known one.relates.own (one.relates.found formed) (Eq.refl connection.database)
    refine ⟨(sole one).owners tables one, fun owner => ?_, fun exact owners => ?_⟩
    · obtain ⟨links, read⟩ := (sole one).readable one.relates (idCells type [owner])
      refine ⟨links, (loaded [owner]).trans read, ?_⟩
      rw [← (mapM_forall₂ read).length_eq]
      exact (sole one).loaded_few tables one owner
    · obtain ⟨links, read⟩ := (sole one).readable one.relates (idCells type owners)
      exact ⟨links, (loaded owners).trans read,
        links_few ((sole one).links_apart tables one exact read)⟩
  · have tidy : Tidy api.schema connection.database :=
      ⟨formed, tables, columns, shaped, fun _ _ _ => sole⟩
    exact ordered_query_keeps tidy known unsorted leads rfl (Prod.ext run rfl)

end

/-! Users with a profile each, which has the key. -/

namespace Profiles

def own : Relationship :=
  ⟨"profile", .toOne, "profile", true, .targetKey "user_id"⟩

def user : EntityType :=
  ⟨"user", none, ⟨"id", .string, false⟩, [], [own], []⟩

def profile : EntityType :=
  ⟨"profile", none, ⟨"id", .string, false⟩, [⟨"bio", .string, false⟩], [], []⟩

def schema : Schema := ⟨[profile, user]⟩

def served (schema : Schema) : Api :=
  { Api.ofSchema schema {} with
    resources := [("profile", { allowClientIds := true }), ("user", { allowClientIds := true })] }

theorem leadsToOne : schema.LeadsToOne user own profile where
  relates := ⟨List.mem_cons_of_mem _ List.mem_cons_self, List.mem_cons_self, rfl⟩
  toOne := rfl
  targets := by decide
  owners := by
    rintro other via other' ⟨known, stated, _⟩ _
    simp only [schema, List.mem_cons, List.not_mem_nil, or_false] at known
    rcases known with rfl | rfl
    · cases stated
    · exact ⟨rfl, List.mem_singleton.mp stated⟩

def requests : List Request :=
  [Client.create "profile" [("id", .string "a")], Client.create "profile" [("id", .string "b")],
    Client.create "user" [("id", .string "ann"),
      Client.linked "profile" (Client.identifier "profile" "a")],
    ⟨.patch, Client.url "/api/user/ann/relationships/profile",
      some (.object [("data", Client.identifier "profile" "b")])⟩]

@[irreducible]
def serving : Connection :=
  ⟨afterRequests (served schema) Client.now requests, none, []⟩

def byBio : Query :=
  { predicate := .always, ordering := [⟨["profile"], "bio", false⟩] }

end Profiles

theorem profile_linked_once : Schema.ofTypes [Profiles.user, Profiles.profile] = .ok Profiles.schema ∧
    Profiles.schema.LeadsToOne Profiles.user Profiles.own Profiles.profile ∧
    (∀ key ∈ Profiles.byBio.ordering, Profiles.schema.LeadsAlong Profiles.user key.path) ∧
    Reachable (Profiles.served Profiles.schema) (fun _ => True) Profiles.serving.database ∧
    (∃ links, (execute (loadRelation Profiles.schema Profiles.user Profiles.own ["ann"])
        Profiles.serving).1 = .ok links ∧ links.length ≤ 1) ∧
    ∃ resources, (execute (Mapping.query Profiles.schema Profiles.user Profiles.byBio)
        Profiles.serving).1 = .ok resources ∧ ∃ records : List Record,
      records.Subperm (Profiles.serving.database.records (tableName Profiles.user)) ∧
        records.mapM (readRecord Profiles.user) = .ok resources := by
  have valid : Schema.ofTypes [Profiles.user, Profiles.profile] =
      .ok (Profiles.served Profiles.schema).schema := rfl
  have along : ∀ key ∈ Profiles.byBio.ordering,
      Profiles.schema.LeadsAlong Profiles.user key.path := by
    intro key member
    rw [List.mem_singleton.mp member]
    exact .step Profiles.leadsToOne (.done Profiles.profile)
  have reachable : Reachable (Profiles.served Profiles.schema) (fun _ => True) Profiles.serving.database := by
    unfold Profiles.serving
    dsimp only
    exact reachable_requests (registered_of_done (by decide +kernel)) fun _ _ => trivial
  have sorted : (execute (Mapping.query Profiles.schema Profiles.user Profiles.byBio)
      Profiles.serving).1.map (List.map Instance.id) = .ok ["ann"] := by decide +kernel
  obtain ⟨links, orders⟩ := to_one_links_once valid (by decide +kernel) (by decide)
    (by decide) (by decide +kernel) (by decide +kernel) (by decide +kernel)
    (by decide +kernel) reachable
  obtain ⟨_, single, _⟩ := links Profiles.user Profiles.own Profiles.profile Profiles.leadsToOne
  obtain ⟨resources, answered, _⟩ := map_ok sorted
  exact ⟨valid, Profiles.leadsToOne, along, reachable, single "ann", resources,
    answered, orders Profiles.user (List.mem_cons_of_mem _ List.mem_cons_self)
      (unsorted_of_head (by decide +kernel) 1) Profiles.byBio along resources answered⟩

/-! The same users, with profiles that have a relationship to their user in the same column. -/

namespace Profiles

def inverse : EntityType :=
  { profile with relationships := [⟨"user", .toOne, "user", true, .ownerKey "user_id"⟩] }

def twoWay : Schema := ⟨[inverse, user]⟩

def rivals : List Request :=
  [Client.create "user" [("id", .string "ann")],
    Client.create "profile" [("id", .string "a"), Client.linked "user" (Client.identifier "user" "ann")],
    Client.create "profile" [("id", .string "b"), Client.linked "user" (Client.identifier "user" "ann")]]

@[irreducible]
def rivalling : Connection :=
  ⟨afterRequests (served twoWay) Client.now rivals, none, []⟩

end Profiles

/-- A relationship that keeps its links where another to-one relationship has them gives that one two targets.
Then both are loaded for the owner, and an order that follows it repeats the owner. -/
theorem inverse_links_twice :
    Schema.ofTypes [Profiles.user, Profiles.inverse] = .ok Profiles.twoWay ∧
      Profiles.own.isToMany = false ∧
      Reachable (Profiles.served Profiles.twoWay) (fun _ => True) Profiles.rivalling.database ∧
      (execute (loadRelation Profiles.twoWay Profiles.user Profiles.own ["ann"])
        Profiles.rivalling).1.map (List.map fun link => (link.1, link.2.id)) =
          .ok [("ann", "a"), ("ann", "b")] ∧
      (execute (Mapping.query Profiles.twoWay Profiles.user Profiles.byBio)
        Profiles.rivalling).1.map (List.map Instance.id) = .ok ["ann", "ann"] := by
  refine ⟨rfl, rfl, ?_, by decide +kernel⟩
  unfold Profiles.rivalling
  dsimp only
  exact reachable_requests (registered_of_done (by decide +kernel)) fun _ _ => trivial

end ResourceServer
