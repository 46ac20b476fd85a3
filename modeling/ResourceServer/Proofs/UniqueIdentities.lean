import ResourceServer.Proofs.Cardinality
import ResourceServer.Proofs.FieldRows

/-! An identity is that of one stored resource at most, where the table of the type keeps identities unique by
themselves. Then requests that name a resource touch one at most. -/

namespace ResourceServer

open ResourceServer.Number ResourceServer.Store ResourceServer.Mapping ResourceServer.Api

namespace Store.Cell

def IsZero (cell : Cell) : Prop :=
  cell.type? = some .decimal ∧ cell.rank? = some 0

theorem decimal_of_rank {left right : Binary64} {rank : Int} (nonzero : rank ≠ 0)
    (one : left.rank? = some rank) (other : right.rank? = some rank) : left = right := by
  rcases left with _ | ⟨_ | _, magnitude⟩ <;> rcases right with _ | ⟨_ | _, magnitude'⟩ <;>
    simp only [Binary64.rank?, Option.some.injEq, reduceCtorEq] at one other
  all_goals first
    | (obtain rfl : magnitude = magnitude' := by omega
       rfl)
    | omega

theorem eq_of_agrees {left right : Cell} (agree : left.agrees right) (kind : left.type? = right.type?)
    (nonzero : ¬right.IsZero) : left = right := by
  rcases agrees_iff.mp agree with ⟨same, _⟩ | ⟨either, rank, one, other⟩
  · exact same
  · have decimal : right.type? = some .decimal := either.elim (kind ▸ ·) id
    obtain ⟨number, rfl⟩ : ∃ number, right = .decimal number := by
      cases right <;> simp_all [type?]
    obtain ⟨number', rfl⟩ : ∃ number, left = .decimal number := by
      cases left <;> simp_all [type?]
    have apart : rank ≠ 0 := by
      rintro rfl
      exact nonzero ⟨rfl, other⟩
    exact congrArg Cell.decimal (decimal_of_rank apart one other)

end Store.Cell

theorem KeyUnique.apart {column : String} {records : List Record} {kind : ColumnType}
    (unique : KeyUnique [column] records) (typed : ∀ record ∈ records, kind.takes (record column))
    {value : Cell} (own : value.type? = some kind) (nonzero : ¬value.IsZero) :
    (records.filter fun record => (record column).agrees value).length ≤ 1 := by
  have held (record : Record) (member : record ∈ records) (agree : (record column).agrees value) :
      record.key? [column] = some [value] := by
    have same := Cell.eq_of_agrees agree ((agreeing_kind (typed record member) agree).trans own.symm)
      nonzero
    rw [key?_single, same, if_neg]
    rintro rfl
    cases own
  unfold KeyUnique List.Nodup at unique
  rw [List.pairwise_filterMap] at unique
  refine few_iff.mpr (List.pairwise_filter.mpr (unique.imp_of_mem ?_))
  intro left right member member' apart here there
  exact apart _ (held left member here) _ (held right member' there) rfl

def TouchesOne {α : Type} (before after : List α) : Prop :=
  ∃ front old new back, before = front ++ old ++ back ∧ after = front ++ new ++ back ∧
    old.length ≤ 1 ∧ new.length ≤ old.length

section

variable {α β : Type} {passes : α → Bool} {items : List α}

theorem TouchesOne.refl (items : List α) : TouchesOne items items :=
  ⟨items, [], [], [], by simp, by simp, by simp, by simp⟩

theorem single_split : ∀ {items : List α}, (items.filter passes).length ≤ 1 →
    ∃ front old back, items = front ++ old ++ back ∧ old.length ≤ 1 ∧
      (∀ item ∈ old, passes item = true) ∧
      (∀ item ∈ front, passes item = false) ∧ ∀ item ∈ back, passes item = false
  | [], _ => ⟨[], [], [], by simp⟩
  | item :: rest, few => by
    by_cases passed : passes item
    · have none : rest.filter passes = [] := by
        rw [List.filter_cons_of_pos passed] at few
        simpa using few
      refine ⟨[], [item], rest, rfl, by simp, by simpa using passed, by simp, fun other member => ?_⟩
      simpa using List.filter_eq_nil_iff.mp none other member
    · rw [List.filter_cons_of_neg passed] at few
      obtain ⟨front, old, back, rfl, short, among, before, behind⟩ := single_split few
      refine ⟨item :: front, old, back, by simp, short, among, ?_, behind⟩
      simpa using ⟨by simpa using passed, before⟩

theorem touchesOne_map (few : (items.filter passes).length ≤ 1) (place change : α → β) :
    TouchesOne (items.map place)
      (items.map fun item => if passes item then change item else place item) := by
  obtain ⟨front, old, back, rfl, short, among, before, behind⟩ := single_split few
  refine ⟨front.map place, old.map place, old.map change, back.map place, by simp, ?_,
    by simpa using short, by simp⟩
  rw [List.map_append, List.map_append]
  congr 1
  · congr 1
    · exact List.map_congr_left fun item member => by simp [before item member]
    · exact List.map_congr_left fun item member => by simp [among item member]
  · exact List.map_congr_left fun item member => by simp [behind item member]

theorem touchesOne_filter (few : (items.filter passes).length ≤ 1) :
    TouchesOne items (items.filter fun item => !passes item) := by
  obtain ⟨front, old, back, rfl, short, among, before, behind⟩ := single_split few
  refine ⟨front, old, [], back, rfl, ?_, short, by simp⟩
  rw [List.filter_append, List.filter_append, List.filter_eq_self.mpr, List.filter_eq_nil_iff.mpr,
    List.filter_eq_self.mpr]
  · exact fun item member => by simp [behind item member]
  · exact fun item member => by simp [among item member]
  · exact fun item member => by simp [before item member]

end

/-- A housed database in which the columns of fields hold values of their types. -/
structure Kept (schema : Schema) (database : Database) : Prop where
  housed : Housed schema database
  typed : FieldsTyped schema database

theorem kept_invariant {schema : Schema} (formed : schema.Formed) (tables : schema.TablesDistinct)
    (columns : schema.ColumnsDistinct) (fit : schema.KeysFit) :
    Invariant schema False (Kept schema) where
  formed := formed
  tables := tables
  columns := columns
  keys := False.elim
  kept _ changes filled kept := by
    obtain ⟨name, records, changed⟩ := changes.rewrites
    exact ⟨kept.housed.refills filled changed, changes.typed tables columns fit kept.typed⟩

theorem vacant_kept {schema : Schema} {connection : Connection}
    (done : execute (register schema) ⟨Database.empty, none, []⟩ = (.ok (), connection)) :
    Kept schema connection.database := by
  have vacant := (registered_columns done).1
  exact ⟨⟨⟨connection, done, rfl⟩, vacant_wide vacant, vacant_obeyed vacant⟩, vacant_typed vacant⟩

section

variable {schema : Schema} {database : Database} {type : EntityType} {id : String}

theorem Kept.one_record (kept : Kept schema database) (tables : schema.TablesDistinct)
    (known : type ∈ schema.types) (keyed : type.KeyedById)
    (nonzero : ∀ number, type.readId? id = some (.decimal number) → number.rank? ≠ some 0)
    {cell : Cell} (read : idCell? type id = some cell) :
    ((database.records (tableName type)).filter fun record =>
      (record (idName type)).agrees cell).length ≤ 1 := by
  refine KeyUnique.apart (kept.housed.identity_unique tables known keyed)
    (kept.typed.identities known) (idCell_kind read) ?_
  obtain ⟨value, spelled, rfl⟩ := Option.map_eq_some_iff.mp read
  rintro ⟨kind, zero⟩
  cases value with
  | decimal number => exact nonzero number spelled zero
  | _ => cases kind

theorem get_one (tabled : Tabled schema database type) (typed : FieldsTyped schema database)
    (columns : schema.ColumnsDistinct) (known : type ∈ schema.types)
    (one : ∀ cell, idCell? type id = some cell → ((database.records (tableName type)).filter
      fun record => (record (idName type)).agrees cell).length ≤ 1)
    {connection : Connection} (here : connection.database = database) :
    ∃ resources, (execute (get type [id]) connection).1 = .ok resources ∧ resources.length ≤ 1 := by
  rw [execute_findResources tabled columns known here]
  have inside {record : Record} (member : record ∈ foundRecords database type (idCells type [id])) :
      record ∈ database.records (tableName type) :=
    (List.mem_filter.mp ((stableSort_perm _ _).mem_iff.mp member)).1
  have readable : ∀ record ∈ foundRecords database type (idCells type [id]),
      ∃ resource, readRecord type record = .ok resource :=
    fun record member => readRecord_ok (typed type known record (inside member))
  obtain ⟨resources, read⟩ := mapM_succeeds readable
  refine ⟨resources, read, ?_⟩
  rw [← (mapM_forall₂ read).length_eq, foundRecords, (stableSort_perm _ _).length_eq]
  cases spelled : idCell? type id with
  | none => simp [idCells, spelled]
  | some cell => simpa [idCells, spelled] using one cell spelled

end

/-- Between two databases the fields of one resource of a type at most are changed or left out, and the fields of
other types are as they were. -/
structure TouchesResource (schema : Schema) (type : EntityType) (before after : Database) : Prop where
  others : ∀ other ∈ schema.types, other ≠ type → fieldRows after other = fieldRows before other
  own : TouchesOne (fieldRows before type) (fieldRows after type)

section

variable {schema : Schema} {type : EntityType} {start before after : Database}

/-- A resource at most is changed, and none is left out. -/
structure AltersResource (schema : Schema) (type : EntityType) (before after : Database) : Prop
    extends TouchesResource schema type before after where
  several : (fieldRows after type).length = (fieldRows before type).length

theorem TouchesResource.refl : TouchesResource schema type start start :=
  ⟨fun _ _ _ => rfl, .refl _⟩

theorem AltersResource.refl : AltersResource schema type start start :=
  ⟨.refl, rfl⟩

theorem TouchesResource.alike (known : type ∈ schema.types)
    (touched : TouchesResource schema type start before) (same : FieldsAlike schema before after) :
    TouchesResource schema type start after where
  others other known' apart := (same other known').trans (touched.others other known' apart)
  own := (same type known).symm ▸ touched.own

theorem AltersResource.alike (known : type ∈ schema.types)
    (altered : AltersResource schema type start before) (same : FieldsAlike schema before after) :
    AltersResource schema type start after :=
  ⟨altered.toTouchesResource.alike known same, (same type known).symm ▸ altered.several⟩

end

section

variable {api : Api} {type : EntityType} {id : String} {database : Database}

theorem update_touches {schema : Schema} (tables : schema.TablesDistinct) (known : type ∈ schema.types)
    (laid : Laid schema database)
    (one : ∀ cell, idCell? type id = some cell → ((database.records (tableName type)).filter
      fun record => (record (idName type)).agrees cell).length ≤ 1) (values : Keyed Value) :
    Yields (· = database) (Mapping.update type id values) fun after =>
      Laid schema after ∧ AltersResource schema type database after := by
  refine ⟨fun {connection after existed} here run => ?_⟩
  subst here
  rcases update_assigns laid.wide run with same | ⟨cell, read, changed⟩
  · rw [same]
    exact ⟨laid, .refl⟩
  · have rows := fieldRows_assigned changed
    refine ⟨laid.rewrites changed, ⟨⟨fun other known' apart => ?_, ?_⟩, ?_⟩⟩
    · exact fieldRows_other changed tables known known' apart
    · rw [rows]
      exact touchesOne_map (one cell read) _ _
    · rw [rows, List.length_map, fieldRows, List.length_map]

theorem touching_yields {request : Request} {endpoint : Endpoint} (formed : api.schema.Formed)
    (tables : api.schema.TablesDistinct) (keys : api.schema.KeysApart)
    (laid : Laid api.schema database)
    (routed : api.route request.url.path = .ok (endpoint, .resource id))
    (one : ∀ cell, idCell? endpoint.type id = some cell →
      ((database.records (tableName endpoint.type)).filter fun record =>
        (record (idName endpoint.type)).agrees cell).length ≤ 1) :
    WritesYield api request (· = database) fun after =>
      TouchesResource api.schema endpoint.type database after ∧
        (request.verb ≠ .delete → AltersResource api.schema endpoint.type database after) where
  idle := by
    rintro _ rfl
    exact ⟨.refl, fun _ => .refl⟩
  store _ routed' := by cases routed.symm.trans routed'
  change _ routed' read := by
    cases routed.symm.trans routed'
    have known := route_known routed
    have invariant : LinkInvariant api.schema False (AltersResource api.schema endpoint.type database) :=
      fields_invariant formed tables keys fun same altered => altered.alike known same
    refine establishes_bind (establishes_mapError _ (update_touches tables known laid one _))
      fun existed => establishes_guard fun _ => ?_
    have written := writeLinkages_ready invariant
      (fun entry member => ⟨known, (readChange_fills read).2 entry member, fun _ _ _ => trivial⟩ :
        ∀ entry ∈ _, Owned api.schema (fun _ _ => True) endpoint.type entry.1 id)
      endpoint.config.allowReplacement
    exact establishes_weaken written (fun _ altered => ⟨altered.1, altered.2, False.elim⟩)
      fun _ _ ready => ⟨ready.held.toTouchesResource, fun _ => ready.held⟩
  delete deleted routed' := by
    cases routed.symm.trans routed'
    have known := route_known routed
    cases read : idCell? endpoint.type id with
    | none =>
        unfold Mapping.delete
        rw [read]
        refine establishes_pure ?_
        rintro _ rfl
        exact ⟨.refl, fun kept => absurd deleted kept⟩
    | some cell =>
        refine establishes_weaken (delete_fieldRows formed tables keys known read laid)
          (fun _ here => here) fun _ _ left => ⟨⟨left.1, ?_⟩, fun kept => absurd deleted kept⟩
        rw [left.2]
        refine touchesOne_filter ?_
        have few := one cell read
        rw [fieldRows, List.filter_map, List.length_map]
        exact few
  links _ routed' := by cases routed.symm.trans routed'

end

section

variable {api : Api} {types : List EntityType} (valid : Schema.ofTypes types = .ok api.schema)
  (tables : api.schema.TablesDistinct) (columns : api.schema.ColumnsDistinct)
  (keys : api.schema.KeysApart) {type : EntityType} (known : type ∈ api.schema.types)
include valid tables columns keys known

/-- After any requests, one record at most has the identity that a text spells, if the type's table keeps
identities unique by themselves and the identity is no decimal zero. So one resource at most is read for the text,
and a request that names it so changes or deletes one at most. -/
theorem identity_of_one_resource (keyed : type.KeyedById) {database : Database}
    (reachable : Reachable api (fun _ => True) database) {id : String}
    (nonzero : ∀ number, type.readId? id = some (.decimal number) → number.rank? ≠ some 0) :
    (∀ cell, idCell? type id = some cell → ((database.records (tableName type)).filter
      fun record => (record (idName type)).agrees cell).length ≤ 1) ∧
      (∀ connection : Connection, connection.database = database →
        ∃ resources, (execute (get type [id]) connection).1 = .ok resources ∧
          resources.length ≤ 1) ∧
      ∀ now request endpoint, api.route request.url.path = .ok (endpoint, .resource id) →
        endpoint.type = type →
          TouchesResource api.schema type database (handle api now request database).database ∧
            (request.verb ≠ .delete →
              AltersResource api.schema type database (handle api now request database).database) := by
  have formed := ofTypes_formed valid
  obtain ⟨laid, kept⟩ := reachable_invariant (kept_invariant formed tables columns keys.fit) False.elim
    (fun _ done => vacant_kept done) reachable
  have one {cell : Cell} (read : idCell? type id = some cell) :=
    kept.one_record tables known keyed nonzero read
  refine ⟨fun cell => one, fun connection here => ?_, ?_⟩
  · exact get_one (laid.tabled known) kept.typed columns known (fun cell => one) here
  · rintro now request endpoint routed rfl
    exact handle_yields (touching_yields formed tables keys laid routed fun cell => one) now rfl

end

/-! Seats, which are told apart by their rows as well, and marks, which have decimals as identities. -/

namespace Theater

def seat : EntityType :=
  ⟨"seat", none, ⟨"id", .string, false⟩, [⟨"row", .integer, false⟩], [], ["row"]⟩

def mark : EntityType :=
  ⟨"mark", none, ⟨"id", .decimal, false⟩, [], [], []⟩

def schema : Schema := ⟨[mark, seat]⟩

def api : Api :=
  { Api.ofSchema schema {} with
    resources := [("mark", { allowClientIds := true }), ("seat", { allowClientIds := true })] }

def seating (row : Int) : Request :=
  Client.create "seat" [("id", .string "a"), ("attributes", .object [("row", .integer row)])]

def requests : List Request :=
  [seating 1, seating 2, Client.create "mark" [("id", .string "0")],
    Client.create "mark" [("id", .string "-0")], Client.create "mark" [("id", .string "1.5")]]

def opened : Database :=
  ⟨[⟨"mark", [⟨"id", .decimal⟩], [[0]],
      [[.decimal (.signed false 0)], [.decimal (.signed true 0)],
        [.decimal (.signed false 4609434218613702656)]], 1⟩,
    ⟨"seat", [⟨"id", .text⟩, ⟨"row", .integer⟩], [[0, 1]],
      [[.text "a", .integer 1], [.text "a", .integer 2]], 1⟩]⟩

theorem opened_reachable : Reachable api (fun _ => True) opened :=
  Client.reachable_of_done requests (by decide +kernel)

def without (type id : String) : Database :=
  (handle api Client.now (Client.delete type id) opened).database

end Theater

theorem mark_is_touched_alone : Schema.ofTypes [Theater.seat, Theater.mark] = .ok Theater.api.schema ∧
    Theater.mark ∈ Theater.api.schema.types ∧ Theater.mark.KeyedById ∧
    Reachable Theater.api (fun _ => True) Theater.opened ∧
    (∀ number, Theater.mark.readId? "1.50" = some (.decimal number) → number.rank? ≠ some 0) ∧
    TouchesResource Theater.api.schema Theater.mark Theater.opened
      (Theater.without "mark" "1.50") ∧
    (fieldRows Theater.opened Theater.mark).length = 3 ∧
    (fieldRows (Theater.without "mark" "1.50") Theater.mark).length = 2 := by
  have nonzero : ∀ number, Theater.mark.readId? "1.50" = some (.decimal number) →
      number.rank? ≠ some 0 := by
    intro number read
    have spelled : Theater.mark.readId? "1.50" = some (.decimal (.signed false 4609434218613702656)) := by
      decide +kernel
    cases spelled.symm.trans read
    decide
  have routed : ∃ endpoint, Theater.api.route (Client.delete "mark" "1.50").url.path =
      .ok (endpoint, .resource "1.50") ∧ endpoint.type = Theater.mark := ⟨_, rfl, rfl⟩
  obtain ⟨endpoint, routed, same⟩ := routed
  have valid : Schema.ofTypes [Theater.seat, Theater.mark] = .ok Theater.api.schema := rfl
  obtain ⟨_, _, touches⟩ := identity_of_one_resource valid (by decide +kernel) (by decide +kernel)
    (by decide +kernel) List.mem_cons_self (by decide) Theater.opened_reachable nonzero
  exact ⟨valid, List.mem_cons_self, by decide, Theater.opened_reachable, nonzero,
    (touches Client.now _ endpoint routed same).1, by decide +kernel⟩

/-- Where more fields are part of the key, an identity may be that of two resources, and a decimal zero is that of
the other zero. Both are read under it and deleted with it. -/
theorem identity_of_two_resources :
    Schema.ofTypes [Theater.seat, Theater.mark] = .ok Theater.api.schema ∧
      Reachable Theater.api (fun _ => True) Theater.opened ∧
      (execute (get Theater.seat ["a"]) ⟨Theater.opened, none, []⟩).1.map (List.map Instance.id) =
        .ok ["a", "a"] ∧
      (execute (get Theater.mark ["0"]) ⟨Theater.opened, none, []⟩).1.map (List.map Instance.id) =
        .ok ["0", "-0"] ∧
      fieldRows (Theater.without "seat" "a") Theater.seat = [] ∧
      (fieldRows (Theater.without "mark" "0") Theater.mark).length = 1 :=
  ⟨rfl, Theater.opened_reachable, by decide +kernel⟩

end ResourceServer
