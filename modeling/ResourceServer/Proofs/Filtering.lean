import ResourceServer.Proofs.Execution
import ResourceServer.Proofs.Preservation

/-! When accepted filters fail on the databases that requests lead to. -/

namespace ResourceServer

open ResourceServer.Store ResourceServer.Mapping ResourceServer.Api
open ResourceServer.Filter (Node Predicate resolveAll)

theorem columns_found {database : Database} {name : String} {columns : List ColumnDefinition}
    (laid : database.columns? name = some columns) :
    ∃ table, database.table? name = some table ∧ table.columns = columns :=
  Option.map_eq_some_iff.mp laid

theorem Laid.tabled {schema : Schema} {database : Database} (laid : Laid schema database)
    {type : EntityType} (known : type ∈ schema.types) : Tabled schema database type := by
  obtain ⟨columns, here, planned⟩ := laid.entities type known
  obtain ⟨table, found, rfl⟩ := columns_found here
  exact ⟨table, found, planned, laid.wide _ table found⟩

theorem laid_shaped {schema : Schema} {database : Database} (laid : Laid schema database)
    (paired : Paired schema database) : Shaped schema database := by
  constructor
  · exact fun type => laid.tabled
  · intro type known relationship own pairs ownerColumn targetColumn storage
    obtain ⟨columns, here, owners, targets⟩ := paired type known relationship own _ _ _ storage
    obtain ⟨table, found, rfl⟩ := columns_found here
    exact ⟨table, found, owners, targets, laid.wide _ table found⟩

theorem shape_invariant {schema : Schema} (formed : schema.Formed) (tables : schema.TablesDistinct)
    (columns : schema.ColumnsDistinct) :
    Invariant schema False fun database =>
      Paired schema database ∧ (schema.KeysApart → FieldsTyped schema database) where
  formed := formed
  tables := tables
  columns := columns
  keys := False.elim
  kept _ changes _ held :=
    ⟨changes.paired held.1, fun keys => changes.typed tables columns keys.fit (held.2 keys)⟩

theorem vacant_records {database : Database} (vacant : database.Vacant) (name : String) :
    database.records name = [] := by
  unfold Database.records
  cases found : database.table? name with
  | none => rfl
  | some table =>
      have empty := vacant name table found
      simp [Table.records, empty]

theorem vacant_typed {schema : Schema} {database : Database} (vacant : database.Vacant) :
    FieldsTyped schema database := by
  intro type known record member
  rw [vacant_records vacant] at member
  cases member

section

variable {api : Api} {types : List EntityType} (valid : Schema.ofTypes types = .ok api.schema)
  (tables : api.schema.TablesDistinct) (shared : api.schema.PairsShared)
  (columns : api.schema.ColumnsDistinct)
include valid tables shared columns

theorem reachable_shaped {database : Database} (reachable : Reachable api (fun _ => True) database) :
    Shaped api.schema database ∧ (api.schema.KeysApart → FieldsTyped api.schema database) := by
  have formed := ofTypes_formed valid
  have start : ∀ connection, execute (register api.schema) ⟨Database.empty, none, []⟩ =
      (.ok (), connection) → Paired api.schema connection.database ∧
        (api.schema.KeysApart → FieldsTyped api.schema connection.database) := by
    intro connection done
    refine ⟨registered_paired tables shared (fun type known relationship own => ?_) done,
      fun _ => vacant_typed (registered_columns done).1⟩
    obtain ⟨target, _, _, found, _⟩ := formed.target known own
    exact ⟨target, found⟩
  obtain ⟨laid, paired, typed⟩ := reachable_invariant (shape_invariant formed tables columns)
    False.elim start reachable
  exact ⟨laid_shaped laid paired, typed⟩

/-- An accepted filter compiles. After any requests, a count with it fails exactly where a pattern or a search
is misapplied on a row, and a query besides that only where a row that it selects can not be read. Where no key
column is one of a field, all rows can be read, and only a filter with a pattern or a search on a field that
does not hold text can be misapplied. -/
theorem accepted_filter_failures {connection : Connection}
    (reachable : Reachable api (fun _ => True) connection.database) {type : EntityType}
    (known : type ∈ api.schema.types) {now : Calendar.Timestamp} {nodes : List Node}
    {predicate : Predicate} (accepted : resolveAll api.schema now type nodes = .ok predicate) :
    ∃ clause, filterClause api.schema type predicate = .ok clause ∧
      ((∃ error, (execute (Mapping.count api.schema type predicate) connection).1 = .error error) ↔
        MisappliedAmong connection.database type clause) ∧
      ((∃ error, (execute (Mapping.query api.schema type { predicate }) connection).1 =
          .error error) ↔
        MisappliedAmong connection.database type clause ∨
          UnreadableAmong connection.database type clause) ∧
      (api.schema.KeysApart → ¬UnreadableAmong connection.database type clause ∧
        (MisappliedAmong connection.database type clause → predicate.Strained api.schema type)) := by
  obtain ⟨shaped, typed⟩ := reachable_shaped valid tables shared columns reachable
  have members := resolveAll_accepted (ofTypes_formed valid) known accepted
  obtain ⟨clause, compiled, counts, queries, strained⟩ :=
    accepted_execution shaped columns known members
  exact ⟨clause, compiled, counts, queries, fun keys =>
    ⟨readable_of_typed known (typed keys) clause, strained (typed keys)⟩⟩

end

def registeredTables (api : Api) : Connection :=
  (execute (register api.schema) ⟨Database.empty, none, []⟩).2

theorem registered_of_done {api : Api}
    (done : (execute (register api.schema) ⟨Database.empty, none, []⟩).1 = .ok ()) :
    execute (register api.schema) ⟨Database.empty, none, []⟩ = (.ok (), registeredTables api) :=
  execute_outcome done

def afterRequests (api : Api) (now : Calendar.Timestamp) (requests : List Request) : Database :=
  requests.foldl (fun database request => (handle api now request database).database)
    (registeredTables api).database

theorem reachable_requests {api : Api} {allowed : Request → Prop} {now : Calendar.Timestamp}
    (registers : execute (register api.schema) ⟨Database.empty, none, []⟩ =
      (.ok (), registeredTables api)) {requests : List Request}
    (fit : ∀ request ∈ requests, allowed request) :
    Reachable api allowed (afterRequests api now requests) := by
  have later (database : Database) (before : Reachable api allowed database) : Reachable api allowed
      (requests.foldl (fun database request => (handle api now request database).database)
        database) := by
    induction requests generalizing database with
    | nil => exact before
    | cons request rest ih =>
        exact ih (fun other member => fit other (List.mem_cons_of_mem _ member)) _
          (.handled now (fit request List.mem_cons_self) before)
  exact later _ (.registered registers)

/-! Requests of a client. -/

namespace Client

theorem isDate_newYear : Calendar.IsDate 2024 1 1 := by decide

theorem isTime_midnight : Calendar.IsTime 0 0 0 0 := by decide

def now : Calendar.Timestamp :=
  ⟨⟨2024, 1, 1, isDate_newYear⟩, ⟨0, 0, 0, 0, isTime_midnight⟩⟩

/-- What requests make of the first tables of an API can be reached. -/
theorem reachable_of_done {api : Api} {database : Database} (requests : List Request)
    (done : (execute (register api.schema) ⟨Database.empty, none, []⟩).1 = .ok () ∧
      afterRequests api now requests = database) : Reachable api (fun _ => True) database := by
  rw [← done.2]
  exact reachable_requests (registered_of_done done.1) fun _ _ => trivial

def url (path : String) : Url :=
  ⟨"http", some (.ofHost "localhost"), path, none, none⟩

def create (type : String) (members : List (String × Json)) : Request :=
  ⟨.post, url ("/api/" ++ type), some (.object [("data", .object (members ++ [("type", .string type)]))])⟩

def delete (type id : String) : Request :=
  ⟨.delete, url ("/api/" ++ type ++ "/" ++ id), none⟩

def linked (relationship : String) (linkage : Json) : String × Json :=
  ("relationships", .object [(relationship, .object [("data", linkage)])])

def identifier (type id : String) : Json :=
  .object [("id", .string id), ("type", .string type)]

end Client

/-! A book is put on an empty shelf. -/

namespace Shelf

theorem tablesDistinct : schema.TablesDistinct := by decide

theorem pairsShared : schema.PairsShared := by decide

theorem columnsDistinct : schema.ColumnsDistinct := by decide +kernel

theorem keysApart : schema.KeysApart := by decide +kernel

def api : Api :=
  { Api.ofSchema schema {} with resources := [("author", {}), ("book", {})] }

theorem registers : execute (register api.schema) ⟨Database.empty, none, []⟩ =
    (.ok (), registeredTables api) :=
  registered_of_done (by decide +kernel)

def creation : Request :=
  Client.create "book" [("attributes", .object [("title", .string "Dawn")])]

@[irreducible]
def serving : Connection :=
  ⟨afterRequests api Client.now [creation], none, []⟩

theorem serving_reachable : Reachable api (fun _ => True) serving.database := by
  unfold serving
  dsimp only
  exact reachable_requests registers fun _ _ => trivial

def numbered : Node :=
  .leaf "id" .like (.value (.string "1%"))

theorem numbered_accepted :
    resolveAll api.schema Client.now book [numbered] = .ok (.like "id" "1%" false) := rfl

theorem numbered_fails :
    (execute (Mapping.count api.schema book (.like "id" "1%" false)) serving).1 =
      .error (.store (.notMatchable (.integer 1))) := by
  decide +kernel

end Shelf

/-- An accepted filter fails after a request, on a field that does not hold text. -/
theorem accepted_pattern_fails : Reachable Shelf.api (fun _ => True) Shelf.serving.database ∧
    resolveAll Shelf.api.schema Client.now Shelf.book [Shelf.numbered] =
      .ok (.like "id" "1%" false) ∧
    (execute (Mapping.count Shelf.api.schema Shelf.book (.like "id" "1%" false)) Shelf.serving).1 =
      .error (.store (.notMatchable (.integer 1))) :=
  ⟨Shelf.serving_reachable, Shelf.numbered_accepted, Shelf.numbered_fails⟩

theorem pattern_misapplied_to_number :
    Schema.ofTypes [Shelf.author, Shelf.book] = .ok Shelf.api.schema ∧
      Shelf.api.schema.TablesDistinct ∧ Shelf.api.schema.PairsShared ∧
      Shelf.api.schema.ColumnsDistinct ∧
      Reachable Shelf.api (fun _ => True) Shelf.serving.database ∧
      Shelf.book ∈ Shelf.api.schema.types ∧
      resolveAll Shelf.api.schema Client.now Shelf.book [Shelf.numbered] =
        .ok (.like "id" "1%" false) ∧
      ∃ clause, filterClause Shelf.api.schema Shelf.book (.like "id" "1%" false) = .ok clause ∧
        MisappliedAmong Shelf.serving.database Shelf.book clause := by
  have known : Shelf.book ∈ Shelf.api.schema.types := List.mem_cons_of_mem _ List.mem_cons_self
  have valid : Schema.ofTypes [Shelf.author, Shelf.book] = .ok Shelf.api.schema := rfl
  refine ⟨valid, Shelf.tablesDistinct, Shelf.pairsShared, Shelf.columnsDistinct,
    Shelf.serving_reachable, known, Shelf.numbered_accepted, ?_⟩
  obtain ⟨clause, compiled, counts, _⟩ := accepted_filter_failures valid Shelf.tablesDistinct
    Shelf.pairsShared Shelf.columnsDistinct Shelf.serving_reachable known
    Shelf.numbered_accepted
  exact ⟨clause, compiled, counts.mp ⟨_, Shelf.numbered_fails⟩⟩

end ResourceServer
