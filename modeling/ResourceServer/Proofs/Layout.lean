import ResourceServer.Proofs.Columns
import ResourceServer.Proofs.Writes

/-! The tables that the registration of a schema creates. -/

namespace ResourceServer

open ResourceServer.Store ResourceServer.Mapping

namespace Store

theorem addConstraint_columns {table changed : Table} {constraint : Constraint}
    (added : table.addConstraint constraint = .ok changed) :
    changed.name = table.name ∧ changed.columns = table.columns ∧ changed.rows = table.rows := by
  unfold Table.addConstraint at added
  split at added
  · cases added
    exact ⟨rfl, rfl, rfl⟩
  · obtain ⟨positions, _, rfl⟩ := map_ok added
    exact ⟨rfl, rfl, rfl⟩

theorem addConstraints_columns {table changed : Table} {constraints : List Constraint}
    (added : constraints.foldlM Table.addConstraint table = .ok changed) :
    changed.name = table.name ∧ changed.columns = table.columns ∧ changed.rows = table.rows := by
  induction constraints generalizing table with
  | nil =>
      cases added
      exact ⟨rfl, rfl, rfl⟩
  | cons constraint rest ih =>
      rw [List.foldlM_cons] at added
      obtain ⟨middle, one, others⟩ := bind_ok added
      have first := addConstraint_columns one
      have last := ih others
      exact ⟨last.1.trans first.1, last.2.1.trans first.2.1, last.2.2.trans first.2.2⟩

def Database.Vacant (database : Database) : Prop :=
  ∀ name table, database.table? name = some table → table.rows = []

theorem createTable_columns {database after : Database} {name : String}
    {columns : List ColumnDefinition} {constraints : List Constraint}
    (created : database.createTable name columns constraints = .ok after) :
    (database.Vacant → after.Vacant) ∧ ∀ wanted, after.columns? wanted =
      (database.columns? wanted).or (if name = wanted then some columns else none) := by
  unfold Database.createTable at created
  split at created
  · rename_i table found
    cases created
    refine ⟨id, fun wanted => ?_⟩
    by_cases same : name = wanted
    · subst same
      unfold Database.columns?
      rw [found]
      rfl
    · rw [if_neg same, Option.or_none]
  · rename_i absent
    obtain ⟨table, added, same⟩ := bind_ok created
    cases same
    obtain ⟨named, laid, empty⟩ := addConstraints_columns added
    have lookup : ∀ wanted, (⟨database.tables ++ [table]⟩ : Database).table? wanted =
        (database.table? wanted).or (if name = wanted then some table else none) := by
      intro wanted
      unfold Database.table?
      rw [List.find?_append]
      by_cases same : name = wanted
      · simp [named, Table.empty, same]
      · simp [named, Table.empty, same]
    constructor
    · intro vacant wanted other found
      rw [lookup] at found
      rcases Option.or_eq_some_iff.mp found with here | ⟨_, here⟩
      · exact vacant wanted other here
      · split at here
        · cases here
          exact empty
        · cases here
    · intro wanted
      unfold Database.columns?
      rw [lookup]
      cases database.table? wanted with
      | some other => rfl
      | none =>
          by_cases same : name = wanted
          · rw [if_pos same, if_pos same]
            exact congrArg some laid
          · rw [if_neg same, if_neg same]
            rfl

end Store

theorem execute_createTable_ok {create : CreateTable} {connection after : Connection}
    (run : execute (statement (Action.createTable create)) connection = (.ok (), after)) :
    connection.database.createTable create.table create.columns create.constraints =
      .ok after.database := by
  have performed := execute_mapError_ok run
  unfold Action.createTable at performed
  have changed := execute_perform_ok (execute_note_ok performed)
  obtain ⟨database, created, same⟩ := map_ok changed
  cases same
  exact created

theorem createTables_columns {tables : List CreateTable} {connection after : Connection}
    (run : execute (tables.forM fun table => statement (Action.createTable table)) connection =
      (.ok (), after)) :
    (connection.database.Vacant → after.database.Vacant) ∧ ∀ wanted,
      after.database.columns? wanted = (connection.database.columns? wanted).or
        ((tables.find? fun create => create.table = wanted).map CreateTable.columns) := by
  induction tables generalizing connection with
  | nil =>
      cases run
      exact ⟨id, fun wanted => by simp⟩
  | cons create rest ih =>
      obtain ⟨⟨⟩, middle, one, others⟩ := execute_bind_ok run
      obtain ⟨vacant, first⟩ := createTable_columns (execute_createTable_ok one)
      obtain ⟨vacant', later⟩ := ih others
      refine ⟨fun start => vacant' (vacant start), fun wanted => ?_⟩
      rw [later, first, Option.or_assoc, List.find?_cons]
      by_cases same : create.table = wanted
      · simp [same]
      · simp [same]

/-- The statements that create the tables of a schema. -/
structure Plan (schema : Schema) where
  entities : List CreateTable
  pairs : List (List CreateTable)
  entities_eq : schema.types.mapM (entityTable schema) = .ok entities
  pairs_eq : schema.types.mapM (joinTables schema) = .ok pairs

theorem registered_plan {schema : Schema} {connection : Connection}
    (done : execute (register schema) ⟨Database.empty, none, []⟩ = (.ok (), connection)) :
    ∃ plan : Plan schema, execute ((plan.entities ++ plan.pairs.flatten).forM fun table =>
      statement (Action.createTable table)) ⟨Database.empty, none, []⟩ = (.ok (), connection) := by
  unfold register at done
  rw [execute_bind, execute_ofExcept] at done
  cases planned : schema.types.mapM (entityTable schema) with
  | error error =>
      rw [planned] at done
      cases done
  | ok entities =>
      rw [planned] at done
      dsimp only at done
      rw [execute_bind, execute_ofExcept] at done
      cases linked : schema.types.mapM (joinTables schema) with
      | error error =>
          rw [linked] at done
          cases done
      | ok pairs =>
          rw [linked] at done
          exact ⟨⟨entities, pairs, planned, linked⟩, done⟩

/-- After registration there are the planned tables, without rows. -/
theorem registered_columns {schema : Schema} {connection : Connection}
    (done : execute (register schema) ⟨Database.empty, none, []⟩ = (.ok (), connection)) :
    connection.database.Vacant ∧ ∃ plan : Plan schema, ∀ wanted,
      connection.database.columns? wanted =
        ((plan.entities ++ plan.pairs.flatten).find? fun create => create.table = wanted).map
          CreateTable.columns := by
  obtain ⟨plan, run⟩ := registered_plan done
  obtain ⟨vacant, columns⟩ := createTables_columns run
  refine ⟨vacant nofun, plan, fun wanted => ?_⟩
  rw [columns wanted]
  rfl

def Pairs (schema : Schema) (pairs : String) : Prop :=
  ∃ type ∈ schema.types, ∃ relationship ∈ type.relationships, ∃ ownerColumn targetColumn,
    relationship.storage = .joinTable pairs ownerColumn targetColumn

/-- The tables of a schema have names of their own. -/
structure Schema.TablesDistinct (schema : Schema) : Prop where
  entities : (schema.types.map tableName).Nodup
  apart : ∀ type ∈ schema.types, ∀ pairs, Pairs schema pairs → tableName type ≠ pairs

/-- Relationships that share a table of pairs use the same two columns of it. -/
def Schema.PairsShared (schema : Schema) : Prop :=
  ∀ type ∈ schema.types, ∀ relationship ∈ type.relationships,
    ∀ type' ∈ schema.types, ∀ relationship' ∈ type'.relationships,
    ∀ pairs ownerColumn targetColumn ownerColumn' targetColumn',
      relationship.storage = .joinTable pairs ownerColumn targetColumn →
      relationship'.storage = .joinTable pairs ownerColumn' targetColumn' →
        ownerColumn = ownerColumn' ∧ targetColumn = targetColumn' ∨
          ownerColumn = targetColumn' ∧ targetColumn = ownerColumn'

/-- A database has the tables of a schema and rows as wide as they. Tables of pairs have no serial columns. -/
structure Laid (schema : Schema) (database : Database) : Prop where
  wide : database.Wide
  entities : ∀ type ∈ schema.types, ∃ columns, database.columns? (tableName type) = some columns ∧
    tableColumns schema type = .ok columns
  plain : ∀ pairs, Pairs schema pairs → ∀ columns, database.columns? pairs = some columns →
    ∀ definition ∈ columns, definition.type ≠ .serial

def Paired (schema : Schema) (database : Database) : Prop :=
  ∀ type ∈ schema.types, ∀ relationship ∈ type.relationships,
    ∀ pairs ownerColumn targetColumn,
      relationship.storage = .joinTable pairs ownerColumn targetColumn →
        ∃ columns, database.columns? pairs = some columns ∧
          (∃ definition ∈ columns, definition.name = ownerColumn) ∧
          ∃ definition ∈ columns, definition.name = targetColumn

theorem Laid.of_columns {schema : Schema} {database after : Database} (laid : Laid schema database)
    (same : after.columns? = database.columns?) (wide : after.Wide) : Laid schema after := by
  refine ⟨wide, ?_, ?_⟩
  · rw [same]
    exact laid.entities
  · rw [same]
    exact laid.plain

theorem Laid.rewrites {schema : Schema} {database after : Database} {name : String}
    {records : List Record} (laid : Laid schema database)
    (changed : Rewrites database after name records) : Laid schema after :=
  laid.of_columns changed.columns (changed.wide laid.wide)

theorem Paired.rewrites {schema : Schema} {database after : Database} {name : String}
    {records : List Record} (paired : Paired schema database)
    (changed : Rewrites database after name records) : Paired schema after := by
  unfold Paired
  rw [changed.columns]
  exact paired

theorem find_unique {α : Type} {items : List α} (name : α → String)
    (distinct : (items.map name).Nodup) {item : α} (member : item ∈ items) :
    items.find? (fun other => name other = name item) = some item := by
  induction items with
  | nil => cases member
  | cons first rest ih =>
      rw [List.map_cons, List.nodup_cons] at distinct
      rcases List.mem_cons.mp member with rfl | inside
      · simp
      · have apart : name first ≠ name item := fun same =>
          distinct.1 (same ▸ List.mem_map_of_mem inside)
        rw [List.find?_cons_of_neg (by simpa using apart)]
        exact ih distinct.2 inside

theorem entityTable_ok {schema : Schema} {type : EntityType} {create : CreateTable}
    (planned : entityTable schema type = .ok create) :
    create.table = tableName type ∧ tableColumns schema type = .ok create.columns := by
  obtain ⟨columns, laid, same⟩ := bind_ok planned
  cases same
  exact ⟨rfl, laid⟩

def pairTable (schema : Schema) (type : EntityType) (relationship : Relationship) :
    Except MappingError (Option CreateTable) :=
  match relationship.storage with
  | .joinTable table ownerColumn targetColumn => do
    let target ← findType schema relationship.target
    return some ⟨table, [⟨ownerColumn, keyType type⟩, ⟨targetColumn, keyType target⟩],
      [⟨.primaryKey, [ownerColumn, targetColumn]⟩,
        ⟨.foreignKey (tableName type), [ownerColumn]⟩,
        ⟨.foreignKey (tableName target), [targetColumn]⟩]⟩
  | _ => return none

theorem joinTables_eq (schema : Schema) (type : EntityType) :
    joinTables schema type = type.relationships.filterMapM (pairTable schema type) := rfl

theorem pairTable_ok {schema : Schema} {type : EntityType} {relationship : Relationship}
    {create : CreateTable} (planned : pairTable schema type relationship = .ok (some create)) :
    ∃ ownerColumn targetColumn target,
      relationship.storage = .joinTable create.table ownerColumn targetColumn ∧
        findType schema relationship.target = .ok target ∧
        create.columns = [⟨ownerColumn, keyType type⟩, ⟨targetColumn, keyType target⟩] := by
  unfold pairTable at planned
  split at planned
  · rename_i table ownerColumn targetColumn storage
    obtain ⟨target, leads, same⟩ := bind_ok planned
    cases same
    exact ⟨ownerColumn, targetColumn, target, storage, leads, rfl⟩
  · cases planned

section

variable {schema : Schema} (plan : Plan schema)

theorem Plan.entities_names : plan.entities.map CreateTable.table = schema.types.map tableName := by
  have all := mapM_forall₂ plan.entities_eq
  generalize plan.entities = entities at all
  generalize schema.types = types at all
  induction all with
  | nil => rfl
  | cons one _ ih => rw [List.map_cons, List.map_cons, (entityTable_ok one).1, ih]

theorem Plan.find_entity (distinct : schema.TablesDistinct) {type : EntityType}
    (known : type ∈ schema.types) :
    ∃ create, (plan.entities ++ plan.pairs.flatten).find?
        (fun create => create.table = tableName type) = some create ∧
      entityTable schema type = .ok create := by
  obtain ⟨create, listed, planned⟩ := mem_of_forall₂ (mapM_forall₂ plan.entities_eq) known
  have named := (entityTable_ok planned).1
  have names : (plan.entities.map CreateTable.table).Nodup := by
    rw [plan.entities_names]
    exact distinct.entities
  have found := find_unique CreateTable.table names listed
  refine ⟨create, ?_, planned⟩
  rw [List.find?_append, ← named, found]
  rfl

theorem Plan.pair_mem {create : CreateTable} (member : create ∈ plan.pairs.flatten) :
    ∃ type ∈ schema.types, ∃ relationship ∈ type.relationships,
      pairTable schema type relationship = .ok (some create) := by
  obtain ⟨creates, listed, inside⟩ := List.mem_flatten.mp member
  have all := (mapM_forall₂ plan.pairs_eq).flip
  obtain ⟨type, known, planned⟩ := mem_of_forall₂ all listed
  rw [joinTables_eq] at planned
  obtain ⟨relationship, own, one⟩ := filterMapM_mem planned inside
  exact ⟨type, known, relationship, own, one⟩

theorem Plan.find_pairs (distinct : schema.TablesDistinct) {pairs : String}
    (used : Pairs schema pairs) {create : CreateTable}
    (found : (plan.entities ++ plan.pairs.flatten).find? (fun create => create.table = pairs) =
      some create) :
    create.table = pairs ∧ ∃ type ∈ schema.types, ∃ relationship ∈ type.relationships,
      pairTable schema type relationship = .ok (some create) := by
  have same : create.table = pairs := by simpa using List.find?_some found
  refine ⟨same, ?_⟩
  rcases List.mem_append.mp (List.mem_of_find?_eq_some found) with entity | pair
  · have named : create.table ∈ schema.types.map tableName := by
      rw [← plan.entities_names]
      exact List.mem_map_of_mem entity
    obtain ⟨type, known, same'⟩ := List.mem_map.mp named
    exact absurd (same'.trans same) (distinct.apart type known pairs used)
  · exact plan.pair_mem pair

theorem Plan.pairs_planned {type : EntityType} (known : type ∈ schema.types)
    {relationship : Relationship} (own : relationship ∈ type.relationships)
    {pairs ownerColumn targetColumn : String}
    (storage : relationship.storage = .joinTable pairs ownerColumn targetColumn)
    {target : EntityType} (leads : findType schema relationship.target = .ok target) :
    ∃ create, (plan.entities ++ plan.pairs.flatten).find? (fun create => create.table = pairs) =
      some create := by
  obtain ⟨creates, listed, planned⟩ := mem_of_forall₂ (mapM_forall₂ plan.pairs_eq) known
  have one : ∃ create, pairTable schema type relationship = .ok (some create) ∧
      create.table = pairs := by
    unfold pairTable
    rw [storage]
    dsimp only
    rw [leads]
    exact ⟨_, rfl, rfl⟩
  obtain ⟨mine, one, named⟩ := one
  rw [joinTables_eq] at planned
  have inside : mine ∈ plan.pairs.flatten :=
    List.mem_flatten.mpr ⟨creates, listed, mem_filterMapM planned own one⟩
  exact Option.isSome_iff_exists.mp (List.find?_isSome.mpr
    ⟨mine, List.mem_append_right _ inside, by simpa using named⟩)

end

/-- Registration lays out the tables of a schema. -/
theorem registered_laid {schema : Schema} (distinct : schema.TablesDistinct) {connection : Connection}
    (done : execute (register schema) ⟨Database.empty, none, []⟩ = (.ok (), connection)) :
    Laid schema connection.database := by
  obtain ⟨vacant, plan, columns⟩ := registered_columns done
  constructor
  · intro name table found row member
    rw [vacant name table found] at member
    cases member
  · intro type known
    obtain ⟨create, found, planned⟩ := plan.find_entity distinct known
    exact ⟨create.columns, by rw [columns, found]; rfl, (entityTable_ok planned).2⟩
  · intro pairs used laid found definition member
    rw [columns] at found
    obtain ⟨create, here, rfl⟩ := Option.map_eq_some_iff.mp found
    obtain ⟨_, type, _, relationship, _, planned⟩ := plan.find_pairs distinct used here
    obtain ⟨ownerColumn, targetColumn, target, _, _, columns⟩ := pairTable_ok planned
    rw [columns] at member
    rcases List.mem_cons.mp member with rfl | member
    · exact keyType_plain type
    · rw [List.mem_singleton.mp member]
      exact keyType_plain target

theorem registered_paired {schema : Schema} (distinct : schema.TablesDistinct)
    (shared : schema.PairsShared)
    (targets : ∀ type ∈ schema.types, ∀ relationship ∈ type.relationships,
      ∃ target, findType schema relationship.target = .ok target)
    {connection : Connection}
    (done : execute (register schema) ⟨Database.empty, none, []⟩ = (.ok (), connection)) :
    Paired schema connection.database := by
  obtain ⟨_, plan, columns⟩ := registered_columns done
  intro type known relationship own pairs ownerColumn targetColumn storage
  obtain ⟨target, leads⟩ := targets type known relationship own
  obtain ⟨create, found⟩ := plan.pairs_planned known own storage leads
  have used : Pairs schema pairs :=
    ⟨type, known, relationship, own, ownerColumn, targetColumn, storage⟩
  obtain ⟨rfl, type', known', relationship', own', planned⟩ := plan.find_pairs distinct used found
  obtain ⟨ownerColumn', targetColumn', target', storage', _, same⟩ := pairTable_ok planned
  refine ⟨create.columns, by rw [columns, found]; rfl, ?_⟩
  rw [same]
  rcases shared type known relationship own type' known' relationship' own' _ _ _ _ _
    storage storage' with ⟨rfl, rfl⟩ | ⟨rfl, rfl⟩
  · exact ⟨⟨_, List.mem_cons_self, rfl⟩, _, List.mem_cons_of_mem _ List.mem_cons_self, rfl⟩
  · exact ⟨⟨_, List.mem_cons_of_mem _ List.mem_cons_self, rfl⟩, _, List.mem_cons_self, rfl⟩

end ResourceServer
