import ResourceServer.Proofs.Constraints
import ResourceServer.Proofs.References

/-! Databases with the tables of a schema, filled with rows that keep to the tables' constraints. -/

namespace ResourceServer

open ResourceServer.Store ResourceServer.Mapping

namespace Store

def Constraint.key? (constraint : Constraint) : Option (List String) :=
  match constraint.kind with
  | .foreignKey _ => none
  | _ => some constraint.columns

def CreateTable.keys (create : CreateTable) : List (List String) :=
  create.constraints.filterMap Constraint.key?

theorem addConstraint_unique {table changed : Table} {constraint : Constraint}
    {keys : List (List String)} (unique : table.Unique keys)
    (added : table.addConstraint constraint = .ok changed) :
    changed.Unique (keys ++ constraint.key?.toList) := by
  have placed {positions : List Nat}
      (found : constraint.columns.mapM table.position = .ok positions) :
      Table.Unique { table with uniqueKeys := table.uniqueKeys ++ [positions] }
        (keys ++ [constraint.columns]) :=
    List.rel_append unique (.cons found .nil)
  unfold Table.addConstraint at added
  unfold Constraint.key?
  cases kind : constraint.kind with
  | foreignKey other =>
      rw [kind] at added
      cases added
      exact (List.append_nil keys).symm ▸ unique
  | primaryKey =>
      rw [kind] at added
      obtain ⟨positions, found, rfl⟩ := map_ok added
      exact placed found
  | unique =>
      rw [kind] at added
      obtain ⟨positions, found, rfl⟩ := map_ok added
      exact placed found

theorem addConstraints_unique {table changed : Table} {constraints : List Constraint}
    {keys : List (List String)} (unique : table.Unique keys)
    (added : constraints.foldlM Table.addConstraint table = .ok changed) :
    changed.Unique (keys ++ constraints.filterMap Constraint.key?) := by
  induction constraints generalizing table keys with
  | nil =>
      cases added
      exact (List.append_nil keys).symm ▸ unique
  | cons constraint rest ih =>
      rw [List.foldlM_cons] at added
      obtain ⟨middle, one, others⟩ := bind_ok added
      have all := ih (addConstraint_unique unique one) others
      rw [List.append_assoc] at all
      cases key : constraint.key? with
      | none =>
          rw [List.filterMap_cons_none key]
          rwa [key] at all
      | some columns =>
          rw [List.filterMap_cons_some key]
          rwa [key] at all

/-- A table is as a statement creates it, but for its rows. -/
structure Table.Follows (table : Table) (create : CreateTable) : Prop where
  columns : table.columns = create.columns
  unique : table.Unique create.keys

theorem Table.Follows.of_form {table other : Table} {create : CreateTable}
    (named : table.name = other.name) (same : table.form = other.form)
    (follows : table.Follows create) : other.Follows create := by
  have columns : table.columns = other.columns := congrArg Prod.fst same
  have keys : table.uniqueKeys = other.uniqueKeys := congrArg Prod.snd same
  have positions : table.position = other.position := by
    funext column
    unfold Table.position
    rw [named, columns]
  obtain ⟨laid, unique⟩ := follows
  unfold Table.Unique at unique
  rw [positions, keys] at unique
  exact ⟨columns.symm.trans laid, unique⟩

theorem createTable_follows {database after : Database} {create : CreateTable}
    (created : database.createTable create.table create.columns create.constraints = .ok after)
    {wanted : String} {table : Table} (found : after.table? wanted = some table) :
    database.table? wanted = some table ∨
      database.table? wanted = none ∧ create.table = wanted ∧ table.Follows create ∧
        table.rows = [] := by
  unfold Database.createTable at created
  split at created
  · cases created
    exact .inl found
  · rename_i absent
    obtain ⟨made, added, same⟩ := bind_ok created
    cases same
    obtain ⟨named, laid, empty⟩ := addConstraints_columns added
    have none_yet : (Table.empty create.table create.columns).Unique [] := .nil
    unfold Database.table? at found
    rw [List.find?_append] at found
    rcases Option.or_eq_some_iff.mp found with here | ⟨before, here⟩
    · exact .inl here
    · have same : made.name = wanted := by
        have meets := List.find?_some here
        rw [List.mem_singleton.mp (List.mem_of_find?_eq_some here)] at meets
        simpa using meets
      obtain rfl := List.mem_singleton.mp (List.mem_of_find?_eq_some here)
      exact .inr ⟨before, named.symm.trans same, ⟨laid, addConstraints_unique none_yet added⟩, empty⟩

end Store

theorem createTables_follow {tables : List CreateTable} {connection after : Connection}
    (run : execute (tables.forM fun table => statement (Action.createTable table)) connection =
      (.ok (), after)) {wanted : String} {table : Table}
    (found : after.database.table? wanted = some table) :
    connection.database.table? wanted = some table ∨
      connection.database.table? wanted = none ∧
        ∃ create, tables.find? (fun create => create.table = wanted) = some create ∧
          table.Follows create := by
  induction tables generalizing connection with
  | nil =>
      cases run
      exact .inl found
  | cons create rest ih =>
      obtain ⟨⟨⟩, middle, one, others⟩ := execute_bind_ok run
      have created := execute_createTable_ok one
      rcases ih others with here | ⟨absent, create', listed, follows⟩
      · refine (createTable_follows created here).imp_right fun ⟨absent, named, follows, _⟩ => ?_
        exact ⟨absent, create, by simp [named], follows⟩
      · have columns := (createTable_columns created).2 wanted
        unfold Database.columns? at columns
        rw [absent] at columns
        obtain ⟨before, other⟩ := Option.or_eq_none_iff.mp columns.symm
        have apart : create.table ≠ wanted := by
          intro same
          rw [if_pos same] at other
          cases other
        refine .inr ⟨Option.map_eq_none_iff.mp before, create', ?_, follows⟩
        rw [List.find?_cons_of_neg (by simpa using apart)]
        exact listed

theorem registered_tables {schema : Schema} {connection : Connection}
    (done : execute (register schema) ⟨Database.empty, none, []⟩ = (.ok (), connection)) :
    ∃ plan : Plan schema, ∀ wanted create,
      (plan.entities ++ plan.pairs.flatten).find? (fun create => create.table = wanted) =
        some create →
      ∃ table, connection.database.table? wanted = some table ∧ table.Follows create := by
  obtain ⟨plan, run⟩ := registered_plan done
  refine ⟨plan, fun wanted create listed => ?_⟩
  have columns := (createTables_columns run).2 wanted
  rw [listed] at columns
  obtain ⟨table, found, _⟩ := Option.map_eq_some_iff.mp columns
  refine ⟨table, found, ?_⟩
  rcases createTables_follow run found with here | ⟨_, create', listed', follows⟩
  · cases here
  · cases listed.symm.trans listed'
    exact follows

/-- A database has the tables that a schema is registered with, filled with rows that are as wide as they and
keep to their uniqueness constraints. -/
structure Housed (schema : Schema) (database : Database) : Prop where
  registered : ∃ connection,
    execute (register schema) ⟨Database.empty, none, []⟩ = (.ok (), connection) ∧
      database.form? = connection.database.form?
  wide : database.Wide
  obeyed : database.Obeyed

theorem Housed.refills {schema : Schema} {database after : Database} {name : String}
    {records : List Record} (housed : Housed schema database) (filled : Refills database after)
    (changed : Rewrites database after name records) : Housed schema after := by
  obtain ⟨connection, done, same⟩ := housed.registered
  exact ⟨⟨connection, done, filled.form?.trans same⟩, changed.wide housed.wide,
    filled.obeyed housed.obeyed⟩

def Schema.KeysNamed (schema : Schema) : Prop :=
  ∀ type ∈ schema.types, ∀ name ∈ type.primaryKey, ∃ field ∈ type.fields, field.name = name

theorem typeError_keys {type : EntityType} (fine : Schema.typeError? type = none) :
    ∀ name ∈ type.primaryKey, ∃ field ∈ type.fields, field.name = name := by
  intro name member
  unfold Schema.typeError? at fine
  split at fine
  · cases fine
  · have known := List.find?_eq_none.mp (Option.map_eq_none_iff.mp fine) name member
    cases found : type.field? name with
    | none => simp [found] at known
    | some field =>
        exact ⟨field, List.mem_of_find?_eq_some found, by simpa using List.find?_some found⟩

theorem collect_keys {schema collected : Schema} {types : List EntityType} (named : schema.KeysNamed)
    (done : Schema.collect schema types = .ok collected) : collected.KeysNamed := by
  induction types generalizing schema with
  | nil =>
      cases done
      exact named
  | cons type rest ih =>
      unfold Schema.collect at done
      split at done
      · cases done
      · split at done
        · cases done
        · rename_i fine
          refine ih (fun other member => ?_) done
          rcases List.mem_cons.mp ((insertType_perm type schema.types).mem_iff.mp member) with
            rfl | inside
          · exact typeError_keys fine
          · exact named other inside

theorem ofTypes_keys {types : List EntityType} {schema : Schema}
    (accepted : Schema.ofTypes types = .ok schema) : schema.KeysNamed := by
  obtain ⟨collected, done, accepted⟩ := bind_ok accepted
  split at accepted
  · cases accepted
  · cases accepted
    have fresh : (Schema.mk []).KeysNamed := by
      intro type member
      cases member
    exact collect_keys fresh done

/-- No relationship keeps owners and targets in one column of its table of pairs. -/
def Schema.PairsDistinct (schema : Schema) : Prop :=
  ∀ type ∈ schema.types, ∀ relationship ∈ type.relationships, ∀ pairs ownerColumn targetColumn,
    relationship.storage = .joinTable pairs ownerColumn targetColumn → ownerColumn ≠ targetColumn

instance {schema : Schema} : Decidable schema.PairsDistinct :=
  decidable_of_iff (∀ entry ∈ schema.pairTables, entry.2.1 ≠ entry.2.2) <| by
    constructor
    · intro distinct type known relationship own _ _ _ storage
      exact distinct _ (mem_pairTables.mpr ⟨type, known, relationship, own, storage⟩)
    · rintro distinct ⟨pairs, ownerColumn, targetColumn⟩ member
      obtain ⟨type, known, relationship, own, storage⟩ := mem_pairTables.mp member
      exact distinct type known relationship own _ _ _ storage

/-- The columns that the table of a type keeps unique: those of the primary key together, and those of unique fields
each. -/
def EntityType.keys (type : EntityType) : List (List String) :=
  type.primaryKey.map columnName ::
    (type.fields.filter (·.unique)).map fun field => [columnName field.name]

theorem entityTable_keys {schema : Schema} {type : EntityType} {create : CreateTable}
    (planned : entityTable schema type = .ok create) : create.keys = type.keys := by
  obtain ⟨columns, _, same⟩ := bind_ok planned
  cases same
  refine congrArg (type.primaryKey.map columnName :: ·) ?_
  rw [List.filterMap_map, ← List.filterMap_eq_map]
  rfl

theorem pairTable_keys {schema : Schema} {type : EntityType} {relationship : Relationship}
    {create : CreateTable} (planned : pairTable schema type relationship = .ok (some create))
    {pairs ownerColumn targetColumn : String}
    (storage : relationship.storage = .joinTable pairs ownerColumn targetColumn) :
    create.keys = [[ownerColumn, targetColumn]] := by
  unfold pairTable at planned
  rw [storage] at planned
  obtain ⟨target, _, same⟩ := bind_ok planned
  cases same
  rfl

section

variable {schema : Schema} {database : Database}

theorem Housed.tables (housed : Housed schema database) :
    ∃ plan : Plan schema, ∀ wanted create,
      (plan.entities ++ plan.pairs.flatten).find? (fun create => create.table = wanted) =
        some create →
      ∃ table, database.table? wanted = some table ∧ table.Wide ∧ table.Follows create := by
  obtain ⟨connection, done, same⟩ := housed.registered
  obtain ⟨plan, registered⟩ := registered_tables done
  refine ⟨plan, fun wanted create listed => ?_⟩
  obtain ⟨first, there, follows⟩ := registered wanted create listed
  have form : (database.table? wanted).map Table.form = some first.form := by
    have here := congrFun same wanted
    unfold Database.form? at here
    rw [here, there]
    rfl
  obtain ⟨table, found, form⟩ := Option.map_eq_some_iff.mp form
  have named := (Database.table?_name there).trans (Database.table?_name found).symm
  exact ⟨table, found, housed.wide wanted table found, follows.of_form named form.symm⟩

theorem Housed.laid (housed : Housed schema database) (distinct : schema.TablesDistinct) :
    Laid schema database := by
  obtain ⟨connection, done, same⟩ := housed.registered
  refine (registered_laid distinct done).of_columns ?_ housed.wide
  funext name
  rw [Database.columns?_eq, Database.columns?_eq, same]

theorem Housed.planned (housed : Housed schema database) (distinct : schema.TablesDistinct)
    {type : EntityType} (known : type ∈ schema.types) :
    ∃ table, database.table? (tableName type) = some table ∧ table.Wide ∧
      tableColumns schema type = .ok table.columns ∧ table.Unique type.keys := by
  obtain ⟨plan, tables⟩ := housed.tables
  obtain ⟨create, listed, planned⟩ := plan.find_entity distinct known
  obtain ⟨table, found, wide, same, unique⟩ := tables _ create listed
  exact ⟨table, found, wide, same ▸ (entityTable_ok planned).2, entityTable_keys planned ▸ unique⟩

/-- The uniqueness constraints of a type's table are on columns of fields. -/
theorem Housed.entity (housed : Housed schema database) (distinct : schema.TablesDistinct)
    (named : schema.KeysNamed) {type : EntityType} (known : type ∈ schema.types) :
    ∃ table keys, database.table? (tableName type) = some table ∧ table.Wide ∧
      tableColumns schema type = .ok table.columns ∧ table.Unique keys ∧
      ∀ columns ∈ keys, ∀ column ∈ columns, ∃ field ∈ type.fields, columnName field.name = column := by
  obtain ⟨table, found, wide, laid, unique⟩ := housed.planned distinct known
  refine ⟨table, type.keys, found, wide, laid, unique, fun columns member column inside => ?_⟩
  rcases List.mem_cons.mp member with rfl | member
  · obtain ⟨name, among, rfl⟩ := List.mem_map.mp inside
    obtain ⟨field, own, rfl⟩ := named type known name among
    exact ⟨field, own, rfl⟩
  · obtain ⟨field, among, rfl⟩ := List.mem_map.mp member
    rw [List.mem_singleton.mp inside]
    exact ⟨field, (List.mem_filter.mp among).1, rfl⟩

/-- A table of pairs has the two columns of any relationship that uses it, and each pair once. -/
theorem Housed.pairs (housed : Housed schema database) (formed : schema.Formed)
    (distinct : schema.TablesDistinct) (shared : schema.PairsShared) {type : EntityType}
    (known : type ∈ schema.types) {relationship : Relationship}
    (own : relationship ∈ type.relationships) {pairs ownerColumn targetColumn : String}
    (storage : relationship.storage = .joinTable pairs ownerColumn targetColumn) :
    ∃ table columns, database.table? pairs = some table ∧ table.Wide ∧ table.Has ownerColumn ∧
      table.Has targetColumn ∧ (∀ definition ∈ table.columns, definition.type ≠ .serial) ∧
      table.Unique [columns] ∧
      (columns = [ownerColumn, targetColumn] ∨ columns = [targetColumn, ownerColumn]) := by
  obtain ⟨plan, tables⟩ := housed.tables
  obtain ⟨target, _, _, leads, _⟩ := formed.target known own
  obtain ⟨create, listed⟩ := plan.pairs_planned known own storage leads
  obtain ⟨table, found, wide, same, unique⟩ := tables _ create listed
  have used : Pairs schema pairs :=
    ⟨type, known, relationship, own, ownerColumn, targetColumn, storage⟩
  obtain ⟨rfl, type', known', relationship', own', planned⟩ := plan.find_pairs distinct used listed
  obtain ⟨ownerColumn', targetColumn', target', storage', _, columns⟩ := pairTable_ok planned
  rw [pairTable_keys planned storage'] at unique
  have plain : ∀ definition ∈ table.columns, definition.type ≠ .serial := by
    rw [same, columns]
    intro definition member
    rcases List.mem_cons.mp member with rfl | member
    · exact keyType_plain type'
    · rw [List.mem_singleton.mp member]
      exact keyType_plain target'
  have owners : table.Has ownerColumn' := by
    refine ⟨⟨ownerColumn', keyType type'⟩, ?_, rfl⟩
    rw [same, columns]
    exact List.mem_cons_self
  have targets : table.Has targetColumn' := by
    refine ⟨⟨targetColumn', keyType target'⟩, ?_, rfl⟩
    rw [same, columns]
    exact List.mem_cons_of_mem _ List.mem_cons_self
  refine ⟨table, [ownerColumn', targetColumn'], found, wide, ?_⟩
  rcases shared type known relationship own type' known' relationship' own' _ _ _ _ _
    storage storage' with ⟨rfl, rfl⟩ | ⟨rfl, rfl⟩
  · exact ⟨owners, targets, plain, unique, .inl rfl⟩
  · exact ⟨targets, owners, plain, unique, .inr rfl⟩

end

end ResourceServer
