import ResourceServer.Proofs.Filtering
import ResourceServer.Proofs.LinkSets
import ResourceServer.Proofs.Linking

/-! What one change does to the values of a key column, when each of them occurs once, and of which types they are. -/

namespace ResourceServer

open ResourceServer.Store ResourceServer.Mapping

/-- Values of which no two agree. Null agrees with nothing. -/
def Once (cells : List Cell) : Prop :=
  cells.Pairwise fun left right => left.agrees right = false

def inColumn (column : String) (records : List Record) : List Cell :=
  records.map fun record => record column

theorem Store.Cell.agrees_false_symm {left right : Cell} (apart : left.agrees right = false) :
    right.agrees left = false := by
  by_contra agree
  rw [Cell.agrees_symm (by simpa using agree)] at apart
  cases apart

theorem key?_single (column : String) (record : Record) :
    record.key? [column] = if record column = .null then none else some [record column] := by
  unfold Record.key?
  cases given : record column <;> simp [given, Cell.isNull]

/-- A column that a uniqueness constraint names alone holds each value once. Decimals are left out, of which the
two zeros agree. -/
theorem KeyUnique.once {column : String} {records : List Record}
    (unique : KeyUnique [column] records)
    (exact : ∀ record ∈ records, (record column).type? ≠ some .decimal) :
    Once (inColumn column records) := by
  unfold KeyUnique List.Nodup at unique
  unfold Once inColumn
  rw [List.pairwise_filterMap] at unique
  rw [List.pairwise_map]
  refine unique.imp_of_mem fun {left right} member member' apart => ?_
  by_contra agree
  obtain ⟨same, given⟩ := (Cell.agrees_exact (exact left member) (exact right member')).mp
    (by simpa using agree)
  refine apart [left column] ?_ [right column] ?_ (by rw [same])
  · rw [key?_single, if_neg given]
  · rw [key?_single, if_neg (same ▸ given)]

theorem Once.record_eq {column : String} {records : List Record}
    (once : Once (inColumn column records)) {left right : Record} (member : left ∈ records)
    (member' : right ∈ records) (agree : (left column).agrees (right column)) : left = right := by
  by_contra different
  have symmetric : Std.Symm fun left right : Record =>
      (left column).agrees (right column) = false := ⟨fun _ _ => Cell.agrees_false_symm⟩
  rw [(List.pairwise_map.mp once).forall member member' different] at agree
  cases agree

/-- What a change can do to a table, as seen from one of its key columns: values are left out, null is added
with a new resource, a relationship writes a value, or it adds pairs. -/
inductive Recolumned (schema : Schema) (before : Database) (table column : String)
    (after : List Record) : Prop
  | fewer (kept : (inColumn column after).Sublist (inColumn column (before.records table)))
  | blank (added : inColumn column after = inColumn column (before.records table) ++ [.null])
  | set {meets : Record → Bool} {cell : Cell} (written : Written schema before table column meets cell)
      (same : after = (before.records table).map fun record =>
        if meets record then record.set column cell else record)
  | pair {added : List Record} {type target : EntityType} {relationship : Relationship}
      {ownerColumn targetColumn : String}
      (joined : Joined schema before table added type target relationship ownerColumn targetColumn)
      (same : after = before.records table ++ added)

section

variable {schema : Schema} {sound : Prop} {before after : Database} {table column : String}

theorem inColumn_map {records : List Record} {change : Record → Record}
    (same : ∀ record, change record column = record column) :
    inColumn column (records.map change) = inColumn column records := by
  unfold inColumn
  rw [List.map_map]
  exact List.map_congr_left fun record _ => same record

theorem recolumned_other {name : String} {records : List Record}
    (changed : Rewrites before after name records) (apart : table ≠ name) :
    Recolumned schema before table column (after.records table) := by
  rw [records_other changed apart]
  exact .fewer (List.Sublist.refl _)

theorem recolumned_map {change : Record → Record}
    (changed : Rewrites before after table ((before.records table).map change))
    (same : ∀ record, change record column = record column) :
    Recolumned schema before table column (after.records table) := by
  rw [records_same changed]
  refine .fewer ?_
  rw [inColumn_map same]

theorem recolumned_filter {keeps : Record → Bool}
    (changed : Rewrites before after table ((before.records table).filter keeps)) :
    Recolumned schema before table column (after.records table) := by
  rw [records_same changed]
  exact .fewer (List.filter_sublist.map _)

theorem Changes.recolumned (changes : Changes schema sound before after) (keys : schema.KeysApart)
    {target : EntityType} (refers : Refers schema table column target) :
    Recolumned schema before table column (after.records table) := by
  cases changes with
  | relink links =>
      cases links with
      | @set name column' target' meets cell refers' _ written changed =>
          by_cases here : table = name
          · subst here
            by_cases same : column = column'
            · subst same
              exact .set written (records_same changed)
            · refine recolumned_map changed fun record => ?_
              split
              · exact Record.set_other cell same
              · rfl
          · exact recolumned_other changed here
      | @drop pairs meets used changed =>
          by_cases here : table = pairs
          · subst here
            exact recolumned_filter changed
          · exact recolumned_other changed here
      | @pair pairs added type target relationship ownerColumn targetColumn used joined _ changed =>
          by_cases here : table = pairs
          · subst here
            exact .pair joined (records_same changed)
          · exact recolumned_other changed here
  | @create type record known typed unlinked changed =>
      by_cases here : table = tableName type
      · subst here
        refine .blank ?_
        rw [records_same changed]
        unfold inColumn
        rw [List.map_append, List.map_singleton,
          unlinked column (keys _ column target refers type known rfl)]
      · exact recolumned_other changed here
  | @assign type meets assignments known typed changed =>
      by_cases here : table = tableName type
      · subst here
        refine recolumned_map changed fun record => ?_
        split
        · refine Record.assign_other record fun assignment given named => ?_
          obtain ⟨field, own, named', _⟩ := typed assignment given
          exact keys _ column target refers type known rfl field (List.mem_cons_of_mem _ own)
            (named'.symm.trans named)
        · rfl
      · exact recolumned_other changed here
  | @remove type cell known kind free changed =>
      by_cases here : table = tableName type
      · subst here
        exact recolumned_filter changed
      · exact recolumned_other changed here

theorem set_column (meets : Record → Bool) (record : Record) (cell : Cell) :
    (if meets record then record.set column cell else record) column =
      if meets record then cell else record column := by
  split
  · exact Record.set_same ..
  · rfl

theorem Recolumned.once {records : List Record}
    (change : Recolumned schema before table column records)
    (set : ∀ meets cell, Written schema before table column meets cell → cell = .null ∨
      Freed table column cell before ∧
        (before.records table).Pairwise fun left right => ¬(meets left ∧ meets right))
    (pair : ∀ {added type target relationship ownerColumn targetColumn},
      Joined schema before table added type target relationship ownerColumn targetColumn →
        Once (inColumn column added) ∧ ∀ other ∈ added, Freed table column (other column) before)
    (start : Once (inColumn column (before.records table))) : Once (inColumn column records) := by
  cases change with
  | fewer kept => exact start.sublist kept
  | blank added =>
      unfold Once
      rw [added]
      refine List.pairwise_append.mpr ⟨start, List.pairwise_singleton _ _, ?_⟩
      intro cell _ other new
      rw [List.mem_singleton.mp new]
      exact cell.agrees_null
  | @set meets cell written same =>
      subst same
      unfold Once inColumn at start ⊢
      rw [List.pairwise_map] at start
      rw [List.map_map, List.pairwise_map]
      rcases set meets cell written with rfl | ⟨fresh, single⟩
      · refine start.imp fun {left right} apart => ?_
        rw [Function.comp_apply, Function.comp_apply, set_column, set_column]
        split
        · exact Cell.agrees_false_symm (Cell.agrees_null _)
        · split
          · exact Cell.agrees_null _
          · exact apart
      · refine (start.and single).imp_of_mem fun {left right} member member' ⟨apart, alone⟩ => ?_
        rw [Function.comp_apply, Function.comp_apply, set_column, set_column]
        split
        · rename_i marked
          split
          · rename_i marked'
            exact absurd ⟨marked, marked'⟩ alone
          · exact Cell.agrees_false_symm (fresh right member')
        · split
          · exact fresh left member
          · exact apart
  | pair joined same =>
      subst same
      have ⟨new, fresh⟩ := pair joined
      unfold Once inColumn at start new ⊢
      rw [List.map_append]
      refine List.pairwise_append.mpr ⟨start, new, ?_⟩
      intro cell member other member'
      obtain ⟨record, inside, rfl⟩ := List.mem_map.mp member
      obtain ⟨added, inside', rfl⟩ := List.mem_map.mp member'
      exact fresh added inside' record inside

/-- Every value in a column that refers to resources is null or of the type of their identities. -/
def ReferencesTyped (schema : Schema) (database : Database) : Prop :=
  ∀ table column target, Refers schema table column target →
    ∀ record ∈ database.records table, (keyType target).takes (record column)

/-- Relationships that share a column agree on the type of the identities in it. -/
def Schema.KeyTypesAgree (schema : Schema) : Prop :=
  ∀ table column target target', Refers schema table column target →
    Refers schema table column target' → keyType target = keyType target'

instance : Decidable schema.KeyTypesAgree :=
  decidable_of_iff (∀ entry ∈ schema.references, ∀ other ∈ schema.references,
      entry.1 = other.1 → entry.2.1 = other.2.1 → keyType entry.2.2 = keyType other.2.2) <| by
    constructor
    · intro agree table column target target' refers refers'
      exact agree _ (mem_references.mpr refers) _ (mem_references.mpr refers') rfl rfl
    · rintro agree ⟨table, column, target⟩ member ⟨table', column', target'⟩ member' same same'
      cases same
      cases same'
      exact agree table column target target' (mem_references.mp member) (mem_references.mp member')

theorem Schema.KeysAgree.types (agree : schema.KeysAgree) : schema.KeyTypesAgree :=
  fun table column target target' refers refers' =>
    congrArg keyType (agree table column target target' refers refers')

/-- Where key columns are not columns of fields and agree on the types of what they refer to, they keep holding
values of these types. -/
theorem Changes.references_typed (changes : Changes schema sound before after)
    (keys : schema.KeysApart) (agree : schema.KeyTypesAgree) (typed : ReferencesTyped schema before) :
    ReferencesTyped schema after := by
  intro table column target refers
  refine changes.each (.inl rfl) (fun type known here field own named => ?_) (fun other refers' cell taken => ?_)
    (typed table column target refers)
  · exact absurd named (keys table column target refers type known here field own)
  · rw [agree _ _ _ _ refers refers']
    exact taken

theorem ReferencesTyped.keys {database : Database} (typed : ReferencesTyped schema database)
    {type target : EntityType} {relationship : Relationship}
    (relates : schema.Relates type relationship target) :
    KeysTyped database type target relationship.storage := by
  obtain ⟨known, own, leads⟩ := relates
  unfold KeysTyped
  cases storage : relationship.storage with
  | ownerKey column => exact typed _ _ _ (.ownerKey known own storage leads)
  | targetKey column => exact typed _ _ _ (.targetKey known own storage leads)
  | joinTable pairs ownerColumn targetColumn =>
      exact fun pair member => ⟨typed _ _ _ (.ownerPair known own storage) pair member,
        typed _ _ _ (.targetPair known own storage leads) pair member⟩

end

/-! Links to resources that are stored. -/

/-- Identities that are linked are those of stored resources. -/
def NoneDangles (schema : Schema) (database : Database) : Prop :=
  ∀ table column target, Refers schema table column target → ∀ record ∈ database.records table,
    ∀ id cell, idCell? target id = some cell → (record column).agrees cell →
      ∃ found ∈ database.records (tableName target), (found (idName target)).agrees cell

theorem noneDangles_of_stored {schema : Schema} {database : Database}
    (stored : ∀ entry ∈ schema.references, ∀ record ∈ database.records entry.1, record entry.2.1 = .null ∨
      ∃ found ∈ database.records (tableName entry.2.2), found (idName entry.2.2) = record entry.2.1) :
    NoneDangles schema database := by
  intro table column target refers record member id cell _ agrees
  rcases stored _ (mem_references.mpr refers) record member with empty | ⟨found, inside, same⟩
  · exact absurd ((congrArg (Cell.agrees · cell) empty).symm.trans agrees) Bool.false_ne_true
  · exact ⟨found, inside, (congrArg (Cell.agrees · cell) same).trans agrees⟩

/-! Databases filled with values of the types of their columns. -/

/-- A database with the tables that a schema is registered with, whose columns hold null or values of their
types. -/
structure Filled (schema : Schema) (database : Database) : Prop where
  registered : ∃ connection,
    execute (register schema) ⟨Database.empty, none, []⟩ = (.ok (), connection) ∧
      database.form? = connection.database.form?
  typed : ∀ table ∈ database.tables, ∀ row ∈ table.rows,
    List.Forall₂ (fun definition cell => definition.type.stored.takes cell) table.columns row

theorem recordOf_found {holds : ColumnDefinition → Cell → Prop} {columns : List ColumnDefinition}
    {row : Row} {column : String} (all : List.Forall₂ holds columns row)
    (present : ∃ definition ∈ columns, definition.name = column) :
    ∃ definition ∈ columns, definition.name = column ∧
      holds definition (recordOf columns row column) := by
  induction all with
  | nil =>
      obtain ⟨definition, member, _⟩ := present
      cases member
  | @cons first cell columns cells one _ ih =>
      by_cases named : first.name = column
      · refine ⟨first, List.mem_cons_self, named, ?_⟩
        rw [recordOf_first named]
        exact one
      · have later : ∃ definition ∈ columns, definition.name = column := by
          obtain ⟨definition, member, same⟩ := present
          refine ⟨definition, (List.mem_cons.mp member).resolve_left fun first => ?_, same⟩
          exact named (first ▸ same)
        obtain ⟨definition, member, same, held⟩ := ih later
        refine ⟨definition, List.mem_cons_of_mem first member, same, ?_⟩
        rw [recordOf_rest named]
        exact held

theorem stored_columnType (type : FieldType) : (columnType type).stored = columnType type := by
  cases type <;> rfl

theorem stored_storedType (type : EntityType) (field : Field) :
    (storedType type field).stored = columnType field.type := by
  unfold storedType
  split
  · rename_i serial
    rw [serial.2]
    rfl
  · exact stored_columnType field.type

namespace Filled

variable {schema : Schema} {database : Database} (filled : Filled schema database)
include filled

theorem wide : database.Wide := by
  intro name table found row member
  exact (filled.typed table (List.mem_of_find?_eq_some found) row member).length_eq.symm

theorem shaped (formed : schema.Formed) (distinct : schema.TablesDistinct)
    (shared : schema.PairsShared) : Shaped schema database := by
  obtain ⟨connection, done, same⟩ := filled.registered
  have columns : database.columns? = connection.database.columns? := by
    funext name
    rw [Database.columns?_eq, Database.columns?_eq, same]
  have paired : Paired schema connection.database := by
    refine registered_paired distinct shared (fun type known relationship own => ?_) done
    obtain ⟨target, _, _, found, _⟩ := formed.target known own
    exact ⟨target, found⟩
  refine laid_shaped ((registered_laid distinct done).of_columns columns filled.wide) ?_
  unfold Paired
  rw [columns]
  exact paired

theorem cell {table : Table} {name : String} (found : database.table? name = some table) {record : Record}
    (member : record ∈ database.records name) {column : String} (present : table.Has column) :
    ∃ definition ∈ table.columns, definition.name = column ∧ definition.type.stored.takes (record column) := by
  rw [records_of_table found] at member
  obtain ⟨row, inside, rfl⟩ := List.mem_map.mp member
  exact recordOf_found (filled.typed table (List.mem_of_find?_eq_some found) row inside) present

theorem column (formed : schema.Formed) (shaped : Shaped schema database) {type : EntityType}
    (known : type ∈ schema.types) {record : Record} (member : record ∈ database.records (tableName type))
    {table : Table} (found : database.table? (tableName type) = some table) {column : String}
    (present : table.Has column) :
    (∃ field ∈ type.fields, columnName field.name = column ∧
        (columnType field.type).takes (record column)) ∨
      ∃ other, Refers schema (tableName type) column other ∧ (keyType other).takes (record column) := by
  obtain ⟨table', found', laid, _⟩ := shaped.entities type known
  cases found.symm.trans found'
  obtain ⟨definition, among, named, taken⟩ := filled.cell found member present
  rcases column_refers formed known laid among with ⟨field, own, same, stored⟩ | ⟨other, refers, keyed⟩
  · rw [← stored, stored_storedType] at taken
    exact .inl ⟨field, own, same.trans named, taken⟩
  · rw [keyed, keyType, stored_columnType] at taken
    exact .inr ⟨other, named ▸ refers, taken⟩

theorem fields (shaped : Shaped schema database) (columns : schema.ColumnsDistinct) :
    FieldsTyped schema database := by
  intro type known record member field own
  obtain ⟨table, found, laid, _⟩ := shaped.entities type known
  have place := field_column laid (columns type known) own
  obtain ⟨definition, among, named, taken⟩ := filled.cell found member ⟨_, place, rfl⟩
  have same := List.inj_on_of_nodup_map (columns_distinct laid) among place named
  rw [same, stored_storedType] at taken
  exact taken

theorem pairs (distinct : schema.TablesDistinct) {table : Table} {name : String}
    (used : Pairs schema name) (found : database.table? name = some table) {record : Record}
    (member : record ∈ database.records name) {column : String} (present : table.Has column) :
    ∃ other, Refers schema name column other ∧ (keyType other).takes (record column) := by
  obtain ⟨connection, done, same⟩ := filled.registered
  obtain ⟨_, plan, planned⟩ := registered_columns done
  have columns : database.columns? name = some table.columns := by
    unfold Database.columns?
    rw [found]
    rfl
  rw [Database.columns?_eq, same, ← Database.columns?_eq, planned] at columns
  obtain ⟨create, here, laid⟩ := Option.map_eq_some_iff.mp columns
  obtain ⟨rfl, type, known, relationship, own, made⟩ := plan.find_pairs distinct used here
  obtain ⟨ownerColumn, targetColumn, target, storage, leads, listed⟩ := pairTable_ok made
  obtain ⟨definition, among, named, taken⟩ := filled.cell found member present
  rw [← laid, listed] at among
  rcases List.mem_cons.mp among with rfl | among
  · rw [keyType, stored_columnType] at taken
    exact ⟨type, named ▸ .ownerPair known own storage, taken⟩
  · cases List.mem_singleton.mp among
    rw [keyType, stored_columnType] at taken
    exact ⟨target, named ▸ .targetPair known own storage (findType_found leads), taken⟩

/-- Where key columns are not columns of fields and agree on the types of what they refer to, values of the types of
their columns are of these types. -/
theorem references_typed (formed : schema.Formed) (distinct : schema.TablesDistinct)
    (shaped : Shaped schema database) (keys : schema.KeysApart) (agree : schema.KeyTypesAgree) :
    ReferencesTyped schema database := by
  intro name column target refers record member
  have of_refers {other : EntityType} (refers' : Refers schema name column other)
      (taken : (keyType other).takes (record column)) : (keyType target).takes (record column) :=
    agree _ _ _ _ refers' refers ▸ taken
  have entity {type : EntityType} (known : type ∈ schema.types) (named : tableName type = name)
      (present : ∀ columns, tableColumns schema type = .ok columns →
        ∃ definition ∈ columns, definition.name = column) : (keyType target).takes (record column) := by
    subst named
    obtain ⟨table, found, laid, _⟩ := shaped.entities type known
    rcases filled.column formed shaped known member found (present _ laid) with
      ⟨field, own, named, _⟩ | ⟨other, refers', taken⟩
    · exact absurd named (keys _ _ _ refers type known rfl field own)
    · exact of_refers refers' taken
  have pair (used : Pairs schema name) {table : Table} (found : database.table? name = some table)
      (present : table.Has column) : (keyType target).takes (record column) := by
    obtain ⟨other, refers', taken⟩ := filled.pairs distinct used found member present
    exact of_refers refers' taken
  cases refers with
  | ownerKey known own storage leads =>
      obtain ⟨_, _, _, found, _⟩ := formed.target known own
      exact entity known rfl fun columns laid => ownerKey_column laid own storage found
  | @targetKey _ holder relationship _ known own storage leads =>
      have named : holder.name = relationship.target := by simpa using List.find?_some leads
      exact entity (List.mem_of_find?_eq_some leads) rfl fun columns laid =>
        targetKey_column laid known own storage named.symm
  | ownerPair known own storage =>
      obtain ⟨table, found, owners, _, _⟩ := shaped.pairs _ known _ own _ _ _ storage
      exact pair ⟨_, known, _, own, _, _, storage⟩ found owners
  | targetPair known own storage leads =>
      obtain ⟨table, found, _, targets, _⟩ := shaped.pairs _ known _ own _ _ _ storage
      exact pair ⟨_, known, _, own, _, _, storage⟩ found targets

theorem references (separate : schema.Separate) (agree : schema.KeyTypesAgree) (stocked : Stocked schema database) :
    ReferencesTyped schema database :=
  filled.references_typed separate.formed separate.tables (stocked.housed.shaped separate) separate.keys agree

end Filled

/-! Posts with notes and with days in one column, where a note may be written like a day. -/

namespace Diary

def notes : Relationship := ⟨"aNotes", .toMany, "note", true, .joinTable "mention" "post_id" "value"⟩

def days : Relationship := ⟨"days", .toMany, "day", true, .joinTable "mention" "post_id" "value"⟩

def post : EntityType := ⟨"post", none, ⟨"id", .string, false⟩, [], [notes, days], []⟩

def note : EntityType := ⟨"note", none, ⟨"id", .string, false⟩, [], [], []⟩

def day : EntityType := ⟨"day", none, ⟨"id", .date, false⟩, [], [], []⟩

def schema : Schema := ⟨[day, note, post]⟩

theorem separate : schema.Separate :=
  separate_of_decided [post, day, note] rfl (by decide +kernel)

theorem isDate_newYear : Calendar.IsDate 2020 1 1 := by decide

def tables : Database :=
  ⟨[⟨"day", [⟨"id", .date⟩], [[0]], [[.date ⟨2020, 1, 1, isDate_newYear⟩]], 1⟩,
    ⟨"note", [⟨"id", .text⟩], [[0]], [[.text "2020-01-01"]], 1⟩,
    ⟨"post", [⟨"id", .text⟩], [[0]], [[.text "p"]], 1⟩,
    ⟨"mention", [⟨"post_id", .text⟩, ⟨"value", .text⟩], [[0, 1]], [[.text "p", .text "2020-01-01"]], 1⟩]⟩

def connection : Connection :=
  ⟨tables, none, []⟩

theorem stocked : Stocked schema connection.database where
  housed := by
    have done : (execute (register schema) ⟨Database.empty, none, []⟩).1 = .ok () := by decide +kernel
    have fine : ∀ table ∈ tables.tables, (∀ row ∈ table.rows, row.length = table.columns.length) ∧
        table.checkUnique table.rows = .ok () := by decide
    exact ⟨⟨_, execute_outcome done, form?_same (by decide +kernel)⟩,
      fun _ table found => (fine table (List.mem_of_find?_eq_some found)).1,
      fun _ table found => (fine table (List.mem_of_find?_eq_some found)).2⟩
  typed := by decide +kernel
  identified := by decide +kernel
  distinct := by decide +kernel

theorem filled : Filled schema connection.database :=
  ⟨stocked.housed.registered, by decide⟩

theorem relates : schema.Relates post days day :=
  ⟨by decide, by decide, rfl⟩

theorem undangling : NoneDangles schema connection.database := by
  intro table column target refers record member id cell read agrees
  have listed : ∀ entry ∈ schema.references, ∀ record ∈ connection.database.records entry.1,
      (∃ found ∈ connection.database.records (tableName entry.2.2),
        found (idName entry.2.2) = record entry.2.1) ∨
        entry.2.2 = day ∧ record entry.2.1 = .text "2020-01-01" := by decide +kernel
  rcases listed _ (mem_references.mpr refers) record member with ⟨found, inside, same⟩ | ⟨rfl, same⟩
  · exact ⟨found, inside, (congrArg (Cell.agrees · cell) same).trans agrees⟩
  · have kind := idCell_kind read
    have text : (record column).type? ≠ some .decimal := same ▸ nofun
    have date : cell.type? ≠ some .decimal := by simp [kind, keyType, columnType, day]
    obtain rfl : record column = cell := ((Cell.agrees_exact text date).mp agrees).1
    cases (congrArg Cell.type? same).symm.trans kind

end Diary

end ResourceServer
