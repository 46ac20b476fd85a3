import ResourceServer.Proofs.StoredFields

/-! A record that is inserted into the table of a type: what it holds once it is numbered, and when it fits among the
others. -/

namespace ResourceServer

open ResourceServer.Store ResourceServer.Mapping

namespace Store

def Record.numbered (columns : List ColumnDefinition) (number : Int) (record : Record) : Record :=
  fun column =>
    if record column = .null ∧ (columns.find? (·.name = column)).map ColumnDefinition.type = some .serial then
      .integer number
    else record column

section

variable {columns : List ColumnDefinition} {column : String} {record : Record}

theorem Record.numbered_plain (number : Int)
    (plain : ∀ definition ∈ columns, definition.name = column → definition.type ≠ .serial) :
    record.numbered columns number column = record column := by
  refine if_neg fun ⟨_, numbers⟩ => ?_
  obtain ⟨definition, found, serial⟩ := Option.map_eq_some_iff.mp numbers
  exact plain definition (List.mem_of_find?_eq_some found) (by simpa using List.find?_some found) serial

theorem Record.numbered_given (number : Int) (given : record column ≠ .null) :
    record.numbered columns number column = record column :=
  if_neg fun both => given both.1

theorem Record.numbered_serial (distinct : (columns.map ColumnDefinition.name).Nodup) (number : Int)
    (serial : ⟨column, .serial⟩ ∈ columns) (empty : record column = .null) :
    record.numbered columns number column = .integer number :=
  if_pos ⟨empty, Option.map_eq_some_iff.mpr
    ⟨_, find_unique ColumnDefinition.name distinct serial, rfl⟩⟩

theorem fillSerials_exact {serial : String}
    (only : ∀ definition ∈ columns, definition.type = .serial → definition.name = serial) {row : Row}
    (next : Int) (wide : row.length = columns.length) :
    recordOf columns (Table.fillSerials columns row next).1 =
      (recordOf columns row).numbered columns next := by
  induction columns generalizing row next with
  | nil =>
      funext column
      exact (Record.numbered_plain next fun _ none => absurd none List.not_mem_nil).symm
  | cons definition rest ih =>
      cases row with
      | nil => cases wide
      | cons value values =>
          have others := ih (fun other member => only other (List.mem_cons_of_mem _ member))
            (numberCell definition value next).2 (by simpa using wide)
          rw [fillSerials_cons]
          funext column
          by_cases named : definition.name = column
          · have here : (definition :: rest).find? (·.name = column) = some definition :=
              List.find?_cons_of_pos (by simpa using named)
            unfold Record.numbered numberCell
            rw [recordOf_first named, recordOf_first named, here]
            by_cases first : definition.type = .serial <;> cases value <;> simp [first]
          · have later : (definition :: rest).find? (·.name = column) = rest.find? (·.name = column) :=
              List.find?_cons_of_neg (by simpa using named)
            rw [recordOf_rest named, others]
            unfold Record.numbered
            rw [recordOf_rest named, later]
            by_cases first : definition.type = .serial
            · -- The number is taken, but the column is none that is numbered.
              have plain : (rest.find? (·.name = column)).map ColumnDefinition.type ≠ some .serial := by
                intro numbers
                obtain ⟨other, found, again⟩ := Option.map_eq_some_iff.mp numbers
                have same : other.name = column := by simpa using List.find?_some found
                have member := List.mem_cons_of_mem definition (List.mem_of_find?_eq_some found)
                refine named ?_
                rw [← same, only other member again, only definition List.mem_cons_self first]
              rw [if_neg fun both => plain both.2, if_neg fun both => plain both.2]
            · unfold numberCell
              rw [if_neg first]

end

section

variable {database after : Database} {name : String} {table : Table} {keys : List (List String)}
  {columns : List String} {values : List Cell}

theorem returned_values {returning : Option String} (has : ∀ column ∈ returning, table.Has column) (row : Row) :
    ∃ place, returning.mapM table.position = .ok place ∧
      (match place with
        | some position => [row].map fun row => row.getD position .null
        | none => []) = returning.toList.map (table.record row) := by
  cases returning with
  | none => exact ⟨none, rfl, rfl⟩
  | some column =>
      obtain ⟨position, placed⟩ := position_of_has (has column rfl)
      refine ⟨some position, ?_, ?_⟩
      · change (some <$> table.position column) = _
        rw [placed]
        rfl
      · exact congrArg ([·]) (record_position placed row)

theorem insert_one (found : database.table? name = some table) (unique : table.Unique keys) {serial : String}
    (only : ∀ definition ∈ table.columns, definition.type = .serial → definition.name = serial)
    (has : ∀ column ∈ columns, table.Has column) (fit : values.length = columns.length)
    {returning : Option String} (wanted : ∀ column ∈ returning, table.Has column) :
    let record := (Record.blank.assign (columns.zip values)).numbered table.columns table.nextSerial
    let run := Insert.run database ⟨name, columns, [values], returning⟩
    ((∀ key ∈ keys, KeyUnique key (database.records name ++ [record])) →
      ∃ after, run = .ok (returning.toList.map record, after) ∧
        Rewrites database after name (database.records name ++ [record])) ∧
    ((¬∀ key ∈ keys, KeyUnique key (database.records name ++ [record])) →
      ∃ violated, run = .error (.notUnique table.name violated)) := by
  intro record run
  obtain ⟨positions, placed⟩ : ∃ positions, columns.mapM table.position = .ok positions :=
    mapM_succeeds fun column member => position_of_has (has column member)
  have length : positions.length = columns.length := (mapM_forall₂ placed).length_eq.symm
  let filled := Table.fillSerials table.columns
    (Table.placeValues table.columns.length positions values) table.nextSerial
  have set := record_assign (zip_positions values placed)
    (List.length_replicate (n := table.columns.length) (a := Cell.null))
  have held : table.record filled.1 = record := by
    have blank : table.record (List.replicate table.columns.length .null) = Record.blank :=
      recordOf_nulls table.columns
    rw [blank] at set
    refine (fillSerials_exact only table.nextSerial set.2).trans ?_
    exact congrArg (Record.numbered table.columns table.nextSerial) set.1
  have completed : table.completeRows positions [values] table.nextSerial =
      .ok ([filled.1], filled.2) := by
    unfold Table.completeRows
    rw [if_neg (not_not.mpr (fit.trans length.symm))]
    rfl
  obtain ⟨place, located, returned⟩ := returned_values wanted filled.1
  rw [held] at returned
  have records : (table.rows ++ [filled.1]).map table.record = database.records name ++ [record] := by
    rw [List.map_append, List.map_singleton, held, records_of_table found]
    rfl
  have fits : table.checkUnique (table.rows ++ [filled.1]) = .ok () ↔
      ∀ columns ∈ keys, KeyUnique columns (database.records name ++ [record]) :=
    records ▸ checkUnique_records unique
  constructor
  · intro kept
    refine ⟨database.replace { table with rows := table.rows ++ [filled.1], nextSerial := filled.2 }, ?_, ?_⟩
    · rw [← returned]
      exact bind_of_ok (table_ok found) (bind_of_ok (bind_of_ok placed (bind_of_ok located
        (bind_of_ok completed (bind_of_ok (fits.mpr kept) rfl)))) rfl)
    · rw [← records]
      refine rewrites_replace (table.rows ++ [filled.1]) filled.2 found fun width row member => ?_
      rcases List.mem_append.mp member with old | new
      · exact width row old
      · rw [List.mem_singleton.mp new]
        exact (fillSerials_numbered table.columns table.nextSerial set.2).1
  · intro broken
    obtain ⟨violated, failed⟩ : ∃ violated, table.checkUnique (table.rows ++ [filled.1]) =
        .error (.notUnique table.name violated) := by
      unfold Table.checkUnique at fits ⊢
      split
      · rename_i fine
        rw [fine] at fits
        exact absurd (fits.mp rfl) broken
      · exact ⟨_, rfl⟩
    refine ⟨violated, ?_⟩
    have stopped : table.insert columns [values] returning = .error (.notUnique table.name violated) := by
      unfold Table.insert
      simp only [placed, located, completed, failed, bind, Except.bind]
    change (database.table name >>= _) = _
    rw [table_ok found]
    change (table.insert columns [values] returning >>= _) = _
    rw [stopped]
    rfl

theorem keyUnique_concat {column : String} {records : List Record} {record : Record} :
    KeyUnique [column] (records ++ [record]) ↔
      KeyUnique [column] records ∧
        (record column = .null ∨ ∀ other ∈ records, other column ≠ record column) := by
  unfold KeyUnique
  rw [List.filterMap_append, List.nodup_append]
  refine and_congr_right fun _ => ?_
  by_cases empty : record column = .null
  · simp [key?_single, empty]
  · have added : [record].filterMap (Record.key? [column]) = [[record column]] :=
      List.filterMap_cons_some (by rw [key?_single, if_neg empty])
    rw [added]
    simp only [List.nodup_singleton, List.mem_filterMap, key?_single, List.mem_singleton, empty, false_or,
      true_and]
    constructor
    · intro apart other member same
      exact apart [record column] ⟨other, member, by rw [same, if_neg empty]⟩ _ rfl rfl
    · rintro apart _ ⟨other, member, held⟩ _ rfl rfl
      split at held
      · cases held
      · exact apart other member (List.singleton_inj.mp (Option.some.inj held))

end

/-- The number that the next serial value of a table gets. -/
def Database.nextSerial (database : Database) (name : String) : Int :=
  ((database.table? name).map Table.nextSerial).getD 1

end Store

/-- The value of a field of a new resource: the one that is given, or else a number if it is the identity. -/
def EntityType.newValue (type : EntityType) (given : Field → Option Value) (number : Int) (field : Field) : Value :=
  (given field).getD (if field = type.identity then .integer number else .null)

def EntityType.newRecord (type : EntityType) (given : Field → Option Value) (number : Int) : Record :=
  fun column =>
    match type.fields.find? fun field => columnName field.name = column with
    | some field => cellOf (type.newValue given number field)
    | none => .null

/-- A record that is stored has the identity of a new one, or the same value in a unique field. -/
def Clashes (database : Database) (type : EntityType) (created : Record) : Prop :=
  ∃ record ∈ database.records (tableName type), record (idName type) = created (idName type) ∨
    ∃ field ∈ type.fields, field.unique = true ∧ created (columnName field.name) ≠ .null ∧
      record (columnName field.name) = created (columnName field.name)

instance (database : Database) (type : EntityType) (created : Record) :
    Decidable (Clashes database type created) :=
  inferInstanceAs (Decidable (∃ _ ∈ _, _))

section

variable {schema : Schema} {database : Database} {type : EntityType} {field : Field} {created : Record}
  {definitions : List ColumnDefinition} {values : Keyed Value}

theorem keys_unique_iff (keyed : type.extraKey = []) (identified : created (idName type) ≠ .null)
    (unique : ∀ key ∈ type.keys, KeyUnique key (database.records (tableName type))) :
    (∀ key ∈ type.keys, KeyUnique key (database.records (tableName type) ++ [created])) ↔
      ¬Clashes database type created := by
  have keys : type.keys = [idName type] ::
      (type.fields.filter (·.unique)).map fun field => [columnName field.name] := by
    unfold EntityType.keys EntityType.primaryKey
    rw [keyed]
    rfl
  rw [keys, List.forall_mem_cons, List.forall_mem_map] at unique ⊢
  obtain ⟨first, others⟩ := unique
  simp only [List.mem_filter, and_imp] at others ⊢
  simp only [keyUnique_concat, first, identified, true_and, false_or]
  constructor
  · rintro ⟨identity, fields⟩ ⟨record, member, same | ⟨field, own, once, given, same⟩⟩
    · exact identity record member same
    · rcases (fields field own once).2 with none | apart
      · exact given none
      · exact apart record member same
  · intro free
    refine ⟨fun record member same => free ⟨record, member, .inl same⟩,
      fun field own once => ⟨others field own once, ?_⟩⟩
    by_cases given : created (columnName field.name) = .null
    · exact .inl given
    · exact .inr fun record member same =>
        free ⟨record, member, .inr ⟨field, own, once, given, same⟩⟩

section

variable (columns : schema.ColumnsDistinct) (known : type ∈ schema.types)
include columns known

theorem newRecord_field {given : Field → Option Value} {number : Int} (own : field ∈ type.fields) :
    type.newRecord given number (columnName field.name) = cellOf (type.newValue given number field) := by
  have found := find_unique (fun field : Field => columnName field.name) (columns type known) own
  simp only [EntityType.newRecord, found]

theorem assigned_field (filled : Fills type.fields values) (once : (values.map Prod.fst).Nodup)
    (own : field ∈ type.fields) :
    Record.blank.assign (assignments values) (columnName field.name) =
      ((values.get? field.name).map cellOf).getD .null := by
  have named {entry : String × Value} (member : entry ∈ values)
      (same : columnName entry.1 = columnName field.name) : entry.1 = field.name := by
    obtain ⟨other, own', given, _⟩ := filled entry member
    rw [← given, same_field columns known own' own (given ▸ same)]
  cases held : values.get? field.name with
  | none =>
      refine Record.assign_other Record.blank fun assignment given same => ?_
      obtain ⟨entry, member, rfl⟩ := List.mem_map.mp given
      have absent := List.lookup_eq_none_iff.mp held entry member
      rw [named member same] at absent
      simp at absent
  | some value =>
      have member := Keyed.mem_of_lookup held
      obtain ⟨assignment, given, same, assigned⟩ := assigned_value
        ⟨_, List.mem_map_of_mem (f := fun entry : String × Value => (columnName entry.1, cellOf entry.2)) member,
          rfl⟩ Record.blank
      obtain ⟨entry, inside, rfl⟩ := List.mem_map.mp given
      have only := List.inj_on_of_nodup_map once inside member (named inside same)
      subst only
      exact assigned

theorem attribute_plain (laid : tableColumns schema type = .ok definitions) (own : field ∈ type.fields)
    (other : field ≠ type.identity) :
    ∀ definition ∈ definitions, definition.name = columnName field.name → definition.type ≠ .serial := by
  intro definition member named serial
  obtain ⟨field', own', same, identity, _⟩ := serial_column laid member serial
  obtain rfl := same_field columns known own' own (same.trans named)
  exact other (same_field columns known own List.mem_cons_self (congrArg columnName identity))

theorem created_record (laid : tableColumns schema type = .ok definitions) (filled : Fills type.fields values)
    (once : (values.map Prod.fst).Nodup) (valued : values.get? type.identity.name ≠ some .null)
    (identified : (values.get? type.identity.name).isSome ∨ type.identity.type = .integer) (number : Int) :
    (Record.blank.assign (assignments values)).numbered definitions number =
      type.newRecord (fun field => values.get? field.name) number := by
  funext column
  unfold EntityType.newRecord
  cases found : type.fields.find? fun field => columnName field.name = column with
  | none =>
      have apart : ∀ field ∈ type.fields, columnName field.name ≠ column := by
        simpa using List.find?_eq_none.mp found
      rw [Record.numbered_plain]
      · refine Record.assign_other Record.blank fun assignment given named => ?_
        obtain ⟨field, own, same, _⟩ := assignments_store filled assignment given
        exact apart field own (same.symm.trans named)
      · intro definition member named serial
        obtain ⟨field, own, same, _⟩ := serial_column laid member serial
        exact apart field own (same.trans named)
  | some field =>
      have own := List.mem_of_find?_eq_some found
      obtain rfl : columnName field.name = column := by simpa using List.find?_some found
      have assigned := assigned_field columns known filled once own
      unfold EntityType.newValue
      dsimp only
      by_cases identity : field = type.identity
      · subst identity
        rw [if_pos rfl]
        cases held : values.get? type.identity.name with
        | none =>
            rw [held] at assigned identified
            have whole : type.identity.type = .integer := identified.resolve_left nofun
            refine Record.numbered_serial (columns_distinct laid) number ?_ assigned
            have place := field_column laid (columns type known) own
            rwa [storedType, if_pos ⟨rfl, whole⟩] at place
        | some value =>
            rw [held] at assigned valued
            refine (Record.numbered_given number ?_).trans assigned
            rw [assigned]
            cases value <;> simp_all [cellOf]
      · rw [if_neg identity, Record.numbered_plain number (attribute_plain columns known laid own identity),
          assigned]
        cases values.get? field.name <;> rfl

theorem newRecord_identity {given : Field → Option Value} (valued : given type.identity ≠ some .null)
    (number : Int) : type.newRecord given number (idName type) ≠ .null := by
  unfold idName
  rw [newRecord_field columns known List.mem_cons_self]
  unfold EntityType.newValue
  rw [if_pos rfl]
  cases held : given type.identity with
  | none => nofun
  | some value =>
      cases value with
      | null => exact absurd held valued
      | _ => nofun

/-- Values are inserted as a new resource unless it clashes with one that is there, and then the insertion fails
for that. -/
theorem insert_resource (housed : Housed schema database) (tables : schema.TablesDistinct)
    (keyed : type.extraKey = []) (filled : Fills type.fields values) (once : (values.map Prod.fst).Nodup)
    (valued : values.get? type.identity.name ≠ some .null)
    (identified : (values.get? type.identity.name).isSome ∨ type.identity.type = .integer)
    {returning : Option String} (wanted : ∀ column ∈ returning, column = idName type) :
    let created := type.newRecord (fun field => values.get? field.name) (database.nextSerial (tableName type))
    let run := Insert.run database
      { table := tableName type
        columns := values.map fun entry => columnName entry.1
        rows := [values.map fun entry => cellOf entry.2]
        returning := returning }
    (¬Clashes database type created → ∃ after, run = .ok (returning.toList.map created, after) ∧
      Rewrites database after (tableName type) (database.records (tableName type) ++ [created])) ∧
    (Clashes database type created → ∃ violated, run = .error (.notUnique (tableName type) violated)) := by
  intro created run
  obtain ⟨table, found, _, laid, unique⟩ := housed.planned tables known
  have place {field : Field} (own : field ∈ type.fields) : table.Has (columnName field.name) :=
    ⟨_, field_column laid (columns type known) own, rfl⟩
  have only : ∀ definition ∈ table.columns, definition.type = .serial → definition.name = idName type := by
    intro definition member serial
    obtain ⟨field, _, named, identity, _⟩ := serial_column laid member serial
    rw [← named, identity]
    rfl
  have next : database.nextSerial (tableName type) = table.nextSerial := by
    unfold Database.nextSerial
    rw [found]
    rfl
  have record : (Record.blank.assign ((values.map fun entry => columnName entry.1).zip
      (values.map fun entry => cellOf entry.2))).numbered table.columns table.nextSerial = created := by
    rw [zip_assignments, ← next]
    exact created_record columns known laid filled once valued identified _
  have obeyed := (checkUnique_records unique).mp (housed.obeyed _ table found)
  have fits : (∀ key ∈ type.keys, KeyUnique key (database.records (tableName type) ++ [created])) ↔
      ¬Clashes database type created := by
    refine keys_unique_iff keyed (newRecord_identity columns known valued _) ?_
    rwa [records_of_table found]
  have has : ∀ column ∈ values.map fun entry => columnName entry.1, table.Has column := by
    refine List.forall_mem_map.mpr fun entry member => ?_
    obtain ⟨field, own, named, _⟩ := filled entry member
    exact named ▸ place own
  have lengths : (values.map fun entry => cellOf entry.2).length =
      (values.map fun entry => columnName entry.1).length := by
    rw [List.length_map, List.length_map]
  have asked : ∀ column ∈ returning, table.Has column := fun column asked =>
    wanted column asked ▸ place List.mem_cons_self
  have ran := insert_one found unique only has lengths asked
  dsimp only at ran
  rw [record, fits, not_not, Database.table?_name found] at ran
  exact ran

end

end

end ResourceServer
