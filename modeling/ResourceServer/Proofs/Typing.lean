import Mathlib.Data.List.Forall2
import ResourceServer.Store.Evaluation

/-! Rows as records of values by column, and the scopes that give columns their values. -/

namespace ResourceServer.Store

abbrev Record := String → Cell

/-- The values of a row by the names of some columns. A column that is not there holds null, and of two with
one name the first counts. -/
def recordOf : List ColumnDefinition → Row → Record
  | definition :: definitions, cell :: cells => fun column =>
    if definition.name = column then cell else recordOf definitions cells column
  | _, _ => fun _ => .null

section

variable {definition : ColumnDefinition} {definitions : List ColumnDefinition} {cell : Cell}
  {cells : Row} {column : String}

theorem recordOf_first (named : definition.name = column) :
    recordOf (definition :: definitions) (cell :: cells) column = cell :=
  if_pos named

theorem recordOf_rest (apart : definition.name ≠ column) :
    recordOf (definition :: definitions) (cell :: cells) column =
      recordOf definitions cells column :=
  if_neg apart

end

namespace Table

def record (table : Table) (row : Row) : Record :=
  recordOf table.columns row

def records (table : Table) : List Record :=
  table.rows.map table.record

def Has (table : Table) (column : String) : Prop :=
  ∃ definition ∈ table.columns, definition.name = column

def Wide (table : Table) : Prop :=
  ∀ row ∈ table.rows, row.length = table.columns.length

end Table

theorem Database.table?_name {database : Database} {name : String} {table : Table}
    (found : database.table? name = some table) : table.name = name := by
  simpa using List.find?_some found

/-- The records of a table; one that is not there has none. -/
def Database.records (database : Database) (table : String) : List Record :=
  ((database.table? table).map Table.records).getD []

def Scope.Binds (scope : Scope) (name : String) (table : Table) (record : Record) : Prop :=
  ∀ column, table.Has column → scope.get (.ofTable name column) = .ok (record column)

theorem find_column (columns : List ColumnDefinition) (row : Row) (name column : String)
    (rest : Scope) (wide : row.length = columns.length)
    (present : ∃ definition ∈ columns, definition.name = column) :
    ((columns.map fun definition => Column.ofTable name definition.name).zip row ++ rest).find?
        (fun entry => isMeant (.ofTable name column) entry.1) =
      some (Column.ofTable name column, recordOf columns row column) := by
  induction columns generalizing row with
  | nil =>
      obtain ⟨definition, member, _⟩ := present
      cases member
  | cons first others ih =>
      cases row with
      | nil => cases wide
      | cons cell cells =>
          by_cases named : first.name = column
          · rw [recordOf_first named]
            simp [isMeant, Column.ofTable, named]
          · have later : ∃ definition ∈ others, definition.name = column := by
              obtain ⟨definition, member, same⟩ := present
              rcases List.mem_cons.mp member with rfl | member
              · exact absurd same named
              · exact ⟨definition, member, same⟩
            have found := ih cells (by simpa using wide) later
            simp only [List.map_cons, List.zip_cons_cons, List.cons_append]
            rw [List.find?_cons_of_neg (by simp [isMeant, Column.ofTable, named]), found,
              recordOf_rest named]

/-- A row at the front of a scope binds its table. -/
theorem scope_binds (table : Table) (name : String) (row : Row) (rest : Scope)
    (wide : row.length = table.columns.length) :
    Scope.Binds (table.scope name row ++ rest) name table (table.record row) := by
  intro column present
  unfold Scope.get Table.scope
  rw [find_column table.columns row name column rest wide present]
  rfl

theorem get_behind (table : Table) (name other column : String) (row : Row) (rest : Scope)
    (apart : other ≠ name) :
    Scope.get (table.scope name row ++ rest) (.ofTable other column) =
      rest.get (.ofTable other column) := by
  have hidden : (table.scope name row).find?
      (fun entry => isMeant (.ofTable other column) entry.1) = none := by
    rw [List.find?_eq_none]
    intro entry member
    have inside : entry.1 ∈ _ ∧ entry.2 ∈ row := List.of_mem_zip member
    obtain ⟨definition, _, same⟩ := List.mem_map.mp inside.1
    simp [isMeant, Column.ofTable, ← same, Ne.symm apart]
  unfold Scope.get
  rw [List.find?_append, hidden, Option.none_or]

theorem binds_behind {scope : Scope} {name other : String} {table : Table}
    {record : Record} (joined : Table) (row : Row) (bound : scope.Binds other table record) (apart : other ≠ name) :
    Scope.Binds (joined.scope name row ++ scope) other table record := by
  intro column present
  rw [get_behind joined name other column row scope apart]
  exact bound column present

/-! The values that a column may hold, and rows that hold them. -/

def ColumnType.admits : ColumnType → Cell → Bool
  | _, .null => true
  | .bool, .bool _ => true
  | .integer, .integer _ => true
  | .serial, .integer _ => true
  | .decimal, .decimal value => value ≠ .nan
  | .text, .text _ => true
  | .date, .date _ => true
  | .timestamp, .timestamp _ => true
  | .time, .time _ => true
  | .interval, .interval _ => true
  | _, _ => false

/-- A column holds null and values of its type, numbers that are none among them. -/
def ColumnType.takes (type : ColumnType) (cell : Cell) : Prop :=
  cell = .null ∨ cell.type? = some type

instance (type : ColumnType) (cell : Cell) : Decidable (type.takes cell) :=
  inferInstanceAs (Decidable (_ ∨ _))

def Row.fits (row : Row) (columns : List ColumnDefinition) : Prop :=
  List.Forall₂ (fun definition cell => definition.type.admits cell) columns row

instance (row : Row) (columns : List ColumnDefinition) : Decidable (row.fits columns) :=
  inferInstanceAs (Decidable (List.Forall₂ _ columns row))

def Table.WellTyped (table : Table) : Prop :=
  ∀ row ∈ table.rows, row.fits table.columns

instance (table : Table) : Decidable table.WellTyped :=
  inferInstanceAs (Decidable (∀ row ∈ table.rows, row.fits table.columns))

def ColumnType.stored : ColumnType → ColumnType
  | .serial => .integer
  | type => type

theorem stored_admits (type : ColumnType) (cell : Cell) :
    type.stored.admits cell = type.admits cell := by
  cases type <;> cases cell <;> rfl

theorem admits_cases {type : ColumnType} {cell : Cell} (admitted : type.admits cell) :
    cell = .null ∨ cell.type? = some type.stored ∧ cell ≠ .decimal .nan := by
  cases cell with
  | null => exact .inl rfl
  | decimal value =>
      cases type with
      | decimal =>
          have defined : value ≠ .nan := by simpa [ColumnType.admits] using admitted
          exact .inr ⟨rfl, by simpa using defined⟩
      | _ => cases admitted
  | _ => cases type <;> first | exact .inr ⟨rfl, nofun⟩ | cases admitted

theorem takes_of_admits {type : ColumnType} {cell : Cell} (admitted : type.admits cell)
    (plain : type.stored = type) : type.takes cell := by
  rcases admits_cases admitted with empty | ⟨kind, _⟩
  · exact .inl empty
  · exact .inr (plain ▸ kind)

theorem compare_defined {left right : Number.Binary64} (one : left ≠ .nan) (other : right ≠ .nan) :
    (left.compare? right).isSome := by
  cases left with
  | nan => exact absurd rfl one
  | signed negative magnitude =>
      cases right with
      | nan => exact absurd rfl other
      | signed negative' magnitude' => cases negative <;> cases negative' <;> rfl

theorem comparable {type : ColumnType} {left right : Cell} (one : type.admits left)
    (other : type.admits right) (given : right ≠ .null) :
    left = .null ∨ (left.compare? right).isSome := by
  rcases admits_cases one with empty | ⟨kind, defined⟩
  · exact .inl empty
  · rcases admits_cases other with empty | ⟨kind', defined'⟩
    · exact absurd empty given
    · have same : left.type? = right.type? := kind.trans kind'.symm
      refine .inr ?_
      cases left with
      | null => cases kind
      | decimal value =>
          cases right with
          | decimal value' =>
              exact compare_defined (fun nan => defined (nan ▸ rfl)) fun nan => defined' (nan ▸ rfl)
          | _ => cases same
      | _ => cases right <;> first | rfl | cases same

/-- A row that fits holds, under the name of a column, a value that the column may hold. -/
theorem recordOf_admits {columns : List ColumnDefinition} {row : Row} {definition : ColumnDefinition}
    (distinct : (columns.map ColumnDefinition.name).Nodup) (fit : row.fits columns)
    (member : definition ∈ columns) :
    definition.type.admits (recordOf columns row definition.name) := by
  induction fit with
  | nil => cases member
  | @cons first cell others cells admitted _ ih =>
      rw [List.map_cons, List.nodup_cons] at distinct
      rcases List.mem_cons.mp member with rfl | member
      · rw [recordOf_first rfl]
        exact admitted
      · have apart : first.name ≠ definition.name := fun same =>
          distinct.1 (same ▸ List.mem_map_of_mem member)
        rw [recordOf_rest apart]
        exact ih distinct.2 member

end ResourceServer.Store
