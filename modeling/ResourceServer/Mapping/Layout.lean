import ResourceServer.Resource
import ResourceServer.StableSort
import ResourceServer.Store.Connection
import ResourceServer.Text.Quoted
import ResourceServer.Text.SnakeCase
/-! How resources are laid out in tables: names, types, values and rows. -/

namespace ResourceServer.Mapping

open ResourceServer.Number ResourceServer.Store

/-- Why the tables do not answer what is asked about resources. -/
inductive MappingError
  | store (error : StoreError)
  | noReturnedId
  | vanished (type id : String)
  | notACount (value : Cell)
  | invalidId (id type : String)
  | unconvertible (value : Cell) (type : FieldType)
  | unknownType (type : String)
  | missingId (type : String)
  | unknownField (type field : String)
  | unknownRelationship (type relationship : String)
  | unsupported (type relationship operation : String)
  deriving DecidableEq

/-- A field type in full. -/
def describeType : FieldType → String
  | .string => "String"
  | .integer => "Int"
  | .decimal => "Float"
  | .bool => "Bool"
  | .date => "Date"
  | .timestamp => "DateTime"
  | .time => "Time"
  | .duration => "Duration"
  | .labels allowed => "Enum([" ++ ", ".intercalate (allowed.map Text.quoted) ++ "])"

namespace MappingError

def message : MappingError → String
  | .store error => error.message
  | .noReturnedId => "insert did not return an ID"
  | .vanished type id => s!"inserted resource {type}/{id} not found"
  | .notACount value => s!"type mismatch: expected a count, got {value.literal}"
  | .invalidId id type => s!"type mismatch: invalid ID {id} for type {type}"
  | .unconvertible value type =>
    s!"type mismatch: cannot convert {value.literal} to {describeType type}"
  | .unknownType type => s!"no such type {type}"
  | .missingId type => s!"an ID is required to create a resource of type {type}"
  | .unknownField type field => s!"no such field {type}.{field}"
  | .unknownRelationship type relationship => s!"no such relationship {type}.{relationship}"
  | .unsupported type relationship operation =>
    s!"relationship {type}.{relationship} does not support {operation}"

end MappingError

/-- The table of a type: the one it names, or its own name in snake case. -/
def tableName (type : EntityType) : String :=
  type.table.getD (Text.snakeCase type.name)

/-- The column of a field. -/
def columnName (field : String) : String :=
  Text.snakeCase field

def fieldColumn (table field : String) : Column :=
  .ofTable table (columnName field)

def idColumn (type : EntityType) (table : String) : Column :=
  fieldColumn table type.identity.name

def fieldColumns (type : EntityType) (table : String) : List Selected :=
  type.fields.map fun field => .column (fieldColumn table field.name)

/-- A field value as it is stored; a label is stored as text. -/
def cellOf : Value → Cell
  | .null => .null
  | .bool value => .bool value
  | .integer value => .integer value
  | .decimal value => .decimal value
  | .string text => .text text
  | .label text => .text text
  | .date value => .date value
  | .timestamp value => .timestamp value
  | .time value => .time value
  | .duration value => .interval value

/-- A stored value as a value of a field type. -/
def valueOf (type : FieldType) (cell : Cell) : Except MappingError Value :=
  match type, cell with
  | _, .null => .ok .null
  | .string, .text text => .ok (.string text)
  | .labels _, .text text => .ok (.label text)
  | .integer, .integer value => .ok (.integer value)
  | .decimal, .decimal value => .ok (.decimal value)
  | .decimal, .integer value => .ok (.decimal (.ofInt value))
  | .bool, .bool value => .ok (.bool value)
  | .date, .date value => .ok (.date value)
  | .timestamp, .timestamp value => .ok (.timestamp value)
  | .time, .time value => .ok (.time value)
  | .duration, .interval value => .ok (.duration value)
  | type, cell => .error (.unconvertible cell type)

def columnType : FieldType → ColumnType
  | .string => .text
  | .labels _ => .text
  | .integer => .integer
  | .decimal => .decimal
  | .bool => .bool
  | .date => .date
  | .timestamp => .timestamp
  | .time => .time
  | .duration => .interval

/-- The type of a key column that refers to a type. -/
def keyType (type : EntityType) : ColumnType :=
  columnType type.identity.type

/-- The stored form of an identity, if its text spells one. -/
def idCell? (type : EntityType) (id : String) : Option Cell :=
  (type.readId? id).map cellOf

/-- The stored forms of those texts that spell identities. -/
def idCells (type : EntityType) (ids : List String) : List Cell :=
  ids.filterMap (idCell? type)

def idCell (type : EntityType) (id : String) : Except MappingError Cell :=
  match idCell? type id with
  | some cell => .ok cell
  | none => .error (.invalidId id type.name)

def findType (schema : Schema) (name : String) : Except MappingError EntityType :=
  match schema.type? name with
  | some type => .ok type
  | none => .error (.unknownType name)

/-- A relationship of a type, with the type it leads to. -/
def findRelationship (schema : Schema) (type : EntityType) (name : String) :
    Except MappingError (Relationship × EntityType) :=
  match type.relationship? name with
  | none => .error (.unknownRelationship type.name name)
  | some relationship =>
    (findType schema relationship.target).map fun target => (relationship, target)

/-- The columns of a type's own fields by name, with their places; an integer identity is a serial column. A
name that comes again moves to the end of the columns so far. -/
def ownColumns (type : EntityType) : Keyed (Nat × ColumnType) :=
  type.fields.foldl (fun columns field =>
    let serial := field.name = type.identity.name ∧ field.type = .integer
    let stored := if serial then .serial else columnType field.type
    columns.put (columnName field.name) (columns.length, stored)) []

/-- The key columns in a type's table: those of its own relationships, and those of relationships that lead
to it. -/
def keyColumns (schema : Schema) (type : EntityType) : Except MappingError (List (String × ColumnType)) := do
  let own ← type.relationships.filterMapM fun relationship =>
    match relationship.storage with
    | .ownerKey column => do
      let target ← findType schema relationship.target
      return some (column, keyType target)
    | _ => return none
  let others := schema.types.flatMap fun owner =>
    owner.relationships.filterMap fun relationship =>
      match relationship.storage with
      | .targetKey column =>
        if relationship.target = type.name then some (column, keyType owner) else none
      | _ => none
  .ok (own ++ others)

/-- The columns of a type's table, fields first. -/
def tableColumns (schema : Schema) (type : EntityType) :
    Except MappingError (List ColumnDefinition) := do
  let keys ← keyColumns schema type
  let columns := keys.foldl (fun columns key =>
    if columns.contains key.1 then columns else columns.put key.1 (columns.length, key.2))
    (ownColumns type)
  let placed := stableSort (fun left right => Ord.compare left.2.1 right.2.1) columns
  .ok (placed.map fun (name, _, type) => ⟨name, type⟩)

/-- The values of some fields, taken from a row one by one. -/
def readFields : List Field → Row → Except MappingError (Keyed Value)
  | [], _ => .ok []
  | _ :: _, [] => .error (.store (.outOfRange 0))
  | field :: fields, cell :: row => do
    let value ← valueOf field.type cell
    let values ← readFields fields row
    .ok ((field.name, value) :: values)

/-- The resource in a row that holds the values of a type's fields. -/
def readRow (type : EntityType) (row : Row) : Except MappingError Instance :=
  (readFields type.fields row).map (Instance.ofValues type)

/-- An action on the tables of resources. -/
abbrev MappingAction := Action MappingError

/-- A statement as a step of an action on resources. -/
def statement {α : Type} (action : Action StoreError α) : MappingAction α :=
  action.mapError .store

end ResourceServer.Mapping
