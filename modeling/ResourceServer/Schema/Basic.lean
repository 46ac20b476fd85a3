import ResourceServer.Schema.FieldType
/-! Entity types with their fields and relationships, and schemas of them. -/

namespace ResourceServer

structure Field where
  name : String
  type : FieldType
  unique : Bool
  deriving DecidableEq

inductive Cardinality
  | toOne
  | toMany
  deriving DecidableEq

def Cardinality.name : Cardinality → String
  | .toOne => "to-one"
  | .toMany => "to-many"

/-- Where the links of a relationship are kept: in a key column of the owner, in a key column of the target,
or in a table of pairs. -/
inductive Storage
  | ownerKey (column : String)
  | targetKey (column : String)
  | joinTable (table ownerColumn targetColumn : String)
  deriving DecidableEq

structure Relationship where
  name : String
  cardinality : Cardinality
  target : String
  nullable : Bool
  storage : Storage
  deriving DecidableEq

namespace Relationship

def isToMany (relationship : Relationship) : Bool :=
  relationship.cardinality = .toMany

end Relationship

/-- A type of resources. The identity field comes first among its fields, and its primary key may name more
fields. -/
structure EntityType where
  name : String
  table : Option String
  identity : Field
  attributes : List Field
  relationships : List Relationship
  extraKey : List String
  deriving DecidableEq

namespace EntityType

def fields (type : EntityType) : List Field :=
  type.identity :: type.attributes

def field? (type : EntityType) (name : String) : Option Field :=
  type.fields.find? fun field => field.name = name

def relationship? (type : EntityType) (name : String) : Option Relationship :=
  type.relationships.find? fun relationship => relationship.name = name

def primaryKey (type : EntityType) : List String :=
  type.identity.name :: type.extraKey

/-- The names of all members, fields first. -/
def memberNames (type : EntityType) : List String :=
  type.fields.map (·.name) ++ type.relationships.map (·.name)

/-- The identity that a text spells. -/
def readId? (type : EntityType) (text : String) : Option Value :=
  type.identity.type.read? text

end EntityType

/-- Why some entity types are not a schema. -/
inductive SchemaError
  | duplicateType (type : String)
  | duplicateMember (type name : String)
  | unknownKeyField (type field : String)
  | unknownTarget (type relationship target : String)
  deriving DecidableEq

namespace SchemaError

def message : SchemaError → String
  | .duplicateType type => s!"entity type {type} is defined more than once"
  | .duplicateMember type name => s!"entity type {type} has more than one member named {name}"
  | .unknownKeyField type field => s!"primary key of {type} names unknown field {field}"
  | .unknownTarget type relationship target =>
    s!"relationship {type}.{relationship} targets unknown type {target}"

end SchemaError

/-- Entity types in the order of their names. -/
structure Schema where
  types : List EntityType

namespace Schema

def type? (schema : Schema) (name : String) : Option EntityType :=
  schema.types.find? fun type => type.name = name

/-- The first name that occurs before. -/
def firstRepeated (seen : List String) : List String → Option String
  | [] => none
  | name :: rest => if seen.contains name then some name else firstRepeated (name :: seen) rest

/-- What is wrong with an entity type by itself. -/
def typeError? (type : EntityType) : Option SchemaError :=
  match firstRepeated [] type.memberNames with
  | some name => some (.duplicateMember type.name name)
  | none =>
    (type.primaryKey.find? fun field => (type.field? field).isNone).map
      (SchemaError.unknownKeyField type.name)

def insertType (type : EntityType) : List EntityType → List EntityType
  | [] => [type]
  | other :: rest =>
    if type.name < other.name then type :: other :: rest else other :: insertType type rest

/-- Adds entity types one by one, stopping at the first that does not fit. -/
def collect (schema : Schema) : List EntityType → Except SchemaError Schema
  | [] => .ok schema
  | type :: rest =>
    if (schema.type? type.name).isSome then .error (.duplicateType type.name)
    else
      match typeError? type with
      | some error => .error error
      | none => collect ⟨insertType type schema.types⟩ rest

/-- The first relationship whose target is no type of the schema. -/
def danglingTarget? (schema : Schema) : Option SchemaError :=
  schema.types.findSome? fun type =>
    type.relationships.findSome? fun relationship =>
      if (schema.type? relationship.target).isNone then
        some (.unknownTarget type.name relationship.name relationship.target)
      else none

/-- The schema of some entity types: names are distinct, primary keys name fields and relationships name
types. -/
def ofTypes (types : List EntityType) : Except SchemaError Schema := do
  let schema ← collect ⟨[]⟩ types
  match schema.danglingTarget? with
  | some error => .error error
  | none => .ok schema

def fieldsOf? (schema : Schema) (type : String) : Option (List Field) :=
  (schema.type? type).map EntityType.fields

def relationshipsOf? (schema : Schema) (type : String) : Option (List Relationship) :=
  (schema.type? type).map EntityType.relationships

/-- The type that a relationship leads to. -/
def targetOf? (schema : Schema) (type relationship : String) : Option EntityType := do
  let entity ← schema.type? type
  let relationship ← entity.relationship? relationship
  schema.type? relationship.target

end Schema

end ResourceServer
