import ResourceServer.Schema.Basic
import ResourceServer.Text.Split
/-! Orders that a client asks for, and their resolution against a schema. -/

namespace ResourceServer.Sorting

inductive SortError
  | unknownField (name : String)
  | toMany (name : String)
  deriving DecidableEq

namespace SortError

def message : SortError → String
  | .unknownField name => s!"Invalid sorting: No such field {name}"
  | .toMany name => s!"Invalid sorting: can not sort by the to-many relationship {name}"

end SortError

/-- A sort key leads along relationships to a field, which is the last segment. -/
structure SortKey where
  descending : Bool
  path : List String
  deriving DecidableEq

inductive SortRequest
  | byPrimaryKey
  | unsorted
  | byKeys (keys : List SortKey)
  deriving DecidableEq

/-- One resolved sort key: a path of to-one relationships and a field at its end. -/
structure OrderKey where
  path : List String
  field : String
  descending : Bool
  deriving DecidableEq

def readKey (text : List Char) : Except SortError SortKey :=
  let (descending, path) :=
    match text with
    | '-' :: rest => (true, rest)
    | '+' :: rest => (false, rest)
    | rest => (false, rest)
  let segments := (Text.splitChars '.' [] path).map String.ofList
  if segments.contains "" then .error (.unknownField "") else .ok ⟨descending, segments⟩

/-- No text asks for the primary key, a zero for no order, and anything else for a list of keys. -/
def read (text : String) : Except SortError SortRequest :=
  let text := Text.trim text
  if text = "" then .ok .byPrimaryKey
  else if text = "0" then .ok .unsorted
  else
    let keys := Text.splitChars ',' [] text.toList
    (keys.mapM fun key => readKey (Text.trimChars key)).map .byKeys

/-- The type that a path of to-one relationships leads to. -/
def follow (schema : Schema) (type : EntityType) : List String → Except SortError EntityType
  | [] => .ok type
  | name :: rest =>
    match type.relationship? name with
    | none => .error (.unknownField name)
    | some relationship =>
      if relationship.isToMany then .error (.toMany name)
      else
        match schema.type? relationship.target with
        | none => .error (.unknownField name)
        | some target => follow schema target rest

def resolveKey (schema : Schema) (type : EntityType) (key : SortKey) :
    Except SortError OrderKey :=
  match key.path.getLast? with
  | none => .error (.unknownField "")
  | some field => do
    let path := key.path.dropLast
    let last ← follow schema type path
    if (last.field? field).isNone then .error (.unknownField field)
    else .ok ⟨path, field, key.descending⟩

def resolve (schema : Schema) (type : EntityType) : SortRequest → Except SortError (List OrderKey)
  | .byPrimaryKey => .ok (type.primaryKey.map fun field => ⟨[], field, false⟩)
  | .unsorted => .ok []
  | .byKeys keys => keys.mapM (resolveKey schema type)

end ResourceServer.Sorting
