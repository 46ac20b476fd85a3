import ResourceServer.Filter.Operator
import ResourceServer.Json.Basic
/-! Filters as a client writes them, read from JSON without regard to any schema. -/

namespace ResourceServer.Filter

inductive FilterError
  | unknownField (name : String)
  | comparisonToNull
  | unknownOperator (operator : String)
  | invalidValue (field value type : String)
  | malformed (reason : String)
  deriving DecidableEq

namespace FilterError

def message : FilterError → String
  | .unknownField name => s!"Invalid filter object: No such field \"{name}\""
  | .comparisonToNull =>
    "To compare a value to NULL, use the is_null/is_not_null operators."
  | .unknownOperator operator => s!"Invalid filter object: No such operator \"{operator}\""
  | .invalidValue field value type =>
    s!"Invalid filter object: {value} is not a valid {type} for field \"{field}\""
  | .malformed reason => s!"Invalid filter object: {reason}"

end FilterError

mutual

inductive Node
  | and (children : List Node)
  | or (children : List Node)
  | leaf (name : String) (operator : Operator) (argument : Argument)

inductive Argument
  | none
  | value (json : Json)
  | field (name : String)
  | filter (node : Node)

end

namespace Node

def leafKeys : List String := ["name", "op", "val", "field"]

/-- The argument that a leaf's `val` and `field` members give; `nested` reads `val` as a filter. -/
def argumentOf (members : Keyed Json) (operator : Operator)
    (nested : Option (Except FilterError Node)) : Except FilterError Argument :=
  match Keyed.get? members "val", Keyed.get? members "field" with
  | some _, some _ => .error (.malformed "\"val\" and \"field\" can not be used together")
  | none, none | some .null, none => .ok .none
  | none, some (.string name) => .ok (.field name)
  | none, some _ => .error (.malformed "\"field\" must be a string")
  | some json, none =>
    if operator.arity = .relation then
      match nested with
      | some node => node.map .filter
      | none => .ok .none
    else .ok (.value json)

/-- A leaf names a member and an operator, and may have an argument. -/
def leafOf (members : Keyed Json) (nested : Option (Except FilterError Node)) :
    Except FilterError Node :=
  match members.find? fun member => !leafKeys.contains member.1 with
  | some (key, _) => .error (.malformed s!"unexpected key \"{key}\"")
  | none =>
    match Keyed.get? members "name" with
    | some (.string name) =>
      match Keyed.get? members "op" with
      | some (.string spelling) =>
        match Operator.read? spelling with
        | some operator => (argumentOf members operator nested).map (.leaf name operator)
        | none => .error (.unknownOperator spelling)
      | _ => .error (.malformed "\"op\" must be a string")
    | _ => .error (.malformed "\"name\" must be a string")

/-- The children of a junction, which has no member besides them. -/
def junctionOf (key : String) (members : Keyed Json) (children : Except FilterError (List Node)) :
    Except FilterError (List Node) :=
  if members.length ≠ 1 then
    .error (.malformed s!"\"{key}\" must be the only key in its object")
  else
    match Keyed.get? members key with
    | some (.array _) => children
    | _ => .error (.malformed s!"\"{key}\" must be a list")

mutual

def parse : Json → Except FilterError Node
  | .object members =>
    if Keyed.contains members "and" then
      (junctionOf "and" members (parseItemsUnder "and" members)).map .and
    else if Keyed.contains members "or" then
      (junctionOf "or" members (parseItemsUnder "or" members)).map .or
    else leafOf members (parseUnder "val" members)
  | json => .error (.malformed s!"expected an object, got {json.render}")

def parseAll : List Json → Except FilterError (List Node)
  | [] => .ok []
  | json :: rest => do
    let node ← parse json
    let nodes ← parseAll rest
    .ok (node :: nodes)

/-- Reads the member of a key as a list of filters. -/
def parseItemsUnder (key : String) : List (String × Json) → Except FilterError (List Node)
  | [] => .ok []
  | (other, json) :: rest => if key = other then parseItems json else parseItemsUnder key rest

def parseItems : Json → Except FilterError (List Node)
  | .array items => parseAll items
  | _ => .ok []

/-- Reads the member of a key as a filter. -/
def parseUnder (key : String) : List (String × Json) → Option (Except FilterError Node)
  | [] => none
  | (other, json) :: rest => if key = other then some (parse json) else parseUnder key rest

end

end Node

end ResourceServer.Filter
