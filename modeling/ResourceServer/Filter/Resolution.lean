import ResourceServer.Filter.Node
import ResourceServer.Filter.Predicate
import ResourceServer.Schema.Basic
/-! Resolving a client's filters against an entity type. -/

namespace ResourceServer.Filter

open ResourceServer.Calendar

/-- The words for the present moment that a temporal field may be compared with. -/
def currentValue? (now : Timestamp) : FieldType → String → Option Value
  | .date, word =>
    if word ∈ ["CURRENT_DATE", "CURRENT_TIMESTAMP", "LOCALTIMESTAMP"] then some (.date now.date)
    else none
  | .timestamp, word =>
    if word ∈ ["CURRENT_TIMESTAMP", "LOCALTIMESTAMP"] then some (.timestamp now)
    else if word = "CURRENT_DATE" then some (.timestamp ⟨now.date, Time.midnight⟩)
    else none
  | .time, word =>
    if word ∈ ["CURRENT_TIME", "CURRENT_TIMESTAMP", "LOCALTIMESTAMP"] then some (.time now.time)
    else none
  | _, _ => none

/-- A JSON value as a value of the field it is compared with. -/
def literal (now : Timestamp) (field : Field) (json : Json) : Except FilterError Value :=
  match json with
  | .null => .error .comparisonToNull
  | json =>
    let current := json.string?.bind (currentValue? now field.type)
    match current <|> field.type.ofJson? json with
    | some value => .ok value
    | none => .error (.invalidValue field.name json.render field.type.name)

/-- The text that a pattern or search operator takes. -/
def patternText (field : Field) : Json → Except FilterError String
  | .string text => .ok text
  | json => .error (.invalidValue field.name json.render "string")

/-- The condition that compares a field with a literal. -/
def valuePredicate (now : Timestamp) (field : Field) (operator : Operator) (json : Json) :
    Except FilterError Predicate :=
  match operator with
  | .compare comparison => do
    let value ← literal now field json
    .ok (.compare field.name comparison (.value value))
  | .like => return .like field.name (← patternText field json) false
  | .ilike => return .like field.name (← patternText field json) true
  | .notLike => return .not (.like field.name (← patternText field json) false)
  | .isIn | .notIn =>
    match json with
    | .array items => do
      let values ← items.mapM (literal now field)
      let predicate := Predicate.oneOf field.name values
      .ok (if operator = .notIn then .not predicate else predicate)
    | _ => .error (.malformed s!"operator \"{operator.name}\" requires a list")
  | .search => return .search field.name (← patternText field json) false
  | .plainSearch => return .search field.name (← patternText field json) true
  | operator => .error (.malformed s!"unsupported operator \"{operator.name}\"")

/-- The condition that a leaf on a field stands for. -/
def fieldPredicate (now : Timestamp) (type : EntityType) (field : Field) (operator : Operator)
    (argument : Argument) : Except FilterError Predicate :=
  match operator, argument with
  | .isNull, _ => .ok (.isNull field.name)
  | .isNotNull, _ => .ok (.not (.isNull field.name))
  | _, .none => .error .comparisonToNull
  | .has, _ | .any, _ =>
    .error (.malformed
      s!"operator \"{operator.name}\" requires a relationship, but \"{field.name}\" is a field")
  | operator, .filter _ =>
    .error (.malformed s!"operator \"{operator.name}\" does not take a nested filter")
  | operator, .field other =>
    if (type.field? other).isNone then .error (.unknownField other)
    else
      match operator with
      | .compare comparison => .ok (.compare field.name comparison (.field other))
      | operator =>
        .error (.malformed s!"operator \"{operator.name}\" can not compare two fields")
  | operator, .value json => valuePredicate now field operator json

/-- The condition that a leaf on a relationship stands for; `nested` resolves its argument against the target
type. -/
def relationshipPredicate (relationship : Relationship) (operator : Operator)
    (nested : Except FilterError Predicate) : Except FilterError Predicate :=
  let name := relationship.name
  match operator with
  | .isNull => .ok (.not (.linked name))
  | .isNotNull => .ok (.linked name)
  | .has =>
    if relationship.isToMany then
      .error (.malformed
        s!"\"{name}\" is a to-many relationship; use \"any\" instead of \"has\"")
    else nested.map (.related name)
  | .any =>
    if relationship.isToMany then nested.map (.related name)
    else
      .error (.malformed
        s!"\"{name}\" is a to-one relationship; use \"has\" instead of \"any\"")
  | operator =>
    .error (.malformed
      s!"operator \"{operator.name}\" can not be applied to relationship \"{name}\"")

mutual

/-- The condition that a filter stands for. A name is looked up among the fields first. -/
def resolve (schema : Schema) (now : Timestamp) (type : EntityType) :
    Node → Except FilterError Predicate
  | .and children => (resolveEach schema now type children).map .all
  | .or children => (resolveEach schema now type children).map .any
  | .leaf name operator argument =>
    match type.field? name with
    | some field => fieldPredicate now type field operator argument
    | none =>
      match type.relationship? name with
      | some relationship =>
        relationshipPredicate relationship operator
          (resolveArgument schema now relationship argument)
      | none => .error (.unknownField name)

def resolveEach (schema : Schema) (now : Timestamp) (type : EntityType) :
    List Node → Except FilterError (List Predicate)
  | [] => .ok []
  | node :: rest => do
    let predicate ← resolve schema now type node
    let predicates ← resolveEach schema now type rest
    .ok (predicate :: predicates)

/-- Resolves the argument of a relationship operator against the target type. -/
def resolveArgument (schema : Schema) (now : Timestamp) (relationship : Relationship) :
    Argument → Except FilterError Predicate
  | .filter node =>
    match schema.type? relationship.target with
    | some target => resolve schema now target node
    | none => .error (.unknownField relationship.name)
  | _ => .error .comparisonToNull

end

/-- The condition that all of some filters hold. -/
def resolveAll (schema : Schema) (now : Timestamp) (type : EntityType) (nodes : List Node) :
    Except FilterError Predicate :=
  (resolveEach schema now type nodes).map Predicate.allOf

end ResourceServer.Filter
