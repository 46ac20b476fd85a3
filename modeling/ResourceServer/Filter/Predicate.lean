import ResourceServer.Filter.Operator
import ResourceServer.Value
/-! Filters resolved against an entity type: conditions on the fields and links of a resource. -/

namespace ResourceServer.Filter

inductive Operand
  | value (value : Value)
  | field (name : String)
  deriving DecidableEq

inductive Predicate
  | all (predicates : List Predicate)
  | any (predicates : List Predicate)
  | not (predicate : Predicate)
  | compare (field : String) (comparison : Comparison) (right : Operand)
  | oneOf (field : String) (values : List Value)
  | like (field pattern : String) (ignoreCase : Bool)
  | isNull (field : String)
  | search (field query : String) (plain : Bool)
  | related (relationship : String) (predicate : Predicate)

namespace Predicate

/-- The condition that always holds. -/
def always : Predicate := .all []

/-- All of some conditions; a single one stands for itself. -/
def allOf : List Predicate → Predicate
  | [predicate] => predicate
  | predicates => .all predicates

/-- Some resource is linked. -/
def linked (relationship : String) : Predicate := .related relationship always

end Predicate

end ResourceServer.Filter
