/-! The operators of filters. -/

namespace ResourceServer.Filter

inductive Comparison
  | eq | ne | gt | lt | ge | le
  deriving DecidableEq

namespace Comparison

def symbol : Comparison → String
  | .eq => "="
  | .ne => "!="
  | .gt => ">"
  | .lt => "<"
  | .ge => ">="
  | .le => "<="

end Comparison

/-- What an operator takes besides the member it applies to: nothing, a value or field, or a filter on the
related resources. -/
inductive Arity
  | unary
  | binary
  | relation
  deriving DecidableEq

namespace Arity

def name : Arity → String
  | .unary => "unary"
  | .binary => "binary"
  | .relation => "relation"

end Arity

inductive Operator
  | compare (comparison : Comparison)
  | like
  | ilike
  | notLike
  | isIn
  | notIn
  | isNull
  | isNotNull
  | search
  | plainSearch
  | has
  | any
  deriving DecidableEq

namespace Operator

def name : Operator → String
  | .compare .eq => "eq"
  | .compare .ne => "ne"
  | .compare .gt => "gt"
  | .compare .lt => "lt"
  | .compare .ge => "ge"
  | .compare .le => "le"
  | .like => "like"
  | .ilike => "ilike"
  | .notLike => "not_like"
  | .isIn => "in"
  | .notIn => "not_in"
  | .isNull => "is_null"
  | .isNotNull => "is_not_null"
  | .search => "to_tsquery"
  | .plainSearch => "plainto_tsquery"
  | .has => "has"
  | .any => "any"

def arity : Operator → Arity
  | .isNull | .isNotNull => .unary
  | .has | .any => .relation
  | _ => .binary

/-- Every spelling of every operator. -/
def spellings : List (String × Operator) :=
  [("==", .compare .eq), ("eq", .compare .eq), ("equals", .compare .eq), ("equal_to", .compare .eq),
    ("!=", .compare .ne), ("ne", .compare .ne), ("neq", .compare .ne),
    ("not_equal_to", .compare .ne), ("does_not_equal", .compare .ne), ("<>", .compare .ne),
    (">", .compare .gt), ("gt", .compare .gt), ("<", .compare .lt), ("lt", .compare .lt),
    (">=", .compare .ge), ("ge", .compare .ge), ("gte", .compare .ge), ("geq", .compare .ge),
    ("<=", .compare .le), ("le", .compare .le), ("lte", .compare .le), ("leq", .compare .le),
    ("like", .like), ("ilike", .ilike), ("not_like", .notLike), ("in", .isIn), ("not_in", .notIn),
    ("is_null", .isNull), ("is_not_null", .isNotNull), ("to_tsquery", .search),
    ("plainto_tsquery", .plainSearch), ("has", .has), ("any", .any)]

def read? (text : String) : Option Operator :=
  spellings.lookup text

end Operator

end ResourceServer.Filter
