import ResourceServer.Filter.Resolution
import ResourceServer.Proofs.Results

/-! What accepted filters give their operators. Everything that a client writes is used, except for what is given to
an operator that takes nothing. -/

namespace ResourceServer.Filter

open ResourceServer.Calendar

/-- Every operator of a filter on a type has what its arity asks for: nothing, a value or another field of the type,
or a filter that can be resolved for the related type. -/
inductive Node.RespectsArity (schema : Schema) (now : Timestamp) : EntityType → Node → Prop
  | and {type : EntityType} {children : List Node} (each : ∀ node ∈ children, RespectsArity schema now type node) :
      RespectsArity schema now type (.and children)
  | or {type : EntityType} {children : List Node} (each : ∀ node ∈ children, RespectsArity schema now type node) :
      RespectsArity schema now type (.or children)
  | nothing {type : EntityType} {name : String} {operator : Operator} (arity : operator.arity = .unary) :
      RespectsArity schema now type (.leaf name operator .none)
  | literal {type : EntityType} {name : String} {operator : Operator} {json : Json}
      (arity : operator.arity = .binary) (given : json ≠ .null) :
      RespectsArity schema now type (.leaf name operator (.value json))
  | sibling {type : EntityType} {name other : String} {field : Field} {operator : Operator}
      (arity : operator.arity = .binary) (known : type.field? other = some field) :
      RespectsArity schema now type (.leaf name operator (.field other))
  | related {type target : EntityType} {name : String} {operator : Operator} {relationship : Relationship}
      {node : Node} {predicate : Predicate} (arity : operator.arity = .relation)
      (own : type.relationship? name = some relationship) (known : schema.type? relationship.target = some target)
      (resolved : resolve schema now target node = .ok predicate) (inner : RespectsArity schema now target node) :
      RespectsArity schema now type (.leaf name operator (.filter node))

mutual

/-- A filter without what is given to operators that take nothing. -/
def Node.essential : Node → Node
  | .and children => .and (Node.essentials children)
  | .or children => .or (Node.essentials children)
  | .leaf name operator argument =>
    .leaf name operator (if operator.arity = .unary then .none else argument.essential)

def Node.essentials : List Node → List Node
  | [] => []
  | node :: rest => node.essential :: Node.essentials rest

def Argument.essential : Argument → Argument
  | .filter node => .filter node.essential
  | argument => argument

end

section

variable {now : Timestamp} {type : EntityType} {field : Field} {operator : Operator} {argument : Argument}
  {predicate : Predicate}

theorem Operator.arity_binary {operator : Operator} (notNull : operator ≠ .isNull) (notNotNull : operator ≠ .isNotNull)
    (notHas : operator ≠ .has) (notAny : operator ≠ .any) : operator.arity = .binary := by
  cases operator <;> first | rfl | contradiction

theorem valuePredicate_given {json : Json} (resolved : valuePredicate now field operator json = .ok predicate) :
    json ≠ .null := by
  rintro rfl
  unfold valuePredicate at resolved
  split at resolved <;> cases resolved

theorem fieldPredicate_takes (resolved : fieldPredicate now type field operator argument = .ok predicate) :
    operator.arity = .unary ∨ operator.arity = .binary ∧
      ((∃ json, argument = .value json ∧ json ≠ .null) ∨
        ∃ other sibling, argument = .field other ∧ type.field? other = some sibling) := by
  unfold fieldPredicate at resolved
  split at resolved
  · exact .inl rfl
  · exact .inl rfl
  · cases resolved
  · cases resolved
  · cases resolved
  · cases resolved
  · rename_i other notNull notNotNull notHas notAny
    split at resolved
    · cases resolved
    · rename_i present
      obtain ⟨sibling, known⟩ := Option.ne_none_iff_exists'.mp fun absent =>
        present (Option.isNone_iff_eq_none.mpr absent)
      exact .inr ⟨Operator.arity_binary notNull notNotNull notHas notAny, .inr ⟨other, sibling, rfl, known⟩⟩
  · rename_i json notNull notNotNull notHas notAny
    exact .inr ⟨Operator.arity_binary notNull notNotNull notHas notAny,
      .inl ⟨json, rfl, valuePredicate_given resolved⟩⟩

theorem fieldPredicate_unary (arity : operator.arity = .unary) (argument other : Argument) :
    fieldPredicate now type field operator argument = fieldPredicate now type field operator other := by
  cases operator <;> first | rfl | cases arity

section

variable {relationship : Relationship} {nested : Except FilterError Predicate}

theorem relationshipPredicate_takes (resolved : relationshipPredicate relationship operator nested = .ok predicate) :
    operator.arity = .unary ∨ operator.arity = .relation ∧ ∃ inner, nested = .ok inner := by
  unfold relationshipPredicate at resolved
  dsimp only at resolved
  split at resolved
  · exact .inl rfl
  · exact .inl rfl
  · split at resolved
    · cases resolved
    · obtain ⟨inner, here, _⟩ := map_ok resolved
      exact .inr ⟨rfl, inner, here⟩
  · split at resolved
    · obtain ⟨inner, here, _⟩ := map_ok resolved
      exact .inr ⟨rfl, inner, here⟩
    · cases resolved
  · cases resolved

theorem relationshipPredicate_unary (arity : operator.arity = .unary) (nested other : Except FilterError Predicate) :
    relationshipPredicate relationship operator nested = relationshipPredicate relationship operator other := by
  cases operator <;> first | rfl | cases arity

end

end

section

variable {schema : Schema} {now : Timestamp}

mutual

theorem resolve_essential {type : EntityType} : ∀ (node : Node) {predicate : Predicate},
    resolve schema now type node = .ok predicate →
      resolve schema now type node.essential = .ok predicate ∧ node.essential.RespectsArity schema now type
  | .and children, _, resolved => by
      rw [resolve] at resolved
      obtain ⟨predicates, each, rfl⟩ := map_ok resolved
      obtain ⟨same, respect⟩ := resolveEach_essential children each
      rw [Node.essential, resolve, same]
      exact ⟨rfl, .and respect⟩
  | .or children, _, resolved => by
      rw [resolve] at resolved
      obtain ⟨predicates, each, rfl⟩ := map_ok resolved
      obtain ⟨same, respect⟩ := resolveEach_essential children each
      rw [Node.essential, resolve, same]
      exact ⟨rfl, .or respect⟩
  | .leaf name operator argument, predicate, resolved => by
      rw [resolve] at resolved
      rw [Node.essential, resolve]
      cases named : type.field? name with
      | some field =>
          rw [named] at resolved
          dsimp only at resolved ⊢
          rcases fieldPredicate_takes resolved with arity | ⟨arity, ⟨json, rfl, given⟩ | ⟨other, sibling, rfl, known⟩⟩
          · rw [if_pos arity, fieldPredicate_unary arity _ argument]
            exact ⟨resolved, .nothing arity⟩
          · rw [if_neg (by rw [arity]; decide), Argument.essential]
            · exact ⟨resolved, .literal arity given⟩
            · nofun
          · rw [if_neg (by rw [arity]; decide), Argument.essential]
            · exact ⟨resolved, .sibling arity known⟩
            · nofun
      | none =>
          rw [named] at resolved
          dsimp only at resolved ⊢
          cases own : type.relationship? name with
          | none =>
              rw [own] at resolved
              cases resolved
          | some relationship =>
              rw [own] at resolved
              dsimp only at resolved ⊢
              rcases relationshipPredicate_takes resolved with arity | ⟨arity, inner, here⟩
              · rw [if_pos arity, relationshipPredicate_unary arity _ (resolveArgument schema now relationship argument)]
                exact ⟨resolved, .nothing arity⟩
              · obtain ⟨same, node, target, essential, known, resolved', respects⟩ :=
                  resolveArgument_essential argument here
                rw [if_neg (by rw [arity]; decide), same, ← here]
                refine ⟨resolved, ?_⟩
                rw [essential]
                exact .related arity own known resolved' respects

theorem resolveEach_essential {type : EntityType} : ∀ (nodes : List Node) {predicates : List Predicate},
    resolveEach schema now type nodes = .ok predicates →
      resolveEach schema now type (Node.essentials nodes) = .ok predicates ∧
        ∀ node ∈ Node.essentials nodes, node.RespectsArity schema now type
  | [], _, resolved => ⟨resolved, nofun⟩
  | node :: rest, _, resolved => by
      rw [resolveEach] at resolved
      obtain ⟨predicate, one, resolved⟩ := bind_ok resolved
      obtain ⟨predicates, others, same⟩ := bind_ok resolved
      cases same
      obtain ⟨one', respects⟩ := resolve_essential node one
      obtain ⟨others', respect⟩ := resolveEach_essential rest others
      rw [Node.essentials, resolveEach, one', others']
      exact ⟨rfl, List.forall_mem_cons.mpr ⟨respects, respect⟩⟩

theorem resolveArgument_essential {relationship : Relationship} : ∀ (argument : Argument) {predicate : Predicate},
    resolveArgument schema now relationship argument = .ok predicate →
      resolveArgument schema now relationship argument.essential = .ok predicate ∧ ∃ node target,
        argument.essential = .filter node ∧ schema.type? relationship.target = some target ∧
          resolve schema now target node = .ok predicate ∧ node.RespectsArity schema now target
  | .filter node, _, resolved => by
      rw [resolveArgument] at resolved
      rw [Argument.essential, resolveArgument]
      cases known : schema.type? relationship.target with
      | none =>
          rw [known] at resolved
          cases resolved
      | some target =>
          rw [known] at resolved
          obtain ⟨same, respects⟩ := resolve_essential node resolved
          exact ⟨same, node.essential, target, rfl, rfl, same, respects⟩
  | .none, _, resolved => nomatch resolved
  | .value _, _, resolved => nomatch resolved
  | .field _, _, resolved => nomatch resolved

end

mutual

theorem Node.RespectsArity.essential_eq {type : EntityType} : ∀ {node : Node}, node.RespectsArity schema now type →
    node.essential = node
  | .and children, .and each => congrArg Node.and (Node.essentials_eq children each)
  | .or children, .or each => congrArg Node.or (Node.essentials_eq children each)
  | .leaf name operator .none, .nothing arity => by rw [Node.essential, if_pos arity]
  | .leaf name operator (.value json), .literal arity _ => by
      rw [Node.essential, if_neg (by rw [arity]; decide), Argument.essential]
      nofun
  | .leaf name operator (.field other), .sibling arity _ => by
      rw [Node.essential, if_neg (by rw [arity]; decide), Argument.essential]
      nofun
  | .leaf name operator (.filter node), .related arity _ _ _ inner => by
      rw [Node.essential, if_neg (by rw [arity]; decide), Argument.essential,
        Node.RespectsArity.essential_eq inner]

theorem Node.essentials_eq {type : EntityType} : ∀ (nodes : List Node),
    (∀ node ∈ nodes, node.RespectsArity schema now type) → Node.essentials nodes = nodes
  | [], _ => rfl
  | node :: rest, each => by
      obtain ⟨first, later⟩ := List.forall_mem_cons.mp each
      rw [Node.essentials, Node.RespectsArity.essential_eq first, Node.essentials_eq rest later]

end

/-- A filter that is read and resolved stands for the same condition without what it gives to operators that take
nothing, and so it respects all arities. As it is written it does so exactly if there is no such thing in it. -/
theorem accepted_filter_arity {type : EntityType} {json : Json} {predicate : Predicate}
    (accepted : (Node.parse json >>= resolve schema now type) = .ok predicate) :
    ∃ node, Node.parse json = .ok node ∧ resolve schema now type node.essential = .ok predicate ∧
      node.essential.RespectsArity schema now type ∧ (node.RespectsArity schema now type ↔ node.essential = node) := by
  obtain ⟨node, parsed, resolved⟩ := bind_ok accepted
  obtain ⟨same, respects⟩ := resolve_essential node resolved
  exact ⟨node, parsed, same, respects, Node.RespectsArity.essential_eq, fun whole => whole ▸ respects⟩

end

/-! People, whose ages may not be known. -/

namespace People

def person : EntityType :=
  ⟨"person", none, ⟨"id", .string, false⟩, [⟨"age", .integer, false⟩],
    [⟨"parent", .toOne, "person", true, .ownerKey "parent_id"⟩], []⟩

def schema : Schema := ⟨[person]⟩

def now : Timestamp := ⟨⟨2024, 1, 1, by decide⟩, Time.midnight⟩

def ageUnknown (value : List (String × Json)) : Json :=
  .object [("name", .string "parent"), ("op", .string "has"),
    ("val", .object ([("name", .string "age"), ("op", .string "is_null")] ++ value))]

end People

theorem unknown_age_respects_arity : ∃ node, Node.parse (People.ageUnknown []) = .ok node ∧
    node.RespectsArity People.schema People.now People.person := by
  have accepted : (Node.parse (People.ageUnknown []) >>= resolve People.schema People.now People.person) =
      .ok (.related "parent" (.isNull "age")) := rfl
  obtain ⟨node, parsed, _, _, respects⟩ := accepted_filter_arity accepted
  cases parsed.symm.trans (rfl : _ = Except.ok (Node.leaf "parent" .has (.filter (.leaf "age" .isNull .none))))
  exact ⟨_, parsed, respects.mpr rfl⟩

/-- A value for an operator that takes nothing is accepted. -/
theorem value_of_unary_accepted : ∃ node, Node.parse (People.ageUnknown [("val", .integer 5)]) = .ok node ∧
    resolve People.schema People.now People.person node = .ok (.related "parent" (.isNull "age")) ∧
    ¬node.RespectsArity People.schema People.now People.person := by
  refine ⟨.leaf "parent" .has (.filter (.leaf "age" .isNull (.value (.integer 5)))), rfl, rfl, fun respects => ?_⟩
  cases respects with
  | related _ _ _ _ inner =>
      cases inner with
      | literal arity _ => cases arity

end ResourceServer.Filter
