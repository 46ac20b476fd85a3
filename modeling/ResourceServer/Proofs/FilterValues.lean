import ResourceServer.Filter.Resolution
import ResourceServer.Proofs.Acceptance
import ResourceServer.Proofs.Spelling

/-! The values that filters compare fields with are values of the types of those fields. -/

namespace ResourceServer

open ResourceServer.Store ResourceServer.Mapping
open ResourceServer.Filter

theorem FieldType.holds_of_kind {type : FieldType} {value : Value}
    (kind : (cellOf value).type? = some (columnType type)) (number : value ≠ .decimal .nan) :
    type.Holds value := by
  cases value with
  | null => cases kind
  | decimal value =>
      have given : value ≠ .nan := fun none => number (congrArg Value.decimal none)
      cases type with
      | decimal => exact ⟨decide_eq_true given, nofun⟩
      | _ => cases kind
  | _ => cases type <;> first | exact ⟨rfl, nofun⟩ | cases kind

theorem FieldType.ofJson_held {type : FieldType} {json : Json} {value : Value}
    (read : type.ofJson? json = some value) (given : json ≠ .null) (number : json ≠ .decimal .nan) :
    type.Holds value := by
  have spelled {kind : FieldType} {text : String} (other : kind ≠ .decimal)
      (read : kind.read? text = some value) : kind.Holds value := by
    have stored := (FieldType.read_stored read).1
    refine FieldType.holds_of_kind stored ?_
    rintro rfl
    cases kind <;> first | exact other rfl | cases stored
  unfold FieldType.ofJson? at read
  split at read
  · exact absurd rfl given
  · cases read
    exact ⟨rfl, nofun⟩
  · cases read
    exact ⟨rfl, nofun⟩
  · obtain ⟨whole, _, rfl⟩ := Option.map_eq_some_iff.mp read
    exact ⟨rfl, nofun⟩
  · obtain ⟨decimal, found, rfl⟩ := Option.map_eq_some_iff.mp read
    refine FieldType.holds_of_kind rfl ?_
    rintro ⟨⟩
    cases json with
    | decimal value =>
        cases found
        exact number rfl
    | _ => cases found
  · obtain ⟨duration, _, rfl⟩ := Option.map_eq_some_iff.mp read
    exact ⟨rfl, nofun⟩
  · exact spelled nofun read
  · exact spelled nofun read
  · exact spelled nofun read
  · exact spelled nofun read
  · cases read

theorem currentValue_held {now : Calendar.Timestamp} {type : FieldType} {word : String} {value : Value}
    (current : currentValue? now type word = some value) : type.Holds value := by
  unfold currentValue? at current
  split at current
  · split at current
    · cases current
      exact ⟨rfl, nofun⟩
    · cases current
  · split at current
    · cases current
      exact ⟨rfl, nofun⟩
    · split at current
      · cases current
        exact ⟨rfl, nofun⟩
      · cases current
  · split at current
    · cases current
      exact ⟨rfl, nofun⟩
    · cases current
  · cases current

theorem literal_held {now : Calendar.Timestamp} {field : Field} {json : Json} {value : Value}
    (number : json ≠ .decimal .nan) (read : literal now field json = .ok value) :
    field.type.Holds value := by
  unfold literal at read
  split at read
  · cases read
  · rename_i given
    dsimp only at read
    split at read
    · rename_i found
      cases read
      cases current : json.string?.bind (currentValue? now field.type) with
      | some value' =>
          rw [current] at found
          cases found
          obtain ⟨word, _, current⟩ := Option.bind_eq_some_iff.mp current
          exact currentValue_held current
      | none =>
          rw [current] at found
          exact FieldType.ofJson_held found given number
    · cases read

section

variable {schema : Schema} {now : Calendar.Timestamp}

theorem resolved_leading : Leading schema now (· ≠ .decimal .nan) fun type predicate =>
    ¬predicate.Strained schema type → predicate.Resolved schema type where
  all each plain := .all fun predicate member =>
    each predicate member fun strained => plain (.all member strained)
  any each plain := .any fun predicate member =>
    each predicate member fun strained => plain (.any member strained)
  not inner plain := .not (inner fun strained => plain (.not strained))
  compareValue comparison _ _ known fit read _ := .compareValue comparison known (literal_held fit read)
  compareField comparison known known' _ := .compareField comparison known known'
  oneOf known read _ := by
    refine .oneOf known fun value member => ?_
    obtain ⟨json, fit, read⟩ := read value member
    exact literal_held fit read
  like pattern ignoreCase known plain :=
    .like pattern ignoreCase known (not_not.mp fun other => plain (.like known other))
  isNull known _ := .isNull known
  search query bare known plain :=
    .search query bare known (not_not.mp fun other => plain (.search known other))
  related found inner plain := .related found (inner fun strained => plain (.related found strained))

/-- Accepted filters with patterns and searches on text only stand for a condition on members of the type, with
literals of the types of their fields. -/
theorem resolveAll_resolved (formed : schema.Formed) {type : EntityType} (known : type ∈ schema.types)
    {nodes : List Node} {predicate : Predicate}
    (numbers : ∀ node ∈ nodes, ¬node.Gives (.decimal .nan))
    (run : resolveAll schema now type nodes = .ok predicate)
    (plain : ¬predicate.Strained schema type) : predicate.Resolved schema type := by
  refine resolved_leading.resolveAll formed known (fun node member json gives => ?_) run plain
  rintro rfl
  exact numbers node member gives

end

end ResourceServer

/-! Filters that do not name the present moment stand for the same at all times. -/

namespace ResourceServer.Filter

open ResourceServer.Calendar

def IsMoment (field : Field) (json : Json) : Prop :=
  ∃ now, json.string?.bind (currentValue? now field.type) ≠ none

/-- Somewhere in a filter on a type a field is compared with the present moment. -/
inductive Node.NamesMoment (schema : Schema) : EntityType → Node → Prop
  | and {type : EntityType} {children : List Node} {node : Node} (member : node ∈ children)
      (inner : NamesMoment schema type node) : NamesMoment schema type (.and children)
  | or {type : EntityType} {children : List Node} {node : Node} (member : node ∈ children)
      (inner : NamesMoment schema type node) : NamesMoment schema type (.or children)
  | value {type : EntityType} {name : String} {field : Field} {operator : Operator} {json : Json}
      (known : type.field? name = some field) (moment : IsMoment field json) :
      NamesMoment schema type (.leaf name operator (.value json))
  | item {type : EntityType} {name : String} {field : Field} {operator : Operator} {items : List Json}
      {json : Json} (known : type.field? name = some field) (member : json ∈ items)
      (moment : IsMoment field json) : NamesMoment schema type (.leaf name operator (.value (.array items)))
  | nested {type target : EntityType} {name : String} {relationship : Relationship} {operator : Operator}
      {node : Node} (known : type.relationship? name = some relationship)
      (leads : schema.type? relationship.target = some target) (inner : NamesMoment schema target node) :
      NamesMoment schema type (.leaf name operator (.filter node))

variable {schema : Schema} (now later : Timestamp)

theorem literal_lasts {field : Field} {json : Json} (timeless : ¬IsMoment field json) :
    literal now field json = literal later field json := by
  have none (now : Timestamp) : json.string?.bind (currentValue? now field.type) = none :=
    Classical.byContradiction fun some => timeless ⟨now, some⟩
  cases json <;> simp only [literal, none]

theorem mapM_literal_lasts {field : Field} {items : List Json}
    (timeless : ∀ json ∈ items, ¬IsMoment field json) :
    items.mapM (literal now field) = items.mapM (literal later field) := by
  induction items with
  | nil => rfl
  | cons json rest ih =>
      rw [List.mapM_cons, List.mapM_cons, literal_lasts now later (timeless json List.mem_cons_self),
        ih fun other member => timeless other (List.mem_cons_of_mem _ member)]

theorem fieldPredicate_lasts {type : EntityType} {name : String} {field : Field} {operator : Operator}
    {argument : Argument} (known : type.field? name = some field)
    (timeless : ¬Node.NamesMoment schema type (.leaf name operator argument)) :
    fieldPredicate now type field operator argument = fieldPredicate later type field operator argument := by
  cases argument with
  | value json =>
      have plain : ¬IsMoment field json := fun moment => timeless (.value known moment)
      have same : valuePredicate now field operator json = valuePredicate later field operator json := by
        cases operator with
        | compare comparison => simp only [valuePredicate, literal_lasts now later plain]
        | isIn | notIn =>
            cases json with
            | array items =>
                simp only [valuePredicate, mapM_literal_lasts now later fun other member moment =>
                  timeless (.item known member moment)]
            | _ => rfl
        | _ => rfl
      cases operator <;> first | rfl | exact same
  | _ => cases operator <;> rfl

mutual

theorem resolve_lasts {type : EntityType} : ∀ {node : Node}, ¬node.NamesMoment schema type →
    resolve schema now type node = resolve schema later type node
  | .and children, timeless => by
      rw [resolve, resolve, resolveEach_lasts fun node member inner => timeless (.and member inner)]
  | .or children, timeless => by
      rw [resolve, resolve, resolveEach_lasts fun node member inner => timeless (.or member inner)]
  | .leaf name operator argument, timeless => by
      rw [resolve, resolve]
      cases field : type.field? name with
      | some field => exact fieldPredicate_lasts now later field timeless
      | none =>
          cases found : type.relationship? name with
          | none => rfl
          | some relationship =>
              refine congrArg (relationshipPredicate relationship operator) (resolveArgument_lasts ?_)
              rintro target node rfl leads inner
              exact timeless (.nested found leads inner)

theorem resolveArgument_lasts {relationship : Relationship} : ∀ {argument : Argument},
    (∀ target node, argument = .filter node → schema.type? relationship.target = some target →
      ¬node.NamesMoment schema target) →
      resolveArgument schema now relationship argument = resolveArgument schema later relationship argument
  | .filter node, timeless => by
      rw [resolveArgument, resolveArgument]
      cases leads : schema.type? relationship.target with
      | none => rfl
      | some target => exact resolve_lasts (timeless target node rfl leads)
  | .none, _ => rfl
  | .value _, _ => rfl
  | .field _, _ => rfl

theorem resolveEach_lasts {type : EntityType} : ∀ {nodes : List Node},
    (∀ node ∈ nodes, ¬node.NamesMoment schema type) →
      resolveEach schema now type nodes = resolveEach schema later type nodes
  | [], _ => rfl
  | node :: rest, timeless => by
      rw [resolveEach, resolveEach, resolve_lasts (timeless node List.mem_cons_self),
        resolveEach_lasts fun other member => timeless other (List.mem_cons_of_mem _ member)]

end

/-- Filters that do not name the present moment stand for the same condition at all times. -/
theorem resolveAll_lasts {type : EntityType} {nodes : List Node}
    (timeless : ∀ node ∈ nodes, ¬node.NamesMoment schema type) :
    resolveAll schema now type nodes = resolveAll schema later type nodes :=
  congrArg (Except.map Predicate.allOf) (resolveEach_lasts now later timeless)

end ResourceServer.Filter
