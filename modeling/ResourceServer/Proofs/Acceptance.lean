import ResourceServer.Filter.Resolution
import ResourceServer.Proofs.References
import ResourceServer.Proofs.Subqueries

/-! What the filters that are accepted for a type stand for. -/

namespace ResourceServer

open ResourceServer.Store ResourceServer.Mapping
open ResourceServer.Filter

/-- Predicates on members that a type has, whatever the types of the members. -/
inductive Filter.Predicate.Accepted (schema : Schema) : EntityType → Predicate → Prop
  | all {type : EntityType} {predicates : List Predicate}
      (each : ∀ predicate ∈ predicates, Accepted schema type predicate) :
      Accepted schema type (.all predicates)
  | any {type : EntityType} {predicates : List Predicate}
      (each : ∀ predicate ∈ predicates, Accepted schema type predicate) :
      Accepted schema type (.any predicates)
  | not {type : EntityType} {predicate : Predicate} (inner : Accepted schema type predicate) :
      Accepted schema type (.not predicate)
  | compareValue {type : EntityType} {name : String} {field : Field} (comparison : Comparison)
      (value : Value) (known : type.field? name = some field) :
      Accepted schema type (.compare name comparison (.value value))
  | compareField {type : EntityType} {name other : String} {field field' : Field}
      (comparison : Comparison) (known : type.field? name = some field)
      (known' : type.field? other = some field') :
      Accepted schema type (.compare name comparison (.field other))
  | oneOf {type : EntityType} {name : String} {field : Field} (values : List Value)
      (known : type.field? name = some field) : Accepted schema type (.oneOf name values)
  | like {type : EntityType} {name : String} {field : Field} (pattern : String) (ignoreCase : Bool)
      (known : type.field? name = some field) : Accepted schema type (.like name pattern ignoreCase)
  | isNull {type : EntityType} {name : String} {field : Field}
      (known : type.field? name = some field) : Accepted schema type (.isNull name)
  | search {type : EntityType} {name : String} {field : Field} (query : String) (plain : Bool)
      (known : type.field? name = some field) : Accepted schema type (.search name query plain)
  | related {type target : EntityType} {name : String} {relationship : Relationship}
      {predicate : Predicate}
      (found : Mapping.findRelationship schema type name = .ok (relationship, target))
      (inner : Accepted schema target predicate) : Accepted schema type (.related name predicate)

/-- Somewhere in a predicate a pattern or a search applies to a field that does not hold text. -/
inductive Filter.Predicate.Strained (schema : Schema) : EntityType → Predicate → Prop
  | all {type : EntityType} {predicates : List Predicate} {predicate : Predicate}
      (member : predicate ∈ predicates) (inner : Strained schema type predicate) :
      Strained schema type (.all predicates)
  | any {type : EntityType} {predicates : List Predicate} {predicate : Predicate}
      (member : predicate ∈ predicates) (inner : Strained schema type predicate) :
      Strained schema type (.any predicates)
  | not {type : EntityType} {predicate : Predicate} (inner : Strained schema type predicate) :
      Strained schema type (.not predicate)
  | like {type : EntityType} {name : String} {field : Field} {pattern : String} {ignoreCase : Bool}
      (known : type.field? name = some field) (other : columnType field.type ≠ .text) :
      Strained schema type (.like name pattern ignoreCase)
  | search {type : EntityType} {name : String} {field : Field} {query : String} {plain : Bool}
      (known : type.field? name = some field) (other : columnType field.type ≠ .text) :
      Strained schema type (.search name query plain)
  | related {type target : EntityType} {name : String} {relationship : Relationship}
      {predicate : Predicate}
      (found : Mapping.findRelationship schema type name = .ok (relationship, target))
      (inner : Strained schema target predicate) : Strained schema type (.related name predicate)

inductive Filter.Node.Gives (json : Json) : Node → Prop
  | and {children : List Node} {node : Node} (member : node ∈ children) (inner : Gives json node) :
      Gives json (.and children)
  | or {children : List Node} {node : Node} (member : node ∈ children) (inner : Gives json node) :
      Gives json (.or children)
  | value {name : String} {operator : Operator} : Gives json (.leaf name operator (.value json))
  | item {name : String} {operator : Operator} {items : List Json} (member : json ∈ items) :
      Gives json (.leaf name operator (.value (.array items)))
  | nested {name : String} {operator : Operator} {node : Node} (inner : Gives json node) :
      Gives json (.leaf name operator (.filter node))

/-- A property of predicates that all filters lead to which give JSON values of some kind. -/
structure Leading (schema : Schema) (now : Calendar.Timestamp) (given : Json → Prop)
    (holds : EntityType → Predicate → Prop) : Prop where
  all {type : EntityType} {predicates : List Predicate}
    (each : ∀ predicate ∈ predicates, holds type predicate) : holds type (.all predicates)
  any {type : EntityType} {predicates : List Predicate}
    (each : ∀ predicate ∈ predicates, holds type predicate) : holds type (.any predicates)
  not {type : EntityType} {predicate : Predicate} (inner : holds type predicate) :
    holds type (.not predicate)
  compareValue {type : EntityType} {field : Field} (comparison : Comparison) {json : Json}
    {value : Value} (known : type.field? field.name = some field) (fit : given json)
    (read : literal now field json = .ok value) :
    holds type (.compare field.name comparison (.value value))
  compareField {type : EntityType} {name other : String} {field field' : Field}
    (comparison : Comparison) (known : type.field? name = some field)
    (known' : type.field? other = some field') : holds type (.compare name comparison (.field other))
  oneOf {type : EntityType} {field : Field} {values : List Value}
    (known : type.field? field.name = some field)
    (read : ∀ value ∈ values, ∃ json, given json ∧ literal now field json = .ok value) :
    holds type (.oneOf field.name values)
  like {type : EntityType} {name : String} {field : Field} (pattern : String) (ignoreCase : Bool)
    (known : type.field? name = some field) : holds type (.like name pattern ignoreCase)
  isNull {type : EntityType} {name : String} {field : Field} (known : type.field? name = some field) :
    holds type (.isNull name)
  search {type : EntityType} {name : String} {field : Field} (query : String) (plain : Bool)
    (known : type.field? name = some field) : holds type (.search name query plain)
  related {type target : EntityType} {name : String} {relationship : Relationship}
    {predicate : Predicate}
    (found : Mapping.findRelationship schema type name = .ok (relationship, target))
    (inner : holds target predicate) : holds type (.related name predicate)

namespace Leading

variable {schema : Schema} {now : Calendar.Timestamp} {given : Json → Prop}
  {holds : EntityType → Predicate → Prop}

section

variable {type : EntityType} (leading : Leading schema now given holds)
include leading

theorem always : holds type Predicate.always :=
  leading.all nofun

theorem allOf {predicates : List Predicate} (each : ∀ predicate ∈ predicates, holds type predicate) :
    holds type (Predicate.allOf predicates) := by
  unfold Predicate.allOf
  split
  · exact each _ List.mem_cons_self
  · exact leading.all each

theorem values {field : Field} {items : List Json} {values : List Value}
    (known : type.field? field.name = some field) (fit : ∀ json ∈ items, given json)
    (run : items.mapM (literal now field) = .ok values) : holds type (.oneOf field.name values) := by
  refine leading.oneOf known fun value member => ?_
  obtain ⟨json, inside, read⟩ := mem_of_forall₂ (mapM_forall₂ run).flip member
  exact ⟨json, fit json inside, read⟩

theorem valuePredicate {field : Field} {operator : Operator} {json : Json} {predicate : Predicate}
    (known : type.field? field.name = some field)
    (fit : ∀ other, (Node.leaf field.name operator (.value json)).Gives other → given other)
    (run : Filter.valuePredicate now field operator json = .ok predicate) : holds type predicate := by
  unfold Filter.valuePredicate at run
  split at run
  · obtain ⟨value, read, same⟩ := bind_ok run
    cases same
    exact leading.compareValue _ known (fit json .value) read
  · obtain ⟨text, _, same⟩ := bind_ok run
    cases same
    exact leading.like text false known
  · obtain ⟨text, _, same⟩ := bind_ok run
    cases same
    exact leading.like text true known
  · obtain ⟨text, _, same⟩ := bind_ok run
    cases same
    exact leading.not (leading.like text false known)
  · split at run
    · obtain ⟨values, read, same⟩ := bind_ok run
      cases same
      exact leading.values known (fun other member => fit other (.item member)) read
    · cases run
  · split at run
    · obtain ⟨values, read, same⟩ := bind_ok run
      cases same
      exact leading.not (leading.values known (fun other member => fit other (.item member)) read)
    · cases run
  · obtain ⟨text, _, same⟩ := bind_ok run
    cases same
    exact leading.search text false known
  · obtain ⟨text, _, same⟩ := bind_ok run
    cases same
    exact leading.search text true known
  · cases run

theorem fieldPredicate {field : Field} {operator : Operator} {argument : Argument}
    {predicate : Predicate} (known : type.field? field.name = some field)
    (fit : ∀ json, (Node.leaf field.name operator argument).Gives json → given json)
    (run : Filter.fieldPredicate now type field operator argument = .ok predicate) :
    holds type predicate := by
  unfold Filter.fieldPredicate at run
  split at run
  · cases run
    exact leading.isNull known
  · cases run
    exact leading.not (leading.isNull known)
  · cases run
  · cases run
  · cases run
  · cases run
  · rename_i other _ _ _ _
    split at run
    · cases run
    · rename_i present
      obtain ⟨field', known'⟩ := Option.ne_none_iff_exists'.mp fun none =>
        present (Option.isNone_iff_eq_none.mpr none)
      split at run
      · cases run
        exact leading.compareField _ known known'
      · cases run
  · exact leading.valuePredicate known fit run

theorem relationshipPredicate {relationship : Relationship} {operator : Operator}
    {nested : Except FilterError Predicate} {predicate : Predicate} {target : EntityType}
    (found : Mapping.findRelationship schema type relationship.name = .ok (relationship, target))
    (inner : ∀ predicate, nested = .ok predicate → holds target predicate)
    (run : Filter.relationshipPredicate relationship operator nested = .ok predicate) :
    holds type predicate := by
  have within : ∀ {run : Predicate}, nested.map (.related relationship.name) = .ok run →
      holds type run := by
    intro run same
    obtain ⟨predicate, here, rfl⟩ := map_ok same
    exact leading.related found (inner predicate here)
  unfold Filter.relationshipPredicate at run
  dsimp only at run
  split at run
  · cases run
    exact leading.not (leading.related found leading.always)
  · cases run
    exact leading.related found leading.always
  · split at run
    · cases run
    · exact within run
  · split at run
    · exact within run
    · cases run
  · cases run

end

mutual

theorem resolve (leading : Leading schema now given holds) (formed : schema.Formed)
    {type : EntityType} (known : type ∈ schema.types) :
    ∀ (node : Node), (∀ json, node.Gives json → given json) → ∀ {predicate : Predicate},
      Filter.resolve schema now type node = .ok predicate → holds type predicate
  | .and children, fit, _, run => by
      rw [Filter.resolve] at run
      obtain ⟨predicates, each, rfl⟩ := map_ok run
      exact leading.all (resolveEach leading formed known children
        (fun node member json gives => fit json (.and member gives)) each)
  | .or children, fit, _, run => by
      rw [Filter.resolve] at run
      obtain ⟨predicates, each, rfl⟩ := map_ok run
      exact leading.any (resolveEach leading formed known children
        (fun node member json gives => fit json (.or member gives)) each)
  | .leaf name operator argument, fit, _, run => by
      rw [Filter.resolve] at run
      split at run
      · rename_i field named
        obtain rfl := (field_known named).2
        exact leading.fieldPredicate named fit run
      · split at run
        · rename_i relationship named
          have own := List.mem_of_find?_eq_some named
          obtain ⟨target, known', reached, found⟩ := formed.findRelationship known own
          refine leading.relationshipPredicate found (fun predicate nested => ?_) run
          exact resolveArgument leading formed known' reached argument fit nested
        · cases run

theorem resolveEach (leading : Leading schema now given holds) (formed : schema.Formed)
    {type : EntityType} (known : type ∈ schema.types) :
    ∀ (nodes : List Node), (∀ node ∈ nodes, ∀ json, node.Gives json → given json) →
      ∀ {predicates : List Predicate}, Filter.resolveEach schema now type nodes = .ok predicates →
        ∀ predicate ∈ predicates, holds type predicate
  | [], _, _, run => by
      cases run
      nofun
  | node :: rest, fit, _, run => by
      rw [Filter.resolveEach] at run
      obtain ⟨predicate, one, run⟩ := bind_ok run
      obtain ⟨predicates, others, same⟩ := bind_ok run
      cases same
      obtain ⟨first, later⟩ := List.forall_mem_cons.mp fit
      exact List.forall_mem_cons.mpr ⟨resolve leading formed known node first one,
        resolveEach leading formed known rest later others⟩

theorem resolveArgument (leading : Leading schema now given holds) (formed : schema.Formed)
    {relationship : Relationship} {target : EntityType} (known : target ∈ schema.types)
    (reached : schema.type? relationship.target = some target) {name : String}
    {operator : Operator} :
    ∀ (argument : Argument), (∀ json, (Node.leaf name operator argument).Gives json → given json) →
      ∀ {predicate : Predicate},
        Filter.resolveArgument schema now relationship argument = .ok predicate →
          holds target predicate
  | .filter node, fit, _, run => by
      rw [Filter.resolveArgument, reached] at run
      exact resolve leading formed known node (fun json gives => fit json (.nested gives)) run
  | .none, _, _, run => nomatch run
  | .value _, _, _, run => nomatch run
  | .field _, _, _, run => nomatch run

end

theorem resolveAll (leading : Leading schema now given holds) (formed : schema.Formed)
    {type : EntityType} (known : type ∈ schema.types) {nodes : List Node} {predicate : Predicate}
    (fit : ∀ node ∈ nodes, ∀ json, node.Gives json → given json)
    (run : Filter.resolveAll schema now type nodes = .ok predicate) : holds type predicate := by
  obtain ⟨predicates, each, rfl⟩ := map_ok run
  exact leading.allOf (leading.resolveEach formed known nodes fit each)

end Leading

section

variable {schema : Schema} {now : Calendar.Timestamp}

theorem accepted_leading : Leading schema now (fun _ => True) (Predicate.Accepted schema) where
  all := .all
  any := .any
  not := .not
  compareValue comparison _ value known _ _ := .compareValue comparison value known
  compareField comparison known known' := .compareField comparison known known'
  oneOf known _ := .oneOf _ known
  like pattern ignoreCase known := .like pattern ignoreCase known
  isNull known := .isNull known
  search query plain known := .search query plain known
  related found inner := .related found inner

/-- The condition that accepted filters stand for is one on members of the type. -/
theorem resolveAll_accepted (formed : schema.Formed) {type : EntityType}
    (known : type ∈ schema.types) {nodes : List Node} {predicate : Predicate}
    (run : resolveAll schema now type nodes = .ok predicate) : predicate.Accepted schema type :=
  accepted_leading.resolveAll formed known (fun _ _ _ _ => trivial) run

end

end ResourceServer
