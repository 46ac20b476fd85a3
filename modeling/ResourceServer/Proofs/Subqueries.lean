import ResourceServer.Proofs.Joins

/-! The clauses that predicates compile to, and the rows of the subqueries among them. -/

namespace ResourceServer

open ResourceServer.Store ResourceServer.Mapping
open ResourceServer.Filter (Predicate)

def Fresh (name : String) (next : Nat) : Prop :=
  ∀ number, next ≤ number → name ≠ s!"sub_{number}" ∧ name ≠ s!"link_{number}"

theorem Fresh.later {name : String} {next after : Nat} (fresh : Fresh name next)
    (later : next ≤ after) : Fresh name after :=
  fun number above => fresh number (later.trans above)

theorem numeral_injective {left right : Nat} (same : toString left = toString right) :
    left = right := by
  have digits : Nat.toDigits 10 left = Nat.toDigits 10 right := by
    rw [← Nat.toList_repr, ← Nat.toList_repr]
    exact congrArg String.toList same
  rw [← Nat.ofDigitChars_toDigits (b := 10) (n := left) (by omega) (by omega), digits,
    Nat.ofDigitChars_toDigits (by omega) (by omega)]

theorem sub_ne_link (left right : Nat) : s!"sub_{left}" ≠ s!"link_{right}" := by
  intro same
  have first : ("sub_" ++ toString left).toList.head? = ("link_" ++ toString right).toList.head? :=
    congrArg (fun text => text.toList.head?) same
  simp at first

theorem fresh_sub (number : Nat) : Fresh s!"sub_{number}" (number + 1) := by
  intro other above
  refine ⟨fun same => ?_, sub_ne_link number other⟩
  have equal := numeral_injective ((String.append_right_inj _).mp same)
  omega

theorem field_known {type : EntityType} {name : String} {field : Field}
    (known : type.field? name = some field) : field ∈ type.fields ∧ field.name = name :=
  ⟨List.mem_of_find?_eq_some known, by simpa using List.find?_some known⟩

theorem memberColumn_ok {type : EntityType} {name : String} {field : Field}
    (known : type.field? name = some field) (table : String) :
    memberColumn type table name = .ok (fieldColumn table name) := by
  unfold memberColumn
  rw [known]
  rfl

theorem findRelationship_ok {schema : Schema} {type target : EntityType} {name : String}
    {relationship : Relationship}
    (found : Mapping.findRelationship schema type name = .ok (relationship, target)) :
    relationship ∈ type.relationships ∧ findType schema relationship.target = .ok target ∧
      target ∈ schema.types ∧ relationship.target = target.name := by
  unfold Mapping.findRelationship at found
  cases known : type.relationship? name with
  | none =>
      rw [known] at found
      cases found
  | some other =>
      rw [known] at found
      obtain ⟨leads, reached, same⟩ := map_ok found
      cases same
      have here : schema.type? relationship.target = some target := findType_found reached
      have named : target.name = relationship.target := by simpa using List.find?_some here
      exact ⟨List.mem_of_find?_eq_some known, reached, List.mem_of_find?_eq_some here, named.symm⟩

section

variable {schema : Schema} {database : Database}

def Compiles (schema : Schema) (database : Database) (type : EntityType) (name : String)
    (next : Nat) (predicate : Predicate) (suits : Record → Scope → Clause → Prop) : Prop :=
  ∃ clause after, clauseOf schema type name next predicate = .ok (clause, after) ∧ next ≤ after ∧
    ∀ table, database.table? (tableName type) = some table → ∀ row ∈ table.rows, ∀ scope : Scope,
      scope.Binds name table (table.record row) → suits (table.record row) scope clause

theorem leaf_compiles {type : EntityType} {name : String} {next : Nat} {predicate : Predicate}
    {suits : Record → Scope → Clause → Prop} (condition : Condition)
    (compiled : clauseOf schema type name next predicate = .ok (.condition condition, next))
    (suited : ∀ table, database.table? (tableName type) = some table → ∀ row ∈ table.rows,
      ∀ scope : Scope, scope.Binds name table (table.record row) →
        suits (table.record row) scope (.condition condition)) :
    Compiles schema database type name next predicate suits :=
  ⟨_, next, compiled, le_rfl, suited⟩

theorem clauses_compile {type : EntityType} {name : String} {predicates : List Predicate}
    {suits : Predicate → Record → Scope → Clause → Prop}
    {next : Nat} (each : ∀ predicate ∈ predicates, ∀ later, next ≤ later →
      Compiles schema database type name later predicate (suits predicate)) :
    ∃ clauses after, clausesOf schema type name next predicates = .ok (clauses, after) ∧
      next ≤ after ∧
      ∀ table, database.table? (tableName type) = some table → ∀ row ∈ table.rows,
        ∀ scope : Scope, scope.Binds name table (table.record row) →
          List.Forall₂ (fun clause predicate => suits predicate (table.record row) scope clause)
            clauses predicates := by
  induction predicates generalizing next with
  | nil => exact ⟨[], next, rfl, le_rfl, fun _ _ _ _ _ _ => .nil⟩
  | cons predicate rest ih =>
      obtain ⟨clause, middle, first, above, suited⟩ := each predicate List.mem_cons_self next le_rfl
      obtain ⟨clauses, after, others, higher, suiteds⟩ := ih fun other member later higher =>
        each other (List.mem_cons_of_mem _ member) later (above.trans higher)
      refine ⟨clause :: clauses, after, ?_, above.trans higher, ?_⟩
      · unfold clausesOf
        rw [first]
        simp only [bind, Except.bind, others]
      · intro table found row member scope bound
        exact .cons (suited table found row member scope bound)
          (suiteds table found row member scope bound)

theorem all_compiles {type : EntityType} {name : String} {next : Nat} {predicates : List Predicate}
    {parts : Predicate → Record → Scope → Clause → Prop} {suits : Record → Scope → Clause → Prop}
    (each : ∀ predicate ∈ predicates, ∀ later, next ≤ later →
      Compiles schema database type name later predicate (parts predicate))
    (whole : ∀ record scope clauses,
      List.Forall₂ (fun clause predicate => parts predicate record scope clause) clauses predicates →
        suits record scope (.all clauses)) :
    Compiles schema database type name next (.all predicates) suits := by
  obtain ⟨clauses, after, compiled, above, suited⟩ := clauses_compile each
  refine ⟨.all clauses, after, ?_, above, fun table found row member scope bound =>
    whole _ scope clauses (suited table found row member scope bound)⟩
  unfold clauseOf
  rw [compiled]
  rfl

theorem any_compiles {type : EntityType} {name : String} {next : Nat} {predicates : List Predicate}
    {parts : Predicate → Record → Scope → Clause → Prop} {suits : Record → Scope → Clause → Prop}
    (each : ∀ predicate ∈ predicates, ∀ later, next ≤ later →
      Compiles schema database type name later predicate (parts predicate))
    (whole : ∀ record scope clauses,
      List.Forall₂ (fun clause predicate => parts predicate record scope clause) clauses predicates →
        suits record scope (anyClause clauses)) :
    Compiles schema database type name next (.any predicates) suits := by
  obtain ⟨clauses, after, compiled, above, suited⟩ := clauses_compile each
  refine ⟨anyClause clauses, after, ?_, above, fun table found row member scope bound =>
    whole _ scope clauses (suited table found row member scope bound)⟩
  unfold clauseOf
  rw [compiled]
  rfl

theorem not_compiles {type : EntityType} {name : String} {next : Nat} {predicate : Predicate}
    {part suits : Record → Scope → Clause → Prop}
    (inner : Compiles schema database type name next predicate part)
    (whole : ∀ record scope clause, part record scope clause → suits record scope (.not clause)) :
    Compiles schema database type name next (.not predicate) suits := by
  obtain ⟨clause, after, compiled, above, suited⟩ := inner
  refine ⟨.not clause, after, ?_, above, fun table found row member scope bound =>
    whole _ scope clause (suited table found row member scope bound)⟩
  unfold clauseOf
  rw [compiled]
  rfl

theorem related_compiles {type target : EntityType} {relation name : String}
    {relationship : Relationship} {next : Nat} {predicate : Predicate}
    {inner suits : Record → Scope → Clause → Prop}
    (reached : findRelationship schema type relation = .ok (relationship, target))
    (each : ∀ later, next + 1 ≤ later →
      Compiles schema database target s!"sub_{next}" later predicate inner)
    (suited : ∀ filter, (∀ table, database.table? (tableName target) = some table →
        ∀ row ∈ table.rows, ∀ scope : Scope, scope.Binds s!"sub_{next}" table (table.record row) →
          inner (table.record row) scope filter) →
      ∀ table, database.table? (tableName type) = some table → ∀ row ∈ table.rows,
        ∀ scope : Scope, scope.Binds name table (table.record row) →
          let tied := tie type target relationship.storage name s!"sub_{next}" (next + 1)
          suits (table.record row) scope (.existing (tableName target) s!"sub_{next}" tied.joins
            (.allOf [.condition tied.condition, filter]))) :
    Compiles schema database type name next (.related relation predicate) suits := by
  let tied := tie type target relationship.storage name s!"sub_{next}" (next + 1)
  have above : next + 1 ≤ tied.next := by
    dsimp only [tied, tie]
    split <;> simp
  obtain ⟨filter, after, compiled, higher, met⟩ := each tied.next above
  refine ⟨.existing (tableName target) s!"sub_{next}" tied.joins
    (.allOf [.condition tied.condition, filter]), after, ?_, by omega, suited filter met⟩
  unfold clauseOf
  rw [reached]
  simp only [bind, Except.bind]
  rw [compiled]

def Tabled (schema : Schema) (database : Database) (type : EntityType) : Prop :=
  ∃ table, database.table? (tableName type) = some table ∧
    tableColumns schema type = .ok table.columns ∧ table.Wide

/-- A database has the tables of a schema, and rows as wide as they. -/
structure Shaped (schema : Schema) (database : Database) : Prop where
  entities : ∀ type ∈ schema.types, Tabled schema database type
  pairs : ∀ type ∈ schema.types, ∀ relationship ∈ type.relationships,
    ∀ pairs ownerColumn targetColumn,
      relationship.storage = .joinTable pairs ownerColumn targetColumn →
        ∃ table, database.table? pairs = some table ∧ table.Has ownerColumn ∧
          table.Has targetColumn ∧ table.Wide

theorem Shaped.field {type : EntityType} {table : Table} {name : String} {field : Field}
    (shaped : Shaped schema database) (distinct : schema.ColumnsDistinct)
    (known : type ∈ schema.types) (found : database.table? (tableName type) = some table)
    (named : type.field? name = some field) : table.Has (columnName name) := by
  obtain ⟨table', found', laid, _⟩ := shaped.entities type known
  cases found.symm.trans found'
  obtain ⟨member, rfl⟩ := field_known named
  exact ⟨_, field_column laid (distinct type known) member, rfl⟩

theorem equal_eval {scope : Scope} {left right : Column} {one other : Cell}
    (lefts : scope.get left = .ok one) (rights : scope.get right = .ok other) :
    Clause.eval database (.condition (.compare left "=" (.column right))) scope =
      .ok (one.meets .eq other) := by
  have compared : compareCells one "=" other = .ok (one.meets .eq other) :=
    compareCells_eq one other .eq
  simp only [Clause.eval, Condition.eval, lefts, rights, bind, Except.bind, compared]

theorem identity_column {type : EntityType} {table : Table} (distinct : schema.ColumnsDistinct)
    (known : type ∈ schema.types) (laid : tableColumns schema type = .ok table.columns) :
    table.Has (columnName type.identity.name) :=
  ⟨_, field_column laid (distinct type known) List.mem_cons_self, rfl⟩

/-- A row of a subquery for a relationship: the target's row in it, and the two values that its tie
compares. -/
structure TiedRow where
  front : Scope
  row : Row
  left : Cell
  right : Cell

/-- The rows of a subquery for a relationship, within the scope of an owner's row. -/
structure TiedRows (database : Database) (tied : Tie) (joined : Table) (sub : String) (scope : Scope)
    (items : List TiedRow) : Prop where
  scanned : database.scan joined.name sub tied.joins = .ok (items.map TiedRow.front)
  bound : ∀ item ∈ items, item.row ∈ joined.rows ∧
    Scope.Binds (item.front ++ scope) sub joined (joined.record item.row)
  tied : ∀ item ∈ items, Clause.eval database (.condition tied.condition) (item.front ++ scope) =
    .ok (item.left.meets .eq item.right)

def aloneRows (joined : Table) (sub : String) (left right : Row → Cell) : List TiedRow :=
  joined.rows.map fun other => ⟨joined.scope sub other, other, left other, right other⟩

def joinedRows (joined links : Table) (sub link : String) (names : Row → Row → Bool)
    (left : Row → Cell) (right : Scope → Cell) : List TiedRow :=
  joined.rows.flatMap fun other => (links.rows.filter (names other)).map fun pair =>
    ⟨joined.scope sub other ++ links.scope link pair, other, left pair,
      right (joined.scope sub other ++ links.scope link pair)⟩

section

variable {joined links : Table} {tied : Tie} {sub link : String} {scope : Scope}

theorem tied_alone (reached : database.table? joined.name = some joined) {left right : Row → Cell}
    {first second : Column} (joins : tied.joins = [])
    (condition : tied.condition = .compare first "=" (.column second)) (wide : joined.Wide)
    (lefts : ∀ other ∈ joined.rows,
      Scope.get (joined.scope sub other ++ scope) first = .ok (left other))
    (rights : ∀ other ∈ joined.rows,
      Scope.get (joined.scope sub other ++ scope) second = .ok (right other)) :
    TiedRows database tied joined sub scope (aloneRows joined sub left right) := by
  refine ⟨?_, fun item member => ?_, fun item member => ?_⟩
  · rw [joins, aloneRows, List.map_map]
    exact scan_alone sub reached
  · obtain ⟨other, inside, rfl⟩ := List.mem_map.mp member
    exact ⟨inside, scope_binds joined sub other scope (wide other inside)⟩
  · obtain ⟨other, inside, rfl⟩ := List.mem_map.mp member
    rw [condition]
    exact equal_eval (lefts other inside) (rights other inside)

theorem mem_joinedRows {names : Row → Row → Bool} {left : Row → Cell} {right : Scope → Cell}
    {item : TiedRow} (member : item ∈ joinedRows joined links sub link names left right) :
    ∃ other ∈ joined.rows, ∃ pair ∈ links.rows,
      item = ⟨joined.scope sub other ++ links.scope link pair, other, left pair,
        right (joined.scope sub other ++ links.scope link pair)⟩ := by
  obtain ⟨other, among, member⟩ := List.mem_flatMap.mp member
  obtain ⟨pair, kept, rfl⟩ := List.mem_map.mp member
  exact ⟨other, among, pair, (List.mem_filter.mp kept).1, rfl⟩

theorem tied_joined (reached : database.table? joined.name = some joined)
    (pairs : database.table? links.name = some links) (right : Scope → Cell) {second : Column}
    {ownerColumn targetColumn identity : String}
    (joins : tied.joins = [⟨.inner, links.name, link, .ofTable link targetColumn, "=",
      .ofTable sub identity⟩])
    (condition : tied.condition = .compare (.ofTable link ownerColumn) "=" (.column second))
    (separate : link ≠ sub) (wide : joined.Wide) (narrow : links.Wide)
    (identified : joined.Has identity) (ownerKey : links.Has ownerColumn)
    (targetKey : links.Has targetColumn)
    (rights : ∀ other ∈ joined.rows, ∀ pair ∈ links.rows,
      Scope.get (joined.scope sub other ++ links.scope link pair ++ scope) second =
        .ok (right (joined.scope sub other ++ links.scope link pair))) :
    TiedRows database tied joined sub scope
      (joinedRows joined links sub link
        (fun other pair => (links.record pair targetColumn).agrees (joined.record other identity))
        (fun pair => links.record pair ownerColumn) right) := by
  refine ⟨?_, fun item member => ?_, fun item member => ?_⟩
  · have scanned := scan_join sub
      ⟨.inner, links.name, link, .ofTable link targetColumn, "=", .ofTable sub identity⟩
      reached pairs rfl rfl (fun _ pair => links.record pair targetColumn)
      (fun other _ => joined.record other identity)
      (fun other _ pair inside => by
        have pairBound := scope_binds links link pair [] (narrow pair inside)
        rw [List.append_nil] at pairBound
        exact binds_behind joined other pairBound separate _ targetKey)
      (fun other inside pair _ => scope_binds joined sub other _ (wide other inside) _ identified)
    rw [joins, scanned, joinedRows, List.map_flatMap]
    simp only [List.map_map, Function.comp_def]
  · obtain ⟨other, among, pair, _, rfl⟩ := mem_joinedRows member
    rw [List.append_assoc]
    exact ⟨among, scope_binds joined sub other _ (wide other among)⟩
  · obtain ⟨other, among, pair, linked, rfl⟩ := mem_joinedRows member
    have pairBound := scope_binds links link pair scope (narrow pair linked)
    have front := binds_behind joined other pairBound separate _ ownerKey
    rw [← List.append_assoc] at front
    rw [condition]
    exact equal_eval front (rights other among pair linked)

end

theorem related_rows (shaped : Shaped schema database) (distinct : schema.ColumnsDistinct)
    {type target : EntityType} {relationship : Relationship} (known : type ∈ schema.types)
    (own : relationship ∈ type.relationships)
    (leads : findType schema relationship.target = .ok target) (known' : target ∈ schema.types)
    (same : relationship.target = target.name) {name : String} {next : Nat}
    (fresh : Fresh name next) {table : Table}
    (found : database.table? (tableName type) = some table) {row : Row} {scope : Scope}
    (bound : scope.Binds name table (table.record row)) {joined : Table}
    (reached : database.table? (tableName target) = some joined) :
    ∃ items, TiedRows database
        (tie type target relationship.storage name s!"sub_{next}" (next + 1)) joined s!"sub_{next}"
        scope items ∧
      ∀ meets : Record → Bool,
        (items.any fun item => item.left.agrees item.right && meets (joined.record item.row)) =
          joined.records.any fun other =>
            linked database type target relationship.storage (table.record row) other &&
              meets other := by
  obtain ⟨table', found', laid, _⟩ := shaped.entities type known
  cases found.symm.trans found'
  obtain ⟨joined', reached', laid', wide⟩ := shaped.entities target known'
  cases reached.symm.trans reached'
  have identity := identity_column distinct known laid
  have identity' := identity_column distinct known' laid'
  have apart := (fresh next le_rfl).1
  have named : database.table? joined.name = some joined := by
    rw [Database.table?_name reached]
    exact reached
  cases storage : relationship.storage with
  | ownerKey column =>
      have key : table.Has column := ownerKey_column laid own storage leads
      refine ⟨_, tied_alone named rfl rfl wide
        (fun other inside => scope_binds joined _ other scope (wide other inside) _ identity')
        fun other _ => binds_behind joined other bound apart _ key, fun meets => ?_⟩
      rw [aloneRows, Table.records, List.any_map, List.any_map]
      rfl
  | targetKey column =>
      have key : joined.Has column := targetKey_column laid' known own storage same
      refine ⟨_, tied_alone named rfl rfl wide
        (fun other inside => scope_binds joined _ other scope (wide other inside) _ key)
        fun other _ => binds_behind joined other bound apart _ identity, fun meets => ?_⟩
      rw [aloneRows, Table.records, List.any_map, List.any_map]
      rfl
  | joinTable pairs ownerColumn targetColumn =>
      obtain ⟨links, linksFound, ownerKey, targetKey, narrow⟩ :=
        shaped.pairs type known relationship own pairs ownerColumn targetColumn storage
      obtain rfl := Database.table?_name linksFound
      have away := (fresh (next + 1) (by omega)).2
      refine ⟨_, tied_joined named linksFound
        (fun _ => table.record row (columnName type.identity.name)) rfl rfl
        (sub_ne_link next (next + 1)).symm wide narrow identity' ownerKey targetKey ?_,
        fun meets => ?_⟩
      · intro other _ pair _
        rw [List.append_assoc]
        exact binds_behind joined other (binds_behind links pair bound away) apart _ identity
      · rw [joinedRows, List.any_flatMap, Table.records, List.any_map]
        refine congrArg joined.rows.any (funext fun other => ?_)
        rw [Function.comp_apply, linked, records_of_table linksFound, Table.records]
        simp only [List.any_map, List.any_filter, Function.comp_def]
        by_cases met : meets (joined.record other) = true <;> simp [met]

theorem get_succeeds {scope : Scope} {column : Column} {cell : Cell} (front : Scope)
    (found : scope.get column = .ok cell) : ∃ cell, Scope.get (front ++ scope) column = .ok cell := by
  unfold Scope.get at found ⊢
  rw [List.find?_append]
  cases front.find? fun entry => isMeant column entry.1 with
  | some entry => exact ⟨entry.2, rfl⟩
  | none =>
      rw [Option.none_or]
      exact ⟨cell, found⟩

theorem valueAt_ok {scope : Scope} {column : Column} {cell : Cell}
    (found : scope.get column = .ok cell) : scope.get column = .ok (valueAt scope column) := by
  unfold valueAt
  rw [found]

/-- Whatever the owner's table is called, the subquery for a relationship can be evaluated. -/
theorem related_rows_exist (shaped : Shaped schema database) (distinct : schema.ColumnsDistinct)
    {type target : EntityType} {relationship : Relationship} (known : type ∈ schema.types)
    (own : relationship ∈ type.relationships)
    (leads : findType schema relationship.target = .ok target) (known' : target ∈ schema.types)
    (same : relationship.target = target.name) {name : String} (next : Nat) {table : Table}
    (found : database.table? (tableName type) = some table) {row : Row} {scope : Scope}
    (bound : scope.Binds name table (table.record row)) {joined : Table}
    (reached : database.table? (tableName target) = some joined) :
    ∃ items, TiedRows database
      (tie type target relationship.storage name s!"sub_{next}" (next + 1)) joined s!"sub_{next}"
      scope items := by
  obtain ⟨table', found', laid, _⟩ := shaped.entities type known
  cases found.symm.trans found'
  obtain ⟨joined', reached', laid', wide⟩ := shaped.entities target known'
  cases reached.symm.trans reached'
  have identity := identity_column distinct known laid
  have identity' := identity_column distinct known' laid'
  have named : database.table? joined.name = some joined := by
    rw [Database.table?_name reached]
    exact reached
  have seen : ∀ column, table.Has column → ∀ front : Scope,
      Scope.get (front ++ scope) (.ofTable name column) =
        .ok (valueAt (front ++ scope) (.ofTable name column)) := by
    intro column present front
    obtain ⟨cell, here⟩ := get_succeeds front (bound column present)
    exact valueAt_ok here
  cases storage : relationship.storage with
  | ownerKey column =>
      have key : table.Has column := ownerKey_column laid own storage leads
      exact ⟨_, tied_alone named rfl rfl wide
        (fun other inside => scope_binds joined _ other scope (wide other inside) _ identity')
        fun other _ => seen column key (joined.scope s!"sub_{next}" other)⟩
  | targetKey column =>
      have key : joined.Has column := targetKey_column laid' known own storage same
      exact ⟨_, tied_alone named rfl rfl wide
        (fun other inside => scope_binds joined _ other scope (wide other inside) _ key)
        fun other _ => seen _ identity (joined.scope s!"sub_{next}" other)⟩
  | joinTable pairs ownerColumn targetColumn =>
      obtain ⟨links, linksFound, ownerKey, targetKey, narrow⟩ :=
        shaped.pairs type known relationship own pairs ownerColumn targetColumn storage
      obtain rfl := Database.table?_name linksFound
      exact ⟨_, tied_joined named linksFound
        (fun front => valueAt (front ++ scope) (idColumn type name)) rfl rfl
        (sub_ne_link next (next + 1)).symm wide narrow identity' ownerKey targetKey
        fun _ _ _ _ => seen _ identity _⟩

end

end ResourceServer
