import ResourceServer.Proofs.Subqueries

/-! Compiled predicates mean what the predicates mean. -/

namespace ResourceServer

open ResourceServer.Store ResourceServer.Mapping
open ResourceServer.Filter (Predicate Comparison)

section

variable {schema : Schema} {database : Database}

theorem wide_of_typed {table : Table} (typed : table.WellTyped) : table.Wide :=
  fun row member => Row.fits_length (typed row member)

theorem Stores.shaped (stores : Stores schema database) : Shaped schema database := by
  constructor
  · intro type known
    obtain ⟨table, found, laid, typed⟩ := stores.entities type known
    exact ⟨table, found, laid, wide_of_typed typed⟩
  · intro type known relationship own pairs ownerColumn targetColumn storage
    obtain ⟨table, found, owner, target, typed⟩ :=
      stores.pairs type known relationship own pairs ownerColumn targetColumn storage
    exact ⟨table, found, owner, target, wide_of_typed typed⟩

theorem tied_eval {scope : Scope} {condition : Condition} {one other : Cell} {filter : Clause}
    {inner : Truth}
    (tied : Clause.eval database (.condition condition) scope = .ok (one.meets .eq other))
    (evaluated : filter.eval database scope = .ok inner) :
    ∃ truth, Clause.eval database (.allOf [.condition condition, filter]) scope = .ok truth ∧
      decide (truth = .yes) = (one.agrees other && decide (inner = .yes)) := by
  refine ⟨(one.meets .eq other).and inner, ?_, ?_⟩
  · have both := Clause.evalAll_eq [.condition condition, filter] (truthOn database scope) (by
      intro clause member
      rcases List.mem_cons.mp member with rfl | member
      · rw [truthOn_eq tied]
        exact tied
      · rw [List.mem_singleton.mp member, truthOn_eq evaluated]
        exact evaluated)
    rw [List.map_cons, List.map_singleton, truthOn_eq tied, truthOn_eq evaluated] at both
    refine both.trans ?_
    cases inner <;> rfl
  · have same := agrees_iff_meets one other
    cases found : one.agrees other with
    | false =>
        have fails : one.meets .eq other ≠ .yes := by simp [← same, found]
        cases met : one.meets .eq other <;> cases inner <;> first | rfl | exact absurd met fails
    | true =>
        rw [same.mp found]
        cases inner <;> rfl

theorem related_eval {tied : Tie} {joined : Table} {sub : String} {scope : Scope}
    {links : Record → Bool} {items : List TiedRow} {filter : Clause} (meets : Record → Truth)
    (rows : TiedRows database tied joined sub scope items)
    (linked : ∀ meets : Record → Bool,
      (items.any fun item => item.left.agrees item.right && meets (joined.record item.row)) =
        joined.records.any fun other => links other && meets other)
    (evaluated : ∀ row ∈ joined.rows, ∀ scope : Scope,
      scope.Binds sub joined (joined.record row) →
        filter.eval database scope = .ok (meets (joined.record row))) :
    Clause.eval database (.existing joined.name sub tied.joins
        (.allOf [.condition tied.condition, filter])) scope =
      .ok (.ofBool (joined.records.any fun other => links other && decide (meets other = .yes))) := by
  rw [← linked fun other => decide (meets other = .yes)]
  refine existing_eval TiedRow.front _ rows.scanned fun item member => ?_
  obtain ⟨inside, bound⟩ := rows.bound item member
  exact tied_eval (rows.tied item member) (evaluated item.row inside _ bound)

theorem Stores.field {type : EntityType} {table : Table} {name : String} {field : Field}
    (stores : Stores schema database) (distinct : schema.ColumnsDistinct) (known : type ∈ schema.types)
    (found : database.table? (tableName type) = some table)
    (named : type.field? name = some field) :
    table.Has (columnName name) ∧ ∀ row ∈ table.rows,
      (columnType field.type).admits (table.record row (columnName name)) := by
  obtain ⟨table', found', laid, typed⟩ := stores.entities type known
  cases found.symm.trans found'
  obtain ⟨member, rfl⟩ := field_known named
  have column := field_column laid (distinct type known) member
  refine ⟨⟨_, column, rfl⟩, fun row inside => ?_⟩
  rw [← storedType_stored type field]
  exact recordOf_admits (columns_distinct laid) (typed row inside) column

theorem text_cases {cell : Cell} (admitted : ColumnType.text.admits cell) :
    cell = .null ∨ ∃ text, cell = .text text := by
  cases cell <;> simp_all [ColumnType.admits]

theorem field_compiles {type : EntityType} {name field : String} {fieldOf : Field} {next : Nat}
    {predicate : Predicate} (stores : Stores schema database) (distinct : schema.ColumnsDistinct)
    (known : type ∈ schema.types) (named : type.field? field = some fieldOf) (condition : Condition)
    (compiled : clauseOf schema type name next predicate = .ok (.condition condition, next))
    (settled : ∀ (record : Record) (scope : Scope),
      scope.get (fieldColumn name field) = .ok (record (columnName field)) →
        (columnType fieldOf.type).admits (record (columnName field)) →
          Settled database scope (.condition condition)
            (truth schema database type record predicate)) :
    Compiles schema database type name next predicate fun record scope clause =>
      Settled database scope clause (truth schema database type record predicate) := by
  refine leaf_compiles condition compiled fun table found row member scope bound => ?_
  obtain ⟨present, typed⟩ := stores.field distinct known found named
  exact settled _ scope (bound _ present) (typed row member)

/-- Every predicate on a type compiles, and means what it says on each row of the type's table. -/
theorem compiles (stores : Stores schema database) (distinct : schema.ColumnsDistinct)
    {type : EntityType} {predicate : Predicate} (resolved : predicate.Resolved schema type)
    (known : type ∈ schema.types) {name : String} {next : Nat} (fresh : Fresh name next) :
    Compiles schema database type name next predicate fun record scope clause =>
      Settled database scope clause (truth schema database type record predicate) := by
  induction resolved generalizing name next with
  | @all type predicates _ ih =>
      refine all_compiles (fun predicate member later above =>
        ih predicate member known (fresh.later above)) fun record scope clauses settled => ?_
      refine allClause_settled ?_
      rw [truths_eq]
      exact List.forall₂_map_right_iff.mpr settled
  | @any type predicates _ ih =>
      refine any_compiles (fun predicate member later above =>
        ih predicate member known (fresh.later above)) fun record scope clauses settled => ?_
      refine anyClause_settled ?_
      rw [truths_eq]
      exact List.forall₂_map_right_iff.mpr settled
  | @not type predicate _ ih =>
      refine not_compiles (ih known fresh) fun record scope clause settled => settled_of_eval ?_ rfl
      unfold Clause.eval
      rw [settled.eval]
      rfl
  | @compareValue type field fieldOf comparison value named held =>
      refine field_compiles stores distinct known named (.compare (fieldColumn name field)
        comparison.symbol (.cell (cellOf value))) ?_ fun record scope read admitted => ?_
      · simp only [clauseOf, memberColumn_ok named, bind, Except.bind]
      · refine ⟨comparison_eval comparison (cellOf value) read, fun column given equal => ?_⟩
        have shape := equality_shape equal
        simp only [Clause.condition.injEq, Condition.compare.injEq, Operand.cell.injEq] at shape
        obtain ⟨rfl, _, rfl⟩ := shape
        exact ⟨_, read, comparable admitted held.1 held.2⟩
  | @compareField type field other fieldOf fieldOf' comparison named named' =>
      refine leaf_compiles (.compare (fieldColumn name field) comparison.symbol
        (.column (fieldColumn name other))) ?_ fun table found row member scope bound => ?_
      · simp only [clauseOf, memberColumn_ok named, memberColumn_ok named', Except.map, bind, Except.bind]
      · have read := bound _ (stores.field distinct known found named).1
        have read' := bound _ (stores.field distinct known found named').1
        refine settled_of_eval ?_ rfl
        have compared := compareCells_eq (table.record row (columnName field))
          (table.record row (columnName other)) comparison
        simp only [Clause.eval, Condition.eval, fieldColumn, read, read', bind, Except.bind, compared]
        rfl
  | @oneOf type field fieldOf values named held =>
      refine field_compiles stores distinct known named
        (.oneOf (fieldColumn name field) (values.map cellOf)) ?_ fun record scope read admitted => ?_
      · simp only [clauseOf, memberColumn_ok named, bind, Except.bind]
      · refine settled_of_eval ?_ rfl
        have tested := member_truth (values.map cellOf) read (by
          intro value given
          obtain ⟨literal, listed, rfl⟩ := List.mem_map.mp given
          exact comparable admitted (held literal listed).1 (held literal listed).2)
        rw [List.map_map] at tested
        exact tested
  | @like type field fieldOf pattern ignoreCase named textual =>
      refine field_compiles stores distinct known named
        (.like (fieldColumn name field) pattern ignoreCase) ?_ fun record scope read admitted => ?_
      · simp only [clauseOf, memberColumn_ok named, bind, Except.bind]
      · refine settled_of_eval ?_ rfl
        simp only [Clause.eval, Condition.eval, truth, read]
        rcases text_cases (textual ▸ admitted) with empty | ⟨text, given⟩
        · rw [empty]
          rfl
        · rw [given]
          rfl
  | @isNull type field fieldOf named =>
      refine field_compiles stores distinct known named (.isNull (fieldColumn name field)) ?_
        fun record scope read _ => settled_of_eval ?_ rfl
      · simp only [clauseOf, memberColumn_ok named, bind, Except.bind]
      · simp only [Clause.eval, Condition.eval, read]
        rfl
  | @search type field fieldOf query plain named textual =>
      refine field_compiles stores distinct known named
        (.search (fieldColumn name field) query plain) ?_ fun record scope read admitted => ?_
      · simp only [clauseOf, memberColumn_ok named, bind, Except.bind]
      · refine settled_of_eval ?_ rfl
        simp only [Clause.eval, Condition.eval, truth, read]
        rcases text_cases (textual ▸ admitted) with empty | ⟨text, given⟩
        · rw [empty]
          rfl
        · rw [given]
          rfl
  | @related type target relation relationship predicate reached _ ih =>
      obtain ⟨own, leads, known', same⟩ := findRelationship_ok reached
      refine related_compiles reached (fun later above => ih known' ((fresh_sub next).later above))
        fun filter settled table found row member scope bound => settled_of_eval ?_ rfl
      obtain ⟨joined, joinedFound, _, _⟩ := stores.shaped.entities target known'
      obtain ⟨items, rows, links⟩ := related_rows stores.shaped distinct known own leads known' same fresh
        found bound joinedFound
      have evaluated := related_eval (fun other => truth schema database target other predicate) rows
        links fun row inside scope bound => (settled joined joinedFound row inside scope bound).eval
      rw [truth, reached]
      dsimp only
      rw [Database.table?_name joinedFound] at evaluated
      rw [records_of_table joinedFound]
      exact evaluated

end

end ResourceServer
