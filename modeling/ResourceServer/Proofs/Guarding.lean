import ResourceServer.Proofs.Acceptance
import ResourceServer.Proofs.Merging

/-! When the evaluation of a clause fails: a pattern or a search meets a value that is not text. -/

namespace ResourceServer

open ResourceServer.Store ResourceServer.Mapping
open ResourceServer.Filter (Predicate)

def Store.Cell.isTextual : Cell → Bool
  | .null => true
  | .text _ => true
  | _ => false

/-- In the part of a clause that is evaluated on a row, a pattern or a search meets a value that is not
text. -/
inductive Misapplied (database : Database) : Clause → Scope → Prop
  | like {scope : Scope} {column : Column} {pattern : String} {ignoreCase : Bool} {value : Cell}
      (read : scope.get column = .ok value) (other : value.isTextual = false) :
      Misapplied database (.condition (.like column pattern ignoreCase)) scope
  | search {scope : Scope} {column : Column} {query : String} {plain : Bool} {value : Cell}
      (read : scope.get column = .ok value) (other : value.isTextual = false) :
      Misapplied database (.condition (.search column query plain)) scope
  | not {scope : Scope} {clause : Clause} (inner : Misapplied database clause scope) :
      Misapplied database (.not clause) scope
  | all {scope : Scope} {before after : List Clause} {clause : Clause}
      (passed : ∀ other ∈ before, ∃ truth, other.eval database scope = .ok truth ∧ truth ≠ .no)
      (inner : Misapplied database clause scope) :
      Misapplied database (.all (before ++ clause :: after)) scope
  | any {scope : Scope} {before after : List Clause} {clause : Clause}
      (passed : ∀ other ∈ before, ∃ truth, other.eval database scope = .ok truth ∧ truth ≠ .yes)
      (inner : Misapplied database clause scope) :
      Misapplied database (.any (before ++ clause :: after)) scope
  | existing {scope row : Scope} {table rename : String} {joins : List Join} {filter : Clause}
      {before after : List Scope}
      (scanned : database.scan table rename joins = .ok (before ++ row :: after))
      (passed : ∀ other ∈ before, ∃ truth,
        filter.eval database (other ++ scope) = .ok truth ∧ truth ≠ .yes)
      (inner : Misapplied database filter (row ++ scope)) :
      Misapplied database (.existing table rename joins filter) scope

theorem first_failure {α : Type} (fails passes : α → Prop) (run : List α → Prop) (empty : ¬run [])
    (step : ∀ item rest, run (item :: rest) ↔ fails item ∨ passes item ∧ run rest)
    (items : List α) :
    run items ↔ ∃ before item after, items = before ++ item :: after ∧
      (∀ other ∈ before, passes other) ∧ fails item := by
  induction items with
  | nil =>
      refine ⟨fun failed => absurd failed empty, ?_⟩
      rintro ⟨before, item, after, same, _⟩
      simp at same
  | cons first rest ih =>
      rw [step, ih]
      constructor
      · rintro (failed | ⟨passed, before, item, after, rfl, others, failed⟩)
        · exact ⟨[], first, rest, rfl, nofun, failed⟩
        · exact ⟨first :: before, item, after, rfl, List.forall_mem_cons.mpr ⟨passed, others⟩, failed⟩
      · rintro ⟨before, item, after, same, passed, failed⟩
        cases before with
        | nil =>
            cases same
            exact .inl failed
        | cons other before =>
            cases same
            obtain ⟨first, others⟩ := List.forall_mem_cons.mp passed
            exact .inr ⟨first, before, item, after, rfl, others, failed⟩

section

variable {database : Database} {scope : Scope}

/-! Junctions and subqueries fail with the first of their parts that fails. -/

def Undecided (database : Database) (decides : Truth) (scope : Scope) (clause : Clause) : Prop :=
  ∃ truth, clause.eval database scope = .ok truth ∧ truth ≠ decides

theorem evalAll_error_iff (clauses : List Clause) (error : StoreError) :
    Clause.evalAll database clauses scope = .error error ↔
      ∃ before clause after, clauses = before ++ clause :: after ∧
        (∀ other ∈ before, Undecided database .no scope other) ∧
        clause.eval database scope = .error error := by
  refine first_failure (fun clause => clause.eval database scope = .error error)
    (Undecided database .no scope)
    (fun clauses => Clause.evalAll database clauses scope = .error error) nofun
    (fun clause rest => ?_) clauses
  rw [Clause.evalAll]
  unfold Undecided
  cases clause.eval database scope with
  | error failure => simp [bind, Except.bind]
  | ok truth =>
      cases Clause.evalAll database rest scope <;> cases truth <;>
        simp [bind, Except.bind, pure, Except.pure]

theorem evalAny_error_iff (clauses : List Clause) (error : StoreError) :
    Clause.evalAny database clauses scope = .error error ↔
      ∃ before clause after, clauses = before ++ clause :: after ∧
        (∀ other ∈ before, Undecided database .yes scope other) ∧
        clause.eval database scope = .error error := by
  refine first_failure (fun clause => clause.eval database scope = .error error)
    (Undecided database .yes scope)
    (fun clauses => Clause.evalAny database clauses scope = .error error) nofun
    (fun clause rest => ?_) clauses
  rw [Clause.evalAny]
  unfold Undecided
  cases clause.eval database scope with
  | error failure => simp [bind, Except.bind]
  | ok truth =>
      cases Clause.evalAny database rest scope <;> cases truth <;>
        simp [bind, Except.bind, pure, Except.pure]

theorem anyM_error_iff (filter : Clause) (rows : List Scope) (error : StoreError) :
    (rows.anyM fun row => do
        return decide ((← filter.eval database (row ++ scope)) = .yes) : Except StoreError Bool) =
        .error error ↔
      ∃ before row after, rows = before ++ row :: after ∧
        (∀ other ∈ before, Undecided database .yes (other ++ scope) filter) ∧
        filter.eval database (row ++ scope) = .error error := by
  refine first_failure (fun row => filter.eval database (row ++ scope) = .error error)
    (fun row => Undecided database .yes (row ++ scope) filter)
    (fun rows => (rows.anyM fun row => do
      return decide ((← filter.eval database (row ++ scope)) = .yes) : Except StoreError Bool) =
        .error error) nofun (fun row rest => ?_) rows
  rw [List.anyM]
  unfold Undecided
  cases filter.eval database (row ++ scope) with
  | error failure => simp [bind, Except.bind]
  | ok truth =>
      cases truth <;> simp [bind, Except.bind, pure, Except.pure]

theorem existing_error_iff {name rename : String} {joins : List Join} {rows : List Scope}
    (scanned : database.scan name rename joins = .ok rows) (filter : Clause) (error : StoreError) :
    Clause.eval database (.existing name rename joins filter) scope = .error error ↔
      ∃ before row after, rows = before ++ row :: after ∧
        (∀ other ∈ before, Undecided database .yes (other ++ scope) filter) ∧
        filter.eval database (row ++ scope) = .error error := by
  rw [← anyM_error_iff filter rows error]
  have evaluated : Clause.eval database (.existing name rename joins filter) scope =
      (rows.anyM fun row => do
        return decide ((← filter.eval database (row ++ scope)) = .yes) : Except StoreError Bool).map
        Truth.ofBool := by
    rw [Clause.eval, scanned]
    rfl
  rw [evaluated]
  cases (rows.anyM fun row => do
    return decide ((← filter.eval database (row ++ scope)) = .yes) : Except StoreError Bool) <;>
    simp [Except.map]

theorem not_error_iff (clause : Clause) (error : StoreError) :
    Clause.eval database (.not clause) scope = .error error ↔
      clause.eval database scope = .error error := by
  rw [Clause.eval]
  cases clause.eval database scope <;> simp [bind, Except.bind, pure, Except.pure]

theorem misapplied_fails {clause : Clause} (misapplied : Misapplied database clause scope) :
    ∃ error, clause.eval database scope = .error error := by
  induction misapplied with
  | @like scope column pattern ignoreCase value read other =>
      refine ⟨.notMatchable value, ?_⟩
      simp only [Clause.eval, Condition.eval, read]
      cases value <;> first | rfl | cases other
  | @search scope column query plain value read other =>
      refine ⟨.notSearchable value, ?_⟩
      simp only [Clause.eval, Condition.eval, read]
      cases value <;> first | rfl | cases other
  | not _ ih =>
      obtain ⟨error, failed⟩ := ih
      exact ⟨error, (not_error_iff _ error).mpr failed⟩
  | all passed _ ih =>
      obtain ⟨error, failed⟩ := ih
      exact ⟨error, (evalAll_error_iff _ error).mpr ⟨_, _, _, rfl, passed, failed⟩⟩
  | any passed _ ih =>
      obtain ⟨error, failed⟩ := ih
      exact ⟨error, (evalAny_error_iff _ error).mpr ⟨_, _, _, rfl, passed, failed⟩⟩
  | existing scanned passed _ ih =>
      obtain ⟨error, failed⟩ := ih
      exact ⟨error, (existing_error_iff scanned _ error).mpr ⟨_, _, _, rfl, passed, failed⟩⟩

end

/-! The clauses of accepted filters fail only where a pattern or a search is misapplied. -/

section

variable {database : Database} {scope : Scope} {clause : Clause} {clauses : List Clause}
  {cause : Prop}

/-- A clause fails only for a misapplied pattern or search, and then for a cause; if it is an equality, its
column is in scope. -/
structure Guarded (database : Database) (scope : Scope) (cause : Prop) (clause : Clause) : Prop where
  failing : ∀ error, clause.eval database scope = .error error →
    Misapplied database clause scope ∧ cause
  seen : ∀ column value, equality? clause = some (column, value) →
    ∃ cell, scope.get column = .ok cell

theorem Guarded.weaken {cause' : Prop} (guarded : Guarded database scope cause clause)
    (weaker : cause → cause') : Guarded database scope cause' clause :=
  ⟨fun error failed => ⟨(guarded.failing error failed).1, weaker (guarded.failing error failed).2⟩,
    guarded.seen⟩

theorem guarded_of_other (other : equality? clause = none)
    (failing : ∀ error, clause.eval database scope = .error error →
      Misapplied database clause scope ∧ cause) : Guarded database scope cause clause := by
  refine ⟨failing, fun column value equal => ?_⟩
  rw [other] at equal
  cases equal

theorem guarded_of_ok (truth : Truth) (other : equality? clause = none)
    (evaluated : clause.eval database scope = .ok truth) : Guarded database scope cause clause := by
  refine guarded_of_other other fun error failed => ?_
  rw [evaluated] at failed
  cases failed

theorem all_guarded (each : ∀ clause ∈ clauses, ∀ error, clause.eval database scope = .error error →
      Misapplied database clause scope ∧ cause) :
    Guarded database scope cause (.all clauses) := by
  refine guarded_of_other rfl fun error failed => ?_
  obtain ⟨before, clause, after, rfl, passed, failed⟩ := (evalAll_error_iff clauses error).mp failed
  have member : clause ∈ before ++ clause :: after :=
    List.mem_append_right before List.mem_cons_self
  obtain ⟨misapplied, found⟩ := each clause member error failed
  exact ⟨.all passed misapplied, found⟩

theorem any_guarded (each : ∀ clause ∈ clauses, ∀ error, clause.eval database scope = .error error →
      Misapplied database clause scope ∧ cause) :
    Guarded database scope cause (.any clauses) := by
  refine guarded_of_other rfl fun error failed => ?_
  obtain ⟨before, clause, after, rfl, passed, failed⟩ := (evalAny_error_iff clauses error).mp failed
  have member : clause ∈ before ++ clause :: after :=
    List.mem_append_right before List.mem_cons_self
  obtain ⟨misapplied, found⟩ := each clause member error failed
  exact ⟨.any passed misapplied, found⟩

theorem anyOf_guarded (each : ∀ clause ∈ clauses, Guarded database scope cause clause) :
    Guarded database scope cause (.anyOf clauses) := by
  unfold Clause.anyOf
  split
  · exact each _ List.mem_cons_self
  · exact any_guarded fun clause member => (each clause member).failing

theorem not_guarded (inner : Guarded database scope cause clause) :
    Guarded database scope cause (.not clause) := by
  refine guarded_of_other rfl fun error failed => ?_
  obtain ⟨misapplied, found⟩ := inner.failing error ((not_error_iff clause error).mp failed)
  exact ⟨.not misapplied, found⟩

theorem oneOf_guarded {column : Column} {cell : Cell} (values : List Cell)
    (found : scope.get column = .ok cell) :
    Guarded database scope cause (.condition (.oneOf column values)) := by
  have evaluated : Clause.eval database (.condition (.oneOf column values)) scope =
      if values.isEmpty then .ok .no
      else if cell.isNull then .ok .unknown
      else .ok (.ofBool (values.any fun other => cell.compare? other = some .eq)) := by
    simp only [Clause.eval, Condition.eval, found]
    rfl
  refine guarded_of_other rfl fun error failed => ?_
  rw [evaluated] at failed
  split at failed
  · cases failed
  · split at failed <;> cases failed

theorem anyClause_guarded (each : ∀ clause ∈ clauses, Guarded database scope cause clause) :
    Guarded database scope cause (anyClause clauses) := by
  refine anyOf_guarded fun clause member => ?_
  rcases mem_mergeEqualities member with ⟨given, _⟩ | ⟨column, among, rfl⟩
  · exact each clause given
  · obtain ⟨⟨_, value⟩, inside, rfl⟩ := List.mem_map.mp among
    obtain ⟨clause, given, equal⟩ := mem_equalities.mp inside
    obtain ⟨cell, found⟩ := (each clause given).seen _ _ equal
    exact oneOf_guarded _ found

theorem compare_guarded {column : Column} {cell : Cell} (comparison : Filter.Comparison)
    (value : Cell) (found : scope.get column = .ok cell) :
    Guarded database scope cause (.condition (.compare column comparison.symbol (.cell value))) := by
  refine ⟨fun error failed => ?_, fun column' value' equal => ?_⟩
  · rw [comparison_eval comparison value found] at failed
    cases failed
  · have shape := equality_shape equal
    simp only [Clause.condition.injEq, Condition.compare.injEq] at shape
    exact ⟨cell, shape.1 ▸ found⟩

theorem columns_guarded {left right : Column} {one other : Cell} (comparison : Filter.Comparison)
    (lefts : scope.get left = .ok one) (rights : scope.get right = .ok other) :
    Guarded database scope cause
      (.condition (.compare left comparison.symbol (.column right))) := by
  have compared := compareCells_eq one other comparison
  refine guarded_of_ok (one.meets comparison other) rfl ?_
  simp only [Clause.eval, Condition.eval, lefts, rights, bind, Except.bind, compared]

theorem isNull_guarded {column : Column} {cell : Cell} (found : scope.get column = .ok cell) :
    Guarded database scope cause (.condition (.isNull column)) := by
  refine guarded_of_ok (.ofBool cell.isNull) rfl ?_
  simp only [Clause.eval, Condition.eval, found]
  rfl

theorem like_guarded {column : Column} {cell : Cell} (pattern : String) (ignoreCase : Bool)
    (found : scope.get column = .ok cell) (other : cell.isTextual = false → cause) :
    Guarded database scope cause (.condition (.like column pattern ignoreCase)) := by
  refine guarded_of_other rfl fun error failed => ?_
  have strange : cell.isTextual = false := by
    simp only [Clause.eval, Condition.eval, found] at failed
    cases cell <;> first | rfl | cases failed
  exact ⟨.like found strange, other strange⟩

theorem search_guarded {column : Column} {cell : Cell} (query : String) (plain : Bool)
    (found : scope.get column = .ok cell) (other : cell.isTextual = false → cause) :
    Guarded database scope cause (.condition (.search column query plain)) := by
  refine guarded_of_other rfl fun error failed => ?_
  have strange : cell.isTextual = false := by
    simp only [Clause.eval, Condition.eval, found] at failed
    cases cell <;> first | rfl | cases failed
  exact ⟨.search found strange, other strange⟩

theorem related_guarded {tied : Tie} {joined : Table} {sub : String}
    {items : List TiedRow} {filter : Clause}
    (rows : TiedRows database tied joined sub scope items)
    (each : ∀ row ∈ joined.rows, ∀ scope : Scope, scope.Binds sub joined (joined.record row) →
      Guarded database scope cause filter) :
    Guarded database scope cause (.existing joined.name sub tied.joins
      (.allOf [.condition tied.condition, filter])) := by
  refine guarded_of_other rfl fun error failed => ?_
  obtain ⟨before, front, after, split, passed, failed⟩ :=
    (existing_error_iff rows.scanned _ error).mp failed
  have member : front ∈ items.map TiedRow.front := by
    rw [split]
    exact List.mem_append_right before List.mem_cons_self
  obtain ⟨item, among, rfl⟩ := List.mem_map.mp member
  obtain ⟨inside, bound⟩ := rows.bound item among
  have guarded : Guarded database (item.front ++ scope) cause
      (.all [.condition tied.condition, filter]) := by
    refine all_guarded fun clause member error failed => ?_
    rcases List.mem_cons.mp member with rfl | member
    · rw [rows.tied item among] at failed
      cases failed
    · cases List.mem_singleton.mp member
      exact (each item.row inside _ bound).failing error failed
  obtain ⟨misapplied, found⟩ := guarded.failing error failed
  exact ⟨.existing (split ▸ rows.scanned) passed misapplied, found⟩

end

section

variable {schema : Schema} {database : Database}

theorem guarded_mem {scope : Scope} {clauses : List Clause} {predicates : List Predicate}
    {causes : Predicate → Prop} {cause : Prop}
    (each : List.Forall₂ (fun clause predicate => Guarded database scope (causes predicate) clause)
      clauses predicates)
    (weaker : ∀ predicate ∈ predicates, causes predicate → cause) :
    ∀ clause ∈ clauses, Guarded database scope cause clause := by
  intro clause member
  obtain ⟨predicate, among, guarded⟩ := mem_of_forall₂ each member
  exact guarded.weaken (weaker predicate among)

theorem textual_of_text {cell : Cell} (taken : ColumnType.text.takes cell) :
    cell.isTextual = true := by
  rcases taken with rfl | kind
  · rfl
  · cases cell <;> first | rfl | cases kind

theorem strange_field {type : EntityType} {table : Table} {name : String} {field : Field}
    (known : type ∈ schema.types) (found : database.table? (tableName type) = some table) {row : Row}
    (member : row ∈ table.rows) (named : type.field? name = some field)
    (strange : (table.record row (columnName name)).isTextual = false)
    (typed : FieldsTyped schema database) : columnType field.type ≠ .text := by
  intro textual
  obtain ⟨own, rfl⟩ := field_known named
  have inside : table.record row ∈ database.records (tableName type) := by
    rw [records_of_table found]
    exact List.mem_map_of_mem member
  have taken := typed type known _ inside field own
  rw [textual] at taken
  rw [textual_of_text taken] at strange
  cases strange

/-- Every accepted predicate compiles, to a clause that fails on a row of the type's table only where a
pattern or a search is misapplied. -/
theorem accepted_compiles (shaped : Shaped schema database) (distinct : schema.ColumnsDistinct)
    {type : EntityType} {predicate : Predicate} (accepted : predicate.Accepted schema type)
    (known : type ∈ schema.types) (name : String) (next : Nat) :
    Compiles schema database type name next predicate fun _ scope =>
      Guarded database scope (FieldsTyped schema database → predicate.Strained schema type) := by
  induction accepted generalizing name next with
  | @all type predicates _ ih =>
      refine all_compiles (fun predicate member later _ => ih predicate member known name later)
        fun record scope clauses guarded => ?_
      have each := guarded_mem guarded
        fun predicate inside cause typed => Predicate.Strained.all inside (cause typed)
      exact all_guarded fun clause member => (each clause member).failing
  | @any type predicates _ ih =>
      refine any_compiles (fun predicate member later _ => ih predicate member known name later)
        fun record scope clauses guarded => ?_
      exact anyClause_guarded (guarded_mem guarded
        fun predicate inside cause typed => Predicate.Strained.any inside (cause typed))
  | @not type predicate _ ih =>
      exact not_compiles (ih known name next) fun record scope clause guarded =>
        (not_guarded guarded).weaken fun cause typed => .not (cause typed)
  | @compareValue type field fieldOf comparison value named =>
      refine leaf_compiles (.compare (fieldColumn name field) comparison.symbol
        (.cell (cellOf value))) ?_ fun table found row member scope bound => ?_
      · simp only [clauseOf, memberColumn_ok named, bind, Except.bind]
      · exact compare_guarded comparison (cellOf value)
          (bound _ (shaped.field distinct known found named))
  | @compareField type field other fieldOf fieldOf' comparison named named' =>
      refine leaf_compiles (.compare (fieldColumn name field) comparison.symbol
        (.column (fieldColumn name other))) ?_ fun table found row member scope bound => ?_
      · simp only [clauseOf, memberColumn_ok named, memberColumn_ok named', Except.map, bind,
          Except.bind]
      · exact columns_guarded comparison (bound _ (shaped.field distinct known found named))
          (bound _ (shaped.field distinct known found named'))
  | @oneOf type field fieldOf values named =>
      refine leaf_compiles (.oneOf (fieldColumn name field) (values.map cellOf)) ?_
        fun table found row member scope bound => ?_
      · simp only [clauseOf, memberColumn_ok named, bind, Except.bind]
      · exact oneOf_guarded _ (bound _ (shaped.field distinct known found named))
  | @like type field fieldOf pattern ignoreCase named =>
      refine leaf_compiles (.like (fieldColumn name field) pattern ignoreCase) ?_
        fun table found row member scope bound => ?_
      · simp only [clauseOf, memberColumn_ok named, bind, Except.bind]
      · exact like_guarded pattern ignoreCase (bound _ (shaped.field distinct known found named))
          fun strange typed => .like named (strange_field known found member named strange typed)
  | @isNull type field fieldOf named =>
      refine leaf_compiles (.isNull (fieldColumn name field)) ?_
        fun table found row member scope bound => ?_
      · simp only [clauseOf, memberColumn_ok named, bind, Except.bind]
      · exact isNull_guarded (bound _ (shaped.field distinct known found named))
  | @search type field fieldOf query plain named =>
      refine leaf_compiles (.search (fieldColumn name field) query plain) ?_
        fun table found row member scope bound => ?_
      · simp only [clauseOf, memberColumn_ok named, bind, Except.bind]
      · exact search_guarded query plain (bound _ (shaped.field distinct known found named))
          fun strange typed => .search named (strange_field known found member named strange typed)
  | @related type target relation relationship predicate reached _ ih =>
      obtain ⟨own, leads, known', same⟩ := findRelationship_ok reached
      refine related_compiles reached (fun later _ => ih known' s!"sub_{next}" later)
        fun filter guarded table found row member scope bound => ?_
      obtain ⟨joined, joinedFound, _, _⟩ := shaped.entities target known'
      obtain ⟨items, rows⟩ := related_rows_exist shaped distinct known own leads known' same next
        found bound joinedFound
      have whole := related_guarded rows fun row inside scope bound =>
        guarded joined joinedFound row inside scope bound
      rw [Database.table?_name joinedFound] at whole
      exact whole.weaken fun cause typed => .related reached (cause typed)

end

end ResourceServer
