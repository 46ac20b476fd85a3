import ResourceServer.Proofs.Merging

/-! Rows of one table joined with those of another, and subqueries that ask for one of them. -/

namespace ResourceServer.Store

open ResourceServer.Filter (Comparison)

theorem Row.fits_length {row : Row} {columns : List ColumnDefinition} (fit : row.fits columns) :
    row.length = columns.length :=
  fit.length_eq.symm

theorem matching_eq {join : Join} {table : Table} {scope : Scope} {rows : List Row}
    (left right : Row → Cell) (equal : join.operator = "=")
    (lefts : ∀ row ∈ rows, Scope.get (scope ++ table.scope join.rename row) join.left = .ok (left row))
    (rights : ∀ row ∈ rows,
      Scope.get (scope ++ table.scope join.rename row) join.right = .ok (right row)) :
    join.matching table scope rows =
      .ok ((rows.filter fun row => (left row).agrees (right row)).map fun row =>
        scope ++ table.scope join.rename row) := by
  induction rows with
  | nil => rfl
  | cons row rest ih =>
      have later := ih (fun other inside => lefts other (List.mem_cons_of_mem _ inside))
        fun other inside => rights other (List.mem_cons_of_mem _ inside)
      have compared : compareCells (left row) join.operator (right row) =
          .ok ((left row).meets .eq (right row)) := by
        rw [equal]
        exact compareCells_eq (left row) (right row) .eq
      unfold Join.matching
      simp only [lefts row List.mem_cons_self, rights row List.mem_cons_self, later, bind, Except.bind,
        compared]
      have same := agrees_iff_meets (left row) (right row)
      cases found : (left row).agrees (right row) <;> simp [found, ← same]

theorem extend_inner {join : Join} {table : Table} {scope : Scope} (inner : join.kind = .inner) :
    join.extend table scope = join.matching table scope table.rows := by
  unfold Join.extend
  rw [inner]
  cases join.matching table scope table.rows with
  | error error => rfl
  | ok joined => simp [bind, Except.bind]

theorem table_ok {database : Database} {name : String} {table : Table}
    (found : database.table? name = some table) : database.table name = .ok table := by
  unfold Database.table
  rw [found]

theorem records_of_table {database : Database} {name : String} {table : Table}
    (found : database.table? name = some table) : database.records name = table.records := by
  unfold Database.records
  rw [found]
  rfl

/-- The rows of a table by itself. -/
theorem scan_alone {database : Database} {name : String} {table : Table} (rename : String)
    (found : database.table? name = some table) :
    database.scan name rename [] = .ok (table.rows.map (table.scope rename)) := by
  unfold Database.scan
  rw [table_ok found]
  rfl

theorem scan_join {database : Database} {name : String} {table joined : Table} (rename : String)
    (join : Join) (found : database.table? name = some table)
    (other : database.table? join.table = some joined) (inner : join.kind = .inner)
    (equal : join.operator = "=") (left right : Row → Row → Cell)
    (lefts : ∀ row ∈ table.rows, ∀ pair ∈ joined.rows,
      Scope.get (table.scope rename row ++ joined.scope join.rename pair) join.left =
        .ok (left row pair))
    (rights : ∀ row ∈ table.rows, ∀ pair ∈ joined.rows,
      Scope.get (table.scope rename row ++ joined.scope join.rename pair) join.right =
        .ok (right row pair)) :
    database.scan name rename [join] =
      .ok (table.rows.flatMap fun row =>
        (joined.rows.filter fun pair => (left row pair).agrees (right row pair)).map fun pair =>
          table.scope rename row ++ joined.scope join.rename pair) := by
  have extended : (table.rows.map (table.scope rename)).mapM (join.extend joined) =
      .ok (table.rows.map fun row =>
        (joined.rows.filter fun pair => (left row pair).agrees (right row pair)).map fun pair =>
          table.scope rename row ++ joined.scope join.rename pair) := by
    rw [List.mapM_map]
    refine mapM_ok _ fun row member => ?_
    rw [Function.comp_apply, extend_inner inner]
    exact matching_eq (left row) (right row) equal (lefts row member) (rights row member)
  unfold Database.scan
  rw [table_ok found]
  simp only [bind, Except.bind, List.foldlM_cons, List.foldlM_nil, pure, Except.pure]
  unfold Join.apply
  rw [table_ok other]
  simp only [bind, Except.bind, extended]
  rw [List.flatMap_def]

/-- A subquery holds if its filter holds on one of its rows. -/
theorem existing_eval {α : Type} {database : Database} {scope : Scope} {name rename : String}
    {joins : List Join} {filter : Clause} {items : List α} (place : α → Scope) (holds : α → Bool)
    (scanned : database.scan name rename joins = .ok (items.map place))
    (each : ∀ item ∈ items, ∃ truth, filter.eval database (place item ++ scope) = .ok truth ∧
      decide (truth = .yes) = holds item) :
    Clause.eval database (.existing name rename joins filter) scope =
      .ok (Truth.ofBool (items.any holds)) := by
  have found : ((items.map place).anyM fun row => do
      return decide ((← filter.eval database (row ++ scope)) = .yes) : Except StoreError Bool) =
      .ok (items.any holds) := by
    refine anyM_map_ok holds fun item member => ?_
    obtain ⟨truth, evaluated, same⟩ := each item member
    rw [evaluated, ← same]
    rfl
  unfold Clause.eval
  rw [scanned]
  simp only [bind, Except.bind] at found ⊢
  rw [found]
  rfl

end ResourceServer.Store
