import ResourceServer.Proofs.Execution
import ResourceServer.Proofs.Lookup
import ResourceServer.Proofs.OrderJoins
import ResourceServer.Proofs.Selection

/-! Queries by way of their rows: a window shows a stretch of what a query returns without it. -/

namespace ResourceServer

open ResourceServer.Store ResourceServer.Mapping
open ResourceServer.Filter (Predicate)
open ResourceServer.Paging (Window)
open ResourceServer.Sorting (OrderKey)

/-- The rows that a predicate selects, in an order: those of a type's table, with what the order joins to them,
that the predicate's clause holds of. -/
inductive Ranks (schema : Schema) (database : Database) (type : EntityType) (predicate : Predicate)
    (ordering : List OrderKey) (scopes : List Scope) : Prop
  | steps {filter : Clause} {joined : OrderJoins} {order : List SortColumn} {rows kept : List Scope}
      (compiled : filterClause schema type predicate = .ok filter)
      (sorted : sortColumns schema type ⟨[], []⟩ ordering = .ok (joined, order))
      (scanned : database.scan (tableName type) (tableName type) joined.joins = .ok rows)
      (tested : rows.filterM (Clause.meetsAll database [filter]) = .ok kept)
      (arranged : Select.sorted order kept = .ok scopes)

def Mapping.Query.shown (query : Query) (scopes : List Scope) : List Scope :=
  match query.window with
  | some window => (scopes.drop window.offset).take window.limit
  | none => scopes

def Reads (type : EntityType) (scope : Scope) (resource : Instance) : Prop :=
  ∃ row, Select.project scope [] (fieldColumns type (tableName type)) = .ok row ∧
    readRow type row = .ok resource

section

variable {schema : Schema} {type : EntityType} {query : Query} {connection : Connection}
  {resources : List Instance}

theorem run_ranks {database : Database} {results : List (Except StoreError Row)} :
    (∃ select, selectOf schema type query = .ok select ∧ select.run database = .ok results) ↔
      ∃ scopes, Ranks schema database type query.predicate query.ordering scopes ∧
        results = (query.shown scopes).map fun scope =>
          Select.project scope [] (fieldColumns type (tableName type)) := by
  have several : fieldColumns type (tableName type) ≠ [.count] := by
    simp [fieldColumns, EntityType.fields]
  constructor
  · rintro ⟨select, compiled, run⟩
    obtain ⟨filter, filtered, compiled⟩ := bind_ok compiled
    obtain ⟨⟨joins, order⟩, ordered, same⟩ := bind_ok compiled
    obtain ⟨⟨joined, order'⟩, sorted, same'⟩ := bind_ok ordered
    cases same'
    cases same
    obtain ⟨kept, matched, run⟩ := bind_ok run
    obtain ⟨rows, scanned, tested⟩ := bind_ok matched
    rw [if_neg several] at run
    obtain ⟨scopes, arranged, same⟩ := bind_ok run
    cases same
    refine ⟨scopes, .steps filtered sorted scanned tested arranged, ?_⟩
    unfold Query.shown
    cases query.window <;> rfl
  · rintro ⟨scopes, ⟨filtered, sorted, scanned, tested, arranged⟩, rfl⟩
    refine ⟨_, bind_of_ok filtered (bind_of_ok (bind_of_ok sorted rfl) rfl), ?_⟩
    refine bind_of_ok (bind_of_ok scanned tested) ?_
    rw [if_neg several]
    refine bind_of_ok arranged ?_
    unfold Query.shown
    cases query.window <;> rfl

theorem reads_iff {scopes : List Scope} :
    List.Forall₂ (Reads type) scopes resources ↔ ∃ rows : List Row,
      rows.map .ok = (scopes.map fun scope =>
          Select.project scope [] (fieldColumns type (tableName type))) ∧
        rows.mapM (readRow type) = .ok resources := by
  constructor
  · intro read
    induction read with
    | nil => exact ⟨[], rfl, rfl⟩
    | cons one _ ih =>
        obtain ⟨row, projected, first⟩ := one
        obtain ⟨rows, others, later⟩ := ih
        refine ⟨row :: rows, ?_, ?_⟩
        · rw [List.map_cons, List.map_cons, projected, others]
        · rw [List.mapM_cons, first, later]
          rfl
  · rintro ⟨rows, projected, read⟩
    rw [← List.forall₂_eq_eq_eq, List.forall₂_map_left_iff, List.forall₂_map_right_iff] at projected
    exact forall₂_comp projected.flip (mapM_forall₂ read) fun one other => ⟨_, one.symm, other⟩

theorem query_ok_iff :
    (execute (Mapping.query schema type query) connection).1 = .ok resources ↔
      ∃ scopes, Ranks schema connection.database type query.predicate query.ordering scopes ∧
        List.Forall₂ (Reads type) (query.shown scopes) resources := by
  constructor
  · intro run
    obtain ⟨select, _, selected, run⟩ := execute_bind_ok (Prod.ext run rfl)
    rw [execute_ofExcept] at selected
    obtain ⟨⟩ := congrArg Prod.snd selected
    obtain ⟨rows, _, listed, run⟩ := execute_bind_ok run
    rw [execute_ofExcept] at run
    obtain ⟨scopes, ranked, projected⟩ :=
      run_ranks.mp ⟨select, congrArg Prod.fst selected, execute_selectAll_ok listed⟩
    exact ⟨scopes, ranked, reads_iff.mpr ⟨rows, projected, congrArg Prod.fst run⟩⟩
  · rintro ⟨scopes, ranked, read⟩
    obtain ⟨rows, projected, all⟩ := reads_iff.mp read
    obtain ⟨select, compiled, run⟩ := run_ranks.mpr ⟨scopes, ranked, projected⟩
    have listed := execute_selectAll run
    unfold Mapping.query
    rw [execute_bind, execute_ofExcept, compiled]
    dsimp only
    rw [execute_bind]
    rcases outcome : execute (selectAll select) connection with ⟨result, after⟩
    rw [outcome] at listed
    cases listed
    dsimp only
    rw [execute_ofExcept, all]

theorem query_window {predicate : Predicate} {ordering : List OrderKey}
    (run : (execute (Mapping.query schema type { predicate, ordering }) connection).1 = .ok resources)
    (window : Window) :
    (execute (Mapping.query schema type { predicate, ordering, window := some window }) connection).1 =
      .ok ((resources.drop window.offset).take window.limit) := by
  obtain ⟨scopes, ranked, read⟩ := query_ok_iff.mp run
  exact query_ok_iff.mpr ⟨scopes, ranked, List.forall₂_take _ (List.forall₂_drop _ read)⟩

end

/-! A count takes its own way, without the joins of an order. It counts what a query in that order returns. -/

namespace Store

theorem anyM_succeeding {α ε : Type} {test other : α → Except ε Bool} {items : List α} {found : Bool}
    (each : ∀ item result, test item = .ok result → other item = .ok result)
    (run : items.anyM test = .ok found) : items.anyM other = .ok found := by
  induction items with
  | nil => exact run
  | cons item rest ih =>
      rw [List.anyM] at run ⊢
      obtain ⟨result, tested, run⟩ := bind_ok run
      refine bind_of_ok (each item result tested) ?_
      cases result with
      | true => exact run
      | false => exact ih run

theorem condition_front {condition : Condition} {scope : Scope} {truth : Truth}
    (evaluated : condition.eval scope = .ok truth) (rest : Scope) :
    condition.eval (scope ++ rest) = .ok truth := by
  cases condition with
  | compare left operator right =>
      obtain ⟨one, first, evaluated⟩ := bind_ok evaluated
      refine bind_of_ok (get_front first rest) ?_
      cases right with
      | cell value => exact evaluated
      | column column =>
          obtain ⟨other, second, compared⟩ := bind_ok evaluated
          exact bind_of_ok (get_front second rest) compared
  | _ =>
      obtain ⟨value, read, evaluated⟩ := bind_ok evaluated
      exact bind_of_ok (get_front read rest) evaluated

variable {database : Database}

mutual

theorem eval_front (rest : Scope) : ∀ (clause : Clause) {scope : Scope} {truth : Truth},
    clause.eval database scope = .ok truth → clause.eval database (scope ++ rest) = .ok truth
  | .all clauses, scope, truth, evaluated => by
      rw [Clause.eval] at evaluated ⊢
      exact evalAll_front rest clauses evaluated
  | .any clauses, scope, truth, evaluated => by
      rw [Clause.eval] at evaluated ⊢
      exact evalAny_front rest clauses evaluated
  | .not clause, scope, truth, evaluated => by
      rw [Clause.eval] at evaluated ⊢
      obtain ⟨inner, one, same⟩ := bind_ok evaluated
      exact bind_of_ok (eval_front rest clause one) same
  | .condition condition, scope, truth, evaluated => by
      rw [Clause.eval] at evaluated ⊢
      exact condition_front evaluated rest
  | .existing table rename joins filter, scope, truth, evaluated => by
      rw [Clause.eval] at evaluated ⊢
      obtain ⟨rows, scanned, evaluated⟩ := bind_ok evaluated
      obtain ⟨found, tested, same⟩ := bind_ok evaluated
      refine bind_of_ok scanned (bind_of_ok (anyM_succeeding (fun row result one => ?_) tested) same)
      obtain ⟨inner, evaluated, met⟩ := bind_ok one
      rw [← List.append_assoc]
      exact bind_of_ok (eval_front rest filter evaluated) met

theorem evalAll_front (rest : Scope) : ∀ (clauses : List Clause) {scope : Scope} {truth : Truth},
    Clause.evalAll database clauses scope = .ok truth →
      Clause.evalAll database clauses (scope ++ rest) = .ok truth
  | [], _, _, evaluated => evaluated
  | clause :: others, scope, truth, evaluated => by
      rw [Clause.evalAll] at evaluated ⊢
      obtain ⟨first, one, evaluated⟩ := bind_ok evaluated
      refine bind_of_ok (eval_front rest clause one) ?_
      cases first with
      | no => exact evaluated
      | _ =>
          obtain ⟨later, all, same⟩ := bind_ok evaluated
          exact bind_of_ok (evalAll_front rest others all) same

theorem evalAny_front (rest : Scope) : ∀ (clauses : List Clause) {scope : Scope} {truth : Truth},
    Clause.evalAny database clauses scope = .ok truth →
      Clause.evalAny database clauses (scope ++ rest) = .ok truth
  | [], _, _, evaluated => evaluated
  | clause :: others, scope, truth, evaluated => by
      rw [Clause.evalAny] at evaluated ⊢
      obtain ⟨first, one, evaluated⟩ := bind_ok evaluated
      refine bind_of_ok (eval_front rest clause one) ?_
      cases first with
      | yes => exact evaluated
      | _ =>
          obtain ⟨later, all, same⟩ := bind_ok evaluated
          exact bind_of_ok (evalAny_front rest others all) same

end

end Store

theorem misapplied_front {database : Database} {clause : Clause} {scope : Scope}
    (misapplied : Misapplied database clause scope) (rest : Scope) :
    Misapplied database clause (scope ++ rest) := by
  induction misapplied with
  | like read other => exact .like (get_front read rest) other
  | search read other => exact .search (get_front read rest) other
  | not _ ih => exact .not ih
  | all passed _ ih =>
      refine .all (fun other member => ?_) ih
      obtain ⟨truth, evaluated, undecided⟩ := passed other member
      exact ⟨truth, eval_front rest other evaluated, undecided⟩
  | any passed _ ih =>
      refine .any (fun other member => ?_) ih
      obtain ⟨truth, evaluated, undecided⟩ := passed other member
      exact ⟨truth, eval_front rest other evaluated, undecided⟩
  | @existing scope row table rename joins filter before after scanned passed _ ih =>
      refine .existing scanned (fun other member => ?_) (List.append_assoc .. ▸ ih)
      obtain ⟨truth, evaluated, undecided⟩ := passed other member
      exact ⟨truth, List.append_assoc other scope rest ▸ eval_front rest filter evaluated, undecided⟩

theorem Guarded.eval_back {database : Database} {clause : Clause} {scope rest : Scope} {cause : Prop}
    {truth : Truth} (guarded : Guarded database scope cause clause)
    (evaluated : clause.eval database (scope ++ rest) = .ok truth) :
    clause.eval database scope = .ok truth := by
  cases outcome : clause.eval database scope with
  | ok other =>
      have same := eval_front rest clause outcome
      rw [evaluated] at same
      exact same.symm
  | error error =>
      have misapplied := misapplied_front (guarded.failing error outcome).1 rest
      obtain ⟨_, failed⟩ := misapplied_fails misapplied
      rw [evaluated] at failed
      cases failed

theorem meetsAll_single (database : Database) (filter : Clause) (scope : Scope) :
    Clause.meetsAll database [filter] scope =
      (filter.eval database scope).map fun truth => decide (truth = .yes) := by
  unfold Clause.meetsAll
  cases filter.eval database scope with
  | error error => rfl
  | ok truth => cases truth <;> rfl

theorem meetsAll_ok {database : Database} {filter : Clause} {scope : Scope} {met : Bool}
    (tested : Clause.meetsAll database [filter] scope = .ok met) :
    ∃ truth, filter.eval database scope = .ok truth ∧ met = decide (truth = .yes) := by
  rw [meetsAll_single] at tested
  obtain ⟨truth, evaluated, same⟩ := map_ok tested
  exact ⟨truth, evaluated, same.symm⟩

section

variable {schema : Schema} {type : EntityType} {predicate : Predicate} {ordering : List OrderKey}
  {connection : Connection} {resources : List Instance}

/-- A query in an order along relationships that lead to one returns as many resources as a count says. -/
theorem query_counted (formed : schema.Formed) (distinct : schema.ColumnsDistinct)
    (shaped : Shaped schema connection.database) (known : type ∈ schema.types)
    (unsorted : Unsorted (tableName type) 1) (accepted : predicate.Accepted schema type)
    (leads : ∀ key ∈ ordering, LeadsOne schema connection.database type key.path)
    (run : (execute (Mapping.query schema type { predicate, ordering }) connection).1 =
      .ok resources) :
    (execute (Mapping.count schema type predicate) connection).1 = .ok resources.length := by
  obtain ⟨scopes, ⟨compiled, sorted, scanned, tested, arranged⟩, read⟩ := query_ok_iff.mp run
  rename_i clause joined order rows kept
  obtain ⟨table, found, _, wide⟩ := shaped.entities type known
  have alone : KeepsEach schema connection.database type table ⟨[], []⟩ _ :=
    keepsEach_alone found wide unsorted
  obtain ⟨⟨grown, keeps⟩, _⟩ := alone.order formed distinct shaped leads sorted
  cases keeps.scanned.symm.trans scanned
  obtain ⟨clause', _, compiles, _, guarded⟩ :=
    accepted_compiles shaped distinct accepted known (tableName type) 1
  have same : filterClause schema type predicate = .ok clause' := by
    unfold filterClause
    rw [compiles]
    rfl
  cases same.symm.trans compiled
  -- The clause has been evaluated on all joined rows, so it is evaluated on the rows alone.
  let meets (row : Row) : Truth :=
    truthOn connection.database (table.scope (tableName type) row) clause
  have evaluated : ∀ row scope, row ∈ table.rows ∧ scope ∈ rows ∧
      Widened schema connection.database type table joined row scope →
        Clause.meetsAll connection.database [clause] scope = .ok (decide (meets row = .yes)) ∧
          clause.eval connection.database (table.scope (tableName type) row) = .ok (meets row) := by
    intro row scope ⟨member, among, widened⟩
    obtain ⟨met, outcome⟩ : ∃ met, Clause.meetsAll connection.database [clause] scope = .ok met := by
      cases outcome : Clause.meetsAll connection.database [clause] scope with
      | error error =>
          obtain ⟨_, stopped⟩ := filterM_error among outcome
          rw [tested] at stopped
          cases stopped
      | ok met => exact ⟨met, rfl⟩
    obtain ⟨truth, evaluated, rfl⟩ := meetsAll_ok outcome
    obtain ⟨rest, rfl⟩ := widened.front
    have bound := scope_binds table (tableName type) row [] (wide row member)
    rw [List.append_nil] at bound
    have plain := (guarded table found row member _ bound).eval_back evaluated
    have same : meets row = truth := truthOn_eq plain
    rw [same]
    exact ⟨outcome, plain⟩
  have paired : List.Forall₂ (fun row scope => row ∈ table.rows ∧ scope ∈ rows ∧
      Widened schema connection.database type table joined row scope) table.rows rows := by
    refine (List.forall₂_and_left _ _).mpr ⟨fun row member => member, ?_⟩
    exact ((List.forall₂_and_left _ _).mpr ⟨fun scope member => member, keeps.rows.flip⟩).flip
  obtain ⟨remaining, passed, aligned⟩ :=
    filterM_forall₂ _ paired fun row scope one => (evaluated row scope one).1
  cases passed.symm.trans tested
  have counted := count_kept compiled found fun row member => by
    obtain ⟨scope, _, one⟩ := mem_of_forall₂ paired member
    exact (evaluated row scope one).2
  calc (execute (Mapping.count schema type predicate) connection).1
    _ = .ok (table.rows.filter fun row => meets row = .yes).length := counted
    _ = .ok kept.length := by rw [aligned.length_eq]
    _ = .ok scopes.length := by rw [(sorted_perm arranged).length_eq]
    _ = .ok resources.length := congrArg Except.ok read.length_eq

end

end ResourceServer
