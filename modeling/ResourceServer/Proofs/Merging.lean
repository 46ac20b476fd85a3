import ResourceServer.Proofs.Meaning

/-! Conditions on one column, and the merging of equalities into tests of membership. -/

namespace ResourceServer

open ResourceServer.Store ResourceServer.Mapping
open ResourceServer.Filter (Comparison)

namespace Store

theorem accepts_symbol (comparison : Comparison) (ordering : Ordering) :
    accepts? comparison.symbol ordering = some (comparison.accepts ordering) := by
  cases comparison <;> rfl

theorem compareCells_eq (left right : Cell) (comparison : Comparison) :
    compareCells left comparison.symbol right = .ok (left.meets comparison right) := by
  unfold compareCells Cell.meets
  cases left.compare? right with
  | none => rfl
  | some ordering =>
      dsimp only
      rw [accepts_symbol]

theorem agrees_iff_meets (left right : Cell) : left.agrees right ↔ left.meets .eq right = .yes := by
  unfold Cell.agrees Cell.meets
  cases left.compare? right with
  | none => decide
  | some ordering => cases ordering <;> decide

theorem meets_of_comparable {left right : Cell} (compares : (left.compare? right).isSome) :
    left.meets .eq right = .ofBool (left.agrees right) := by
  obtain ⟨ordering, found⟩ := Option.isSome_iff_exists.mp compares
  unfold Cell.meets Cell.agrees
  rw [found]
  cases ordering <;> rfl

end Store

def Suits (cell value : Cell) : Prop :=
  cell = .null ∨ (cell.compare? value).isSome

def Store.Cell.hits (cell value : Cell) : Truth :=
  if cell.isNull then .unknown else .ofBool (cell.agrees value)

theorem Suits.hits {cell value : Cell} (suits : Suits cell value) :
    cell.hits value = cell.meets .eq value := by
  rcases suits with rfl | compares
  · rfl
  · have given : cell.isNull = false := by
      cases cell <;> first | rfl | cases compares
    rw [meets_of_comparable compares, Cell.hits, given]
    rfl

theorem oneOf_eval {scope : Scope} {column : Column} {cell : Cell} (values : List Cell)
    (found : scope.get column = .ok cell) :
    Condition.eval (.oneOf column values) scope = .ok (Truth.any (values.map cell.hits)) := by
  have tested : Condition.eval (.oneOf column values) scope =
      if values.isEmpty then .ok .no
      else if cell.isNull then .ok .unknown
      else .ok (.ofBool (values.any cell.agrees)) := by
    simp only [Condition.eval, found]
    rfl
  rw [tested]
  cases values with
  | nil => rfl
  | cons first rest =>
      cases empty : cell.isNull with
      | true =>
          rw [Truth.any_unknown (by simp)]
          · rfl
          · simp [Cell.hits, empty]
      | false =>
          have each : cell.hits = fun value => .ofBool (cell.agrees value) := by
            funext value
            simp [Cell.hits, empty]
          rw [each, Truth.any_ofBool]
          rfl

theorem member_truth {scope : Scope} {column : Column} {cell : Cell} (values : List Cell)
    (found : scope.get column = .ok cell) (suited : ∀ value ∈ values, Suits cell value) :
    Condition.eval (.oneOf column values) scope =
      .ok (Truth.any (values.map fun value => cell.meets .eq value)) := by
  rw [oneOf_eval values found]
  congr 2
  exact List.map_congr_left fun value member => (suited value member).hits

theorem comparison_eval {database : Database} {scope : Scope} {column : Column} {cell : Cell} (comparison : Comparison)
    (value : Cell) (found : scope.get column = .ok cell) :
    Clause.eval database (.condition (.compare column comparison.symbol (.cell value))) scope =
      .ok (cell.meets comparison value) := by
  have compared := compareCells_eq cell value comparison
  simp only [Clause.eval, Condition.eval, found, bind, Except.bind, compared]

/-- A clause has a truth on a row, and if it is an equality, one with a suitable value. -/
structure Settled (database : Database) (scope : Scope) (clause : Clause) (truth : Truth) : Prop where
  eval : clause.eval database scope = .ok truth
  suited : ∀ column value, equality? clause = some (column, value) →
    ∃ cell, scope.get column = .ok cell ∧ Suits cell value

theorem settled_of_eval {database : Database} {scope : Scope} {clause : Clause} {truth : Truth}
    (eval : clause.eval database scope = .ok truth) (other : equality? clause = none) :
    Settled database scope clause truth := by
  refine ⟨eval, fun column value equal => ?_⟩
  rw [other] at equal
  cases equal

theorem equality_shape {clause : Clause} {column : Column} {value : Cell}
    (equal : equality? clause = some (column, value)) :
    clause = .condition (.compare column "=" (.cell value)) := by
  unfold equality? at equal
  split at equal
  · split at equal
    · rename_i same
      cases equal
      rw [same]
    · cases equal
  · cases equal

theorem mem_insertColumn (column other : Column) (columns : List Column) :
    other ∈ insertColumn column columns ↔ other = column ∨ other ∈ columns := by
  induction columns with
  | nil => simp [insertColumn]
  | cons first rest ih =>
      unfold insertColumn
      split
      · rename_i same
        subst same
        simp
      · split
        · simp
        · rw [List.mem_cons, ih, List.mem_cons]
          exact or_left_comm

theorem mem_inserted (columns : List Column) (column : Column) :
    column ∈ columns.foldr insertColumn [] ↔ column ∈ columns := by
  induction columns with
  | nil => rfl
  | cons first rest ih => rw [List.foldr_cons, mem_insertColumn, ih, List.mem_cons]

section Merging

variable {database : Database} {scope : Scope} {clauses : List Clause}

/-- The value of a column in scope, null if there is no such column. -/
def valueAt (scope : Scope) (column : Column) : Cell :=
  match scope.get column with
  | .ok cell => cell
  | .error _ => .null

def literals (clauses : List Clause) (column : Column) : List Cell :=
  (clauses.filterMap equality?).filterMap fun entry => if entry.1 = column then some entry.2 else none

def equalTruths (scope : Scope) (clauses : List Clause) (column : Column) : List Truth :=
  ((clauses.filterMap equality?).filterMap fun entry =>
    if entry.1 = column then some entry.2 else none).map fun value =>
      (valueAt scope column).meets .eq value

def membership (clauses : List Clause) (column : Column) : Clause :=
  .condition (.oneOf column ((clauses.filterMap equality?).filterMap fun entry =>
    if entry.1 = column then some entry.2 else none))

theorem mem_equalities {column : Column} {value : Cell} :
    (column, value) ∈ clauses.filterMap equality? ↔
      ∃ clause ∈ clauses, equality? clause = some (column, value) :=
  List.mem_filterMap

theorem mem_literals {column : Column} {value : Cell} :
    value ∈ literals clauses column ↔ (column, value) ∈ clauses.filterMap equality? := by
  constructor
  · intro member
    obtain ⟨entry, among, kept⟩ := List.mem_filterMap.mp member
    split at kept
    · rename_i same
      cases kept
      exact same ▸ among
    · cases kept
  · intro member
    exact List.mem_filterMap.mpr ⟨_, member, if_pos rfl⟩

theorem valueAt_eq {column : Column} {cell : Cell} (found : scope.get column = .ok cell) :
    valueAt scope column = cell := by
  simp [valueAt, found]

theorem membership_eval (suited : ∀ clause ∈ clauses, ∀ column value,
      equality? clause = some (column, value) →
        ∃ cell, scope.get column = .ok cell ∧ Suits cell value)
    {column : Column} (member : column ∈ (clauses.filterMap equality?).map (·.1)) :
    (membership clauses column).eval database scope =
      .ok (Truth.any (equalTruths scope clauses column)) := by
  have suits : ∀ value, (column, value) ∈ clauses.filterMap equality? →
      scope.get column = .ok (valueAt scope column) ∧ Suits (valueAt scope column) value := by
    intro value inside
    obtain ⟨clause, given, equal⟩ := mem_equalities.mp inside
    obtain ⟨cell, found, suit⟩ := suited clause given column value equal
    rw [valueAt_eq found]
    exact ⟨found, suit⟩
  obtain ⟨⟨_, value⟩, inside, rfl⟩ := List.mem_map.mp member
  exact member_truth _ (suits value inside).1 fun other kept => (suits other (mem_literals.mp kept)).2

def truthOn (database : Database) (scope : Scope) (clause : Clause) : Truth :=
  match clause.eval database scope with
  | .ok truth => truth
  | .error _ => .no

theorem truthOn_eq {clause : Clause} {truth : Truth}
    (eval : clause.eval database scope = .ok truth) : truthOn database scope clause = truth := by
  unfold truthOn
  rw [eval]

theorem settled_truths {truths : List Truth}
    (each : List.Forall₂ (Settled database scope) clauses truths) :
    truths = clauses.map (truthOn database scope) ∧
      ∀ clause ∈ clauses, Settled database scope clause (truthOn database scope clause) := by
  induction each with
  | nil => exact ⟨rfl, nofun⟩
  | cons settled _ ih =>
      have same := truthOn_eq settled.eval
      refine ⟨by rw [List.map_cons, same, ih.1], fun clause member => ?_⟩
      rcases List.mem_cons.mp member with rfl | inside
      · rw [same]
        exact settled
      · exact ih.2 clause inside

theorem mem_mergeEqualities {clause : Clause} (member : clause ∈ mergeEqualities clauses) :
    clause ∈ clauses ∧ equality? clause = none ∨
      ∃ column ∈ (clauses.filterMap equality?).map (·.1), clause = membership clauses column := by
  rcases List.mem_append.mp member with kept | test
  · obtain ⟨given, other⟩ := List.mem_filter.mp kept
    exact .inl ⟨given, Option.isNone_iff_eq_none.mp other⟩
  · obtain ⟨column, among, rfl⟩ := List.mem_map.mp test
    exact .inr ⟨column, (mem_inserted _ _).mp among, rfl⟩

/-- Whatever truths are given to the clauses, merging keeps their disjunction if each test of membership is
given the disjunction of its equalities. -/
theorem merged_any (given : Clause → Truth) (equal : Column → Cell → Truth)
    (shaped : ∀ clause ∈ clauses, ∀ column value, equality? clause = some (column, value) →
      given clause = equal column value)
    (tested : ∀ column ∈ (clauses.filterMap equality?).map (·.1),
      given (membership clauses column) = Truth.any ((literals clauses column).map (equal column))) :
    Truth.any ((mergeEqualities clauses).map given) = Truth.any (clauses.map given) := by
  have grouped : (mergeEqualities clauses).map given =
      (clauses.filter fun clause => (equality? clause).isNone).map given ++
        ((((clauses.filterMap equality?).map (·.1)).foldr insertColumn []).map fun column =>
          (literals clauses column).map (equal column)).map Truth.any := by
    rw [mergeEqualities, List.map_append, List.map_map, List.map_map]
    congr 1
    exact List.map_congr_left fun column among => tested column ((mem_inserted _ _).mp among)
  rw [grouped, Truth.any_append, Truth.any_flatten, ← Truth.any_append]
  apply Truth.any_congr
  intro truth
  constructor
  · intro member
    rcases List.mem_append.mp member with kept | test
    · obtain ⟨clause, inside, rfl⟩ := List.mem_map.mp kept
      exact List.mem_map_of_mem (List.mem_filter.mp inside).1
    · obtain ⟨group, groups, inside⟩ := List.mem_flatten.mp test
      obtain ⟨column, _, rfl⟩ := List.mem_map.mp groups
      obtain ⟨value, among, rfl⟩ := List.mem_map.mp inside
      obtain ⟨clause, named, shape⟩ := mem_equalities.mp (mem_literals.mp among)
      exact List.mem_map.mpr ⟨clause, named, shaped clause named column value shape⟩
  · intro member
    obtain ⟨clause, named, rfl⟩ := List.mem_map.mp member
    cases shape : equality? clause with
    | none =>
        apply List.mem_append_left
        exact List.mem_map_of_mem (List.mem_filter.mpr ⟨named, by simp [shape]⟩)
    | some entry =>
        have among := mem_equalities.mpr ⟨clause, named, shape⟩
        have column := (mem_inserted _ _).mpr (List.mem_map_of_mem (f := Prod.fst) among)
        apply List.mem_append_right
        apply List.mem_flatten_of_mem (List.mem_map_of_mem column)
        rw [shaped clause named _ _ shape]
        exact List.mem_map_of_mem (mem_literals.mpr among)

theorem mergeEqualities_any
    (each : ∀ clause ∈ clauses, Settled database scope clause (truthOn database scope clause)) :
    Truth.any ((mergeEqualities clauses).map (truthOn database scope)) =
      Truth.any (clauses.map (truthOn database scope)) := by
  have suited := fun clause member => (each clause member).suited
  apply merged_any _ fun column value => (valueAt scope column).meets .eq value
  · intro clause member column value shape
    obtain ⟨cell, found, _⟩ := suited clause member column value shape
    rw [equality_shape shape, valueAt_eq found]
    exact truthOn_eq (comparison_eval .eq value found)
  · intro column among
    exact truthOn_eq (membership_eval suited among)

theorem anyClause_settled {truths : List Truth}
    (each : List.Forall₂ (Settled database scope) clauses truths) :
    Settled database scope (anyClause clauses) (Truth.any truths) := by
  obtain ⟨rfl, settled⟩ := settled_truths each
  have merged : ∀ clause ∈ mergeEqualities clauses,
      clause.eval database scope = .ok (truthOn database scope clause) := by
    intro clause member
    rcases mem_mergeEqualities member with ⟨given, _⟩ | ⟨column, among, rfl⟩
    · exact (settled clause given).eval
    · have tested : (membership clauses column).eval database scope =
          .ok (Truth.any (equalTruths scope clauses column)) :=
        membership_eval (fun clause member => (settled clause member).suited) among
      rw [truthOn_eq tested]
      exact tested
  refine settled_of_eval ?_ ?_
  · rw [← mergeEqualities_any settled]
    exact Clause.anyOf_eval (truthOn database scope) merged
  · unfold anyClause
    cases shape : mergeEqualities clauses with
    | nil => rfl
    | cons first rest =>
        cases rest with
        | nil =>
            have member : first ∈ mergeEqualities clauses := by
              rw [shape]
              exact List.mem_cons_self
            rcases mem_mergeEqualities member with ⟨_, other⟩ | ⟨column, _, rfl⟩
            · exact other
            · rfl
        | cons second others => rfl

theorem allClause_settled {truths : List Truth}
    (each : List.Forall₂ (Settled database scope) clauses truths) :
    Settled database scope (.all clauses) (Truth.all truths) := by
  obtain ⟨rfl, settled⟩ := settled_truths each
  exact settled_of_eval (Clause.evalAll_eq _ _ fun clause member => (settled clause member).eval) rfl

end Merging

end ResourceServer
