import ResourceServer.Proofs.Arrangement
import ResourceServer.Proofs.Together

/-! Queries on two databases that differ only in values that the queries do not test: they find the same rows, but
for such values. -/

namespace ResourceServer.Store

abbrev Cover := String → String → Cell → Cell → Prop

abbrev Veil := Column → Cell → Cell → Prop

namespace Veil

/-- All values of a column are told apart. Its table is named. -/
structure Open (veil : Veil) (column : Column) : Prop where
  named : column.table.isSome
  uncovered : ∀ cell other, ¬veil column cell other

def or (veil other : Veil) : Veil :=
  fun column cell cell' => veil column cell cell' ∨ other column cell cell'

def Same (veil : Veil) (column : Column) (cell other : Cell) : Prop :=
  cell = other ∨ veil column cell other

theorem Open.eq {veil : Veil} {column : Column} (shown : veil.Open column) {cell other : Cell}
    (same : veil.Same column cell other) : cell = other :=
  same.resolve_right (shown.uncovered cell other)

end Veil

def sourcesOf (table rename : String) (joins : List Join) : List (String × String) :=
  (rename, table) :: joins.map fun join => (join.rename, join.table)

theorem alone_distinct (table : String) : ((sourcesOf table table []).map Prod.fst).Nodup :=
  List.nodup_singleton table

def Cover.among (cover : Cover) (sources : List (String × String)) : Veil := fun column cell other =>
  ∃ source ∈ sources, column.table = some source.1 ∧ cover source.2 column.name cell other

def Scope.Like (veil : Veil) : Scope → Scope → Prop :=
  List.Forall₂ fun entry other => entry.1 = other.1 ∧ veil.Same entry.1 entry.2 other.2

def Row.Like (hides : String → Cell → Cell → Prop) (columns : List ColumnDefinition) (row other : Row) : Prop :=
  List.Forall₂ (fun entry other : ColumnDefinition × Cell =>
    entry.1 = other.1 ∧ (entry.2 = other.2 ∨ hides entry.1.name entry.2 other.2))
    (columns.zip row) (columns.zip other)

/-- Tables of the same columns with rows that are like each other. -/
structure Table.Like (hides : String → Cell → Cell → Prop) (table other : Table) : Prop where
  columns : other.columns = table.columns
  rows : List.Forall₂ (Row.Like hides table.columns) table.rows other.rows

def Database.Like (cover : Cover) (left right : Database) : Prop :=
  ∀ name, Option.Rel (Table.Like (cover name)) (left.table? name) (right.table? name)

section

variable {veil : Veil} {scope scope' : Scope} {cover : Cover} {table table' : Table} {rename : String}

theorem Scope.Like.get (like : scope.Like veil scope') {column : Column} (named : column.table.isSome) :
    Together (veil.Same column) (scope.get column) (scope'.get column) := by
  have meant {other : Column} : isMeant column other = true ↔ other = column := by
    unfold isMeant
    cases given : column.table with
    | none => simp [given] at named
    | some _ => exact decide_eq_true_iff
  induction like with
  | nil => exact .error _
  | @cons entry other rest rest' one _ ih =>
      obtain ⟨same, values⟩ := one
      unfold Scope.get at ih ⊢
      rw [List.find?_cons, List.find?_cons, ← same]
      by_cases this : isMeant column entry.1 = true
      · rw [this]
        exact .ok (meant.mp this ▸ values)
      · rw [Bool.eq_false_iff.mpr this]
        exact ih

theorem Scope.Like.get_open (like : scope.Like veil scope') {column : Column} (shown : veil.Open column) :
    scope.get column = scope'.get column :=
  ((like.get shown.named).mono fun _ _ same => shown.eq same).eq

theorem Scope.Like.append {front front' : Scope} (like : front.Like veil front')
    (rest : scope.Like veil scope') : Scope.Like veil (front ++ scope) (front' ++ scope') :=
  List.rel_append like rest

theorem Scope.Like.mono {weaker : Veil} (like : scope.Like veil scope')
    (weaken : ∀ column cell other, veil column cell other → weaker column cell other) :
    scope.Like weaker scope' :=
  List.Forall₂.imp (fun _ _ one => ⟨one.1, one.2.imp_right (weaken _ _ _)⟩) like

theorem Row.Like.named {hides : String → Cell → Cell → Prop} {row row' : Row}
    (like : Row.Like hides table.columns row row') (same : table'.columns = table.columns)
    (covers : ∀ name cell other, hides name cell other → veil (.ofTable rename name) cell other) :
    Scope.Like veil (table.scope rename row) (table'.scope rename row') := by
  unfold Table.scope Scope.Like
  rw [same, List.zip_map_left, List.zip_map_left, List.forall₂_map_left_iff, List.forall₂_map_right_iff]
  refine List.Forall₂.imp (fun entry other one => ?_) like
  obtain ⟨column, values⟩ := one
  exact ⟨by simp [column], values.imp_right (covers _ _ _)⟩

def Veil.Covers (veil : Veil) (cover : Cover) (rename table : String) : Prop :=
  ∀ name cell other, cover table name cell other → veil (.ofTable rename name) cell other

/-- A join that compares columns whose values are told apart, of a table that is veiled. -/
structure Join.Shuns (join : Join) (cover : Cover) (veil : Veil) : Prop where
  left : veil.Open join.left
  right : veil.Open join.right
  covers : veil.Covers cover join.rename join.table

variable {join : Join} (shuns : join.Shuns cover veil)
include shuns

theorem matching_like {hides : String → Cell → Cell → Prop} (covers : hides = cover join.table)
    (same : table'.columns = table.columns) {rows rows' : List Row}
    (aligned : List.Forall₂ (Row.Like hides table.columns) rows rows') (like : scope.Like veil scope') :
    Together (List.Forall₂ (Scope.Like veil)) (join.matching table scope rows)
      (join.matching table' scope' rows') := by
  subst covers
  induction aligned with
  | nil => exact .ok .nil
  | cons one _ ih =>
      have joined := like.append (Row.Like.named one same (shuns.covers))
      unfold Join.matching
      dsimp only
      rw [joined.get_open shuns.left, joined.get_open shuns.right]
      refine (Together.refl _).bind ?_
      rintro left _ rfl
      refine (Together.refl _).bind ?_
      rintro right _ rfl
      refine (Together.refl _).bind ?_
      rintro truth _ rfl
      refine ih.bind fun others others' found => .ok ?_
      split
      · exact .cons joined found
      · exact found

theorem extend_like (tables : Table.Like (cover join.table) table table') (like : scope.Like veil scope') :
    Together (List.Forall₂ (Scope.Like veil)) (join.extend table scope) (join.extend table' scope') := by
  unfold Join.extend
  refine (matching_like shuns rfl tables.columns tables.rows like).bind fun joined joined' found => ?_
  have nulls : Row.Like (cover join.table) table.columns (List.replicate table.columns.length .null)
      (List.replicate table.columns.length .null) :=
    List.forall₂_same.mpr fun _ _ => ⟨rfl, .inl rfl⟩
  have empty : joined.isEmpty = joined'.isEmpty := by
    cases found <;> rfl
  rw [empty]
  split
  · rw [tables.columns]
    exact .ok (.cons (like.append (Row.Like.named nulls tables.columns shuns.covers)) .nil)
  · exact .ok found

theorem apply_like {left right : Database} (like : left.Like cover right) {scopes scopes' : List Scope}
    (aligned : List.Forall₂ (Scope.Like veil) scopes scopes') :
    Together (List.Forall₂ (Scope.Like veil)) (join.apply left scopes) (join.apply right scopes') := by
  have reached := like join.table
  unfold Join.apply Database.table
  generalize left.table? join.table = found, right.table? join.table = found' at reached
  cases reached with
  | none => exact .error _
  | some tables =>
      exact (Together.mapM aligned fun _ _ => extend_like shuns tables).bind fun _ _ extended =>
        .ok (List.rel_flatten extended)

end

section

variable {cover : Cover} {left right : Database} (like : left.Like cover right)
include like

theorem scan_like {veil : Veil} {table rename : String} {joins : List Join}
    (covers : veil.Covers cover rename table) (shuns : ∀ join ∈ joins, join.Shuns cover veil) :
    Together (List.Forall₂ (Scope.Like veil)) (left.scan table rename joins)
      (right.scan table rename joins) := by
  have reached := like table
  unfold Database.scan Database.table
  generalize left.table? table = found, right.table? table = found' at reached
  cases reached with
  | none => exact .error _
  | some tables =>
      refine Together.foldlM (fun join member _ _ aligned => apply_like (shuns join member) like aligned) ?_
      rw [List.forall₂_map_left_iff, List.forall₂_map_right_iff]
      exact tables.rows.imp fun _ _ one => Row.Like.named one tables.columns covers

end

def Condition.columns : Condition → List Column
  | .compare left _ (.cell _) => [left]
  | .compare left _ (.column right) => [left, right]
  | .oneOf column _ | .isNull column | .like column _ _ | .search column _ _ => [column]

/-- A clause tests only values that are told apart. -/
inductive Clause.Shuns (cover : Cover) : Veil → Clause → Prop
  | all {veil : Veil} {clauses : List Clause} (each : ∀ clause ∈ clauses, Clause.Shuns cover veil clause) :
      Clause.Shuns cover veil (.all clauses)
  | any {veil : Veil} {clauses : List Clause} (each : ∀ clause ∈ clauses, Clause.Shuns cover veil clause) :
      Clause.Shuns cover veil (.any clauses)
  | not {veil : Veil} {clause : Clause} (inner : Clause.Shuns cover veil clause) :
      Clause.Shuns cover veil (.not clause)
  | condition {veil : Veil} {leaf : Condition} (shown : ∀ column ∈ leaf.columns, veil.Open column) :
      Clause.Shuns cover veil (.condition leaf)
  | existing {veil within : Veil} {table rename : String} {joins : List Join} {filter : Clause}
      (covers : within.Covers cover rename table) (joined : ∀ join ∈ joins, join.Shuns cover within)
      (inner : Clause.Shuns cover (within.or veil) filter) :
      Clause.Shuns cover veil (.existing table rename joins filter)

section

variable {cover : Cover} {left right : Database} {veil : Veil} {scope scope' : Scope}

theorem condition_like {leaf : Condition} (shown : ∀ column ∈ leaf.columns, veil.Open column)
    (like : scope.Like veil scope') : leaf.eval scope = leaf.eval scope' := by
  have get (column : Column) (member : column ∈ leaf.columns) : scope.get column = scope'.get column :=
    like.get_open (shown column member)
  unfold Condition.eval
  cases leaf with
  | compare first operator second =>
      cases second with
      | cell _ => simp only [get first (by simp [Condition.columns])]
      | column other =>
          simp only [get first (by simp [Condition.columns]), get other (by simp [Condition.columns])]
  | oneOf column _ => simp only [get column (by simp [Condition.columns])]
  | isNull column => simp only [get column (by simp [Condition.columns])]
  | like column _ _ => simp only [get column (by simp [Condition.columns])]
  | search column _ _ => simp only [get column (by simp [Condition.columns])]

theorem evalAll_congr {clauses : List Clause}
    (each : ∀ clause ∈ clauses, clause.eval left scope = clause.eval right scope') :
    Clause.evalAll left clauses scope = Clause.evalAll right clauses scope' ∧
      Clause.evalAny left clauses scope = Clause.evalAny right clauses scope' := by
  induction clauses with
  | nil => exact ⟨rfl, rfl⟩
  | cons clause rest ih =>
      obtain ⟨all, any⟩ := ih fun other member => each other (List.mem_cons_of_mem _ member)
      simp only [Clause.evalAll, Clause.evalAny, each clause List.mem_cons_self, all, any, and_self]

theorem eval_like (like : left.Like cover right) {clause : Clause} (shuns : clause.Shuns cover veil)
    (scopes : scope.Like veil scope') : clause.eval left scope = clause.eval right scope' := by
  induction shuns generalizing scope scope' with
  | all _ ih =>
      rw [Clause.eval, Clause.eval]
      exact (evalAll_congr fun clause member => ih clause member scopes).1
  | any _ ih =>
      rw [Clause.eval, Clause.eval]
      exact (evalAll_congr fun clause member => ih clause member scopes).2
  | not _ ih => rw [Clause.eval, Clause.eval, ih scopes]
  | condition shown =>
      rw [Clause.eval, Clause.eval]
      exact condition_like shown scopes
  | @existing veil within table rename joins filter covers joined _ ih =>
      rw [Clause.eval, Clause.eval]
      refine Together.eq ((scan_like like covers joined).bind fun inner inner' found => ?_)
      rw [Together.anyM found fun row row' one => by
        rw [ih ((one.mono fun _ _ _ => .inl).append (scopes.mono fun _ _ _ => .inr))]]
      exact .refl _

theorem meetsAll_like (like : left.Like cover right) {filters : List Clause}
    (shuns : ∀ filter ∈ filters, filter.Shuns cover veil) (scopes : scope.Like veil scope') :
    Clause.meetsAll left filters scope = Clause.meetsAll right filters scope' := by
  induction filters with
  | nil => rfl
  | cons filter rest ih =>
      unfold Clause.meetsAll
      rw [eval_like like (shuns filter List.mem_cons_self) scopes,
        ih fun other member => shuns other (List.mem_cons_of_mem _ member)]

end

/-- A query tests and orders only by values that are told apart. -/
structure Select.Shuns (select : Select) (cover : Cover) (veil : Veil) : Prop where
  covers : veil.Covers cover select.table select.table
  joins : ∀ join ∈ select.joins, join.Shuns cover veil
  filters : ∀ filter ∈ select.filters, filter.Shuns cover veil
  order : ∀ sort ∈ select.order, veil.Open sort.column

def Cover.Bares (cover : Cover) (sources : List (String × String)) (column : Column) : Prop :=
  ∃ source ∈ sources, ∃ name, column = .ofTable source.1 name ∧ ∀ cell other, ¬cover source.2 name cell other

theorem Cover.Bares.mono {cover : Cover} {sources more : List (String × String)} {column : Column}
    (bares : cover.Bares sources column) (within : sources ⊆ more) : cover.Bares more column := by
  obtain ⟨source, member, name, same, plain⟩ := bares
  exact ⟨source, within member, name, same, plain⟩

theorem Cover.among_named {cover : Cover} {sources : List (String × String)} {rename table column : String}
    (distinct : (sources.map Prod.fst).Nodup) (member : (rename, table) ∈ sources) {cell other : Cell}
    (hidden : cover.among sources (.ofTable rename column) cell other) : cover table column cell other := by
  obtain ⟨source, member', same, covered⟩ := hidden
  cases List.inj_on_of_nodup_map distinct member member' (Option.some.inj same)
  exact covered

theorem Cover.Bares.shown {cover : Cover} {sources : List (String × String)} {column : Column}
    (bares : cover.Bares sources column) (distinct : (sources.map Prod.fst).Nodup) :
    (cover.among sources).Open column := by
  obtain ⟨source, member, name, rfl, plain⟩ := bares
  exact ⟨rfl, fun cell other hidden => plain cell other (Cover.among_named distinct member hidden)⟩

theorem Cover.among_covers {cover : Cover} {sources : List (String × String)} {rename table : String}
    (member : (rename, table) ∈ sources) : (cover.among sources).Covers cover rename table :=
  fun _ _ _ covered => ⟨_, member, rfl, covered⟩

def Select.sources (select : Select) : List (String × String) :=
  sourcesOf select.table select.table select.joins

/-- A query that joins and orders by what is not hidden, under names of their own, tests only what is told apart
if its filters do. -/
theorem Select.shuns_of_bares {cover : Cover} {select : Select}
    (distinct : (select.sources.map Prod.fst).Nodup)
    (joins : ∀ join ∈ select.joins, cover.Bares select.sources join.left ∧ cover.Bares select.sources join.right)
    (filters : ∀ filter ∈ select.filters, filter.Shuns cover (cover.among select.sources))
    (order : ∀ sort ∈ select.order, cover.Bares select.sources sort.column) :
    select.Shuns cover (cover.among select.sources) where
  covers := Cover.among_covers List.mem_cons_self
  joins join member :=
    ⟨(joins join member).1.shown distinct, (joins join member).2.shown distinct,
      Cover.among_covers (List.mem_cons_of_mem _ (List.mem_map.mpr ⟨join, member, rfl⟩))⟩
  filters := filters
  order sort member := (order sort member).shown distinct

/-- Rows of some columns whose values are the same as far as they are told apart. -/
inductive Select.Aligned (veil : Veil) : List Column → Row → Row → Prop
  | nil : Select.Aligned veil [] [] []
  | cons {column : Column} {columns : List Column} {cell other : Cell} {row row' : Row}
      (same : veil.Same column cell other) (rest : Select.Aligned veil columns row row') :
      Select.Aligned veil (column :: columns) (cell :: row) (other :: row')

section

variable {cover : Cover} {left right : Database} {veil : Veil}

theorem project_like {scope scope' : Scope} (scopes : scope.Like veil scope') {columns : List Column}
    (named : ∀ column ∈ columns, column.table.isSome) (before before' : Row) :
    Together (fun row row' => ∃ rest rest', row = before.reverse ++ rest ∧ row' = before'.reverse ++ rest' ∧
        Select.Aligned veil columns rest rest')
      (Select.project scope before (columns.map .column))
      (Select.project scope' before' (columns.map .column)) := by
  induction columns generalizing before before' with
  | nil => exact .ok ⟨[], [], by simp, by simp, .nil⟩
  | cons column columns ih =>
      rw [List.map_cons, Select.project, Select.project]
      refine (scopes.get (named column List.mem_cons_self)).bind fun cell other same => ?_
      refine (ih (fun column member => named column (List.mem_cons_of_mem _ member)) _ _).mono ?_
      rintro _ _ ⟨rest, rest', rfl, rfl, aligned⟩
      exact ⟨cell :: rest, other :: rest', by simp, by simp, .cons same aligned⟩

theorem sortKey_like {order : List SortColumn} (shown : ∀ sort ∈ order, veil.Open sort.column)
    {scope scope' : Scope} (like : scope.Like veil scope') :
    Select.sortKey order scope = Select.sortKey order scope' := by
  unfold Select.sortKey
  induction order with
  | nil => rfl
  | cons sort rest ih =>
      rw [List.mapM_cons, List.mapM_cons, like.get_open (shown sort List.mem_cons_self),
        ih fun other member => shown other (List.mem_cons_of_mem _ member)]

theorem sorted_like {order : List SortColumn} (shown : ∀ sort ∈ order, veil.Open sort.column)
    {scopes scopes' : List Scope} (aligned : List.Forall₂ (Scope.Like veil) scopes scopes') :
    Together (List.Forall₂ (Scope.Like veil)) (Select.sorted order scopes) (Select.sorted order scopes') := by
  unfold Select.sorted
  split
  · exact .ok aligned
  · have keyed : Together (List.Forall₂ fun entry other : List Cell × Scope =>
          entry.1 = other.1 ∧ entry.2.Like veil other.2)
        (scopes.mapM fun scope => do return (← Select.sortKey order scope, scope))
        (scopes'.mapM fun scope => do return (← Select.sortKey order scope, scope)) := by
      refine Together.mapM aligned fun scope scope' like => ?_
      rw [sortKey_like shown like]
      exact (Together.refl _).bind fun _ _ same => .ok ⟨same, like⟩
    refine keyed.bind fun _ _ found => .ok ?_
    rw [List.forall₂_map_left_iff, List.forall₂_map_right_iff]
    refine (stableSort_forall₂ ?_ found).imp fun _ _ one => one.2
    intro one other one' other' same same'
    rw [same.1, same'.1]

variable (like : left.Like cover right) {select : Select} (shuns : select.Shuns cover veil)
include like shuns

theorem select_matching_like : Together (List.Forall₂ (Scope.Like veil)) (select.matching left)
    (select.matching right) := by
  unfold Select.matching
  exact (scan_like like shuns.covers shuns.joins).bind fun _ _ found =>
    Together.filterM found fun _ _ one => meetsAll_like like shuns.filters one

theorem count_like (counts : select.columns = [.count]) : select.run left = select.run right := by
  unfold Select.run
  refine Together.eq ((select_matching_like like shuns).bind fun scopes scopes' found => ?_)
  rw [if_pos counts, if_pos counts, List.Forall₂.length_eq found]
  exact .ok rfl

/-- A query finds rows like each other on databases that are like each other. -/
theorem select_like {columns : List Column} (selects : select.columns = columns.map .column)
    (named : ∀ column ∈ columns, column.table.isSome) :
    Together (List.Forall₂ (Together (Select.Aligned veil columns))) (select.run left) (select.run right) := by
  have several : select.columns ≠ [.count] := by
    rw [selects]
    cases columns <;> simp
  unfold Select.run
  refine (select_matching_like like shuns).bind fun scopes scopes' found => ?_
  rw [if_neg several, if_neg several]
  refine (sorted_like shuns.order found).bind fun ranked ranked' sorted => .ok ?_
  rw [List.forall₂_map_left_iff, List.forall₂_map_right_iff, selects]
  have projected (scope scope' : Scope) (one : Scope.Like veil scope scope') :
      Together (Select.Aligned veil columns) (Select.project scope [] (columns.map .column))
        (Select.project scope' [] (columns.map .column)) := by
    refine (project_like one named [] []).mono ?_
    rintro _ _ ⟨rest, rest', rfl, rfl, aligned⟩
    exact aligned
  cases select.limit with
  | none => exact (List.forall₂_drop _ sorted).imp projected
  | some limit => exact (List.forall₂_take _ (List.forall₂_drop _ sorted)).imp projected

end

end ResourceServer.Store
