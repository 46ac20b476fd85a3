import Mathlib.Data.Set.Basic
import ResourceServer.Proofs.Lookup
import ResourceServer.Proofs.Operations
import ResourceServer.Proofs.OrderJoins

/-! Statements that name only tables and columns that are there: evaluating them may fail, but not for want of a
table or a column. -/

namespace ResourceServer.Store

def StoreError.Missing : StoreError → Prop
  | .noSuchTable _ | .noSuchColumn _ | .notInTable _ _ => True
  | _ => False

instance : DecidablePred StoreError.Missing := fun error => by
  cases error <;> unfold StoreError.Missing <;> infer_instance

section

variable {α β γ : Type}

def Finds (result : Except StoreError α) : Prop :=
  ∀ error, result = .error error → ¬error.Missing

theorem finds_ok (value : α) : Finds (.ok value : Except StoreError α) := by
  intro _ same
  cases same

theorem finds_error {error : StoreError} (other : ¬error.Missing) :
    Finds (.error error : Except StoreError α) := by
  intro _ same
  cases same
  exact other

theorem finds_bind {result : Except StoreError α} {next : α → Except StoreError β} (first : Finds result)
    (second : ∀ value, result = .ok value → Finds (next value)) : Finds (result >>= next) := by
  cases result with
  | error error =>
      intro _ same
      cases same
      exact first error rfl
  | ok value => exact second value rfl

theorem finds_map {result : Except StoreError α} (change : α → β) (found : Finds result) :
    Finds (result.map change) := by
  cases result with
  | error error =>
      intro _ same
      cases same
      exact found error rfl
  | ok value => exact finds_ok _

theorem finds_mapM {step : α → Except StoreError β} {items : List α}
    (each : ∀ item ∈ items, Finds (step item)) : Finds (items.mapM step) := by
  induction items with
  | nil => exact finds_ok _
  | cons item rest ih =>
      obtain ⟨first, others⟩ := List.forall_mem_cons.mp each
      rw [List.mapM_cons]
      exact finds_bind first fun _ _ => finds_bind (ih others) fun _ _ => finds_ok _

theorem finds_filterM {test : α → Except StoreError Bool} {items : List α}
    (each : ∀ item ∈ items, Finds (test item)) : Finds (items.filterM test) := by
  have kept (before : List α) : Finds (items.filterAuxM test before) := by
    induction items generalizing before with
    | nil => exact finds_ok _
    | cons item rest ih =>
        obtain ⟨first, others⟩ := List.forall_mem_cons.mp each
        rw [List.filterAuxM]
        exact finds_bind first fun _ _ => ih others _
  exact finds_bind (kept []) fun _ _ => finds_ok _

theorem finds_anyM {test : α → Except StoreError Bool} {items : List α}
    (each : ∀ item ∈ items, Finds (test item)) : Finds (items.anyM test) := by
  induction items with
  | nil => exact finds_ok _
  | cons item rest ih =>
      obtain ⟨first, others⟩ := List.forall_mem_cons.mp each
      rw [List.anyM]
      refine finds_bind first fun passed _ => ?_
      cases passed with
      | true => exact finds_ok _
      | false => exact ih others

end

def Layout.Names (layout : Layout) (table column : String) : Prop :=
  ∃ columns, layout table = some columns ∧ ∃ definition ∈ columns, definition.name = column

def Layout.under (layout : Layout) (table rename : String) : Set Column :=
  { column | ∃ name, layout.Names table name ∧ column = .ofTable rename name }

def Layout.joined (layout : Layout) (offered : Set Column) : List Join → Set Column
  | [] => offered
  | join :: rest => layout.joined (offered ∪ layout.under join.table join.rename) rest

def Layout.JoinsClosed (layout : Layout) (offered : Set Column) : List Join → Prop
  | [] => True
  | join :: rest =>
    let grown := offered ∪ layout.under join.table join.rename
    (layout join.table).isSome ∧ join.left ∈ grown ∧ join.right ∈ grown ∧ layout.JoinsClosed grown rest

def Condition.mentions : Condition → List Column
  | .compare left _ (.column right) => [left, right]
  | .compare left _ (.cell _) => [left]
  | .oneOf column _ => [column]
  | .isNull column => [column]
  | .like column _ _ => [column]
  | .search column _ _ => [column]

/-- All tables and columns that a clause names are there, or among the columns offered around it. -/
inductive Clause.Closed (layout : Layout) : Set Column → Clause → Prop
  | all {offered : Set Column} {clauses : List Clause}
      (each : ∀ clause ∈ clauses, Closed layout offered clause) : Closed layout offered (.all clauses)
  | any {offered : Set Column} {clauses : List Clause}
      (each : ∀ clause ∈ clauses, Closed layout offered clause) : Closed layout offered (.any clauses)
  | not {offered : Set Column} {clause : Clause} (inner : Closed layout offered clause) :
      Closed layout offered (.not clause)
  | condition {offered : Set Column} {condition : Condition}
      (named : ∀ column ∈ condition.mentions, column ∈ offered) :
      Closed layout offered (.condition condition)
  | existing {offered : Set Column} {table rename : String} {joins : List Join} {filter : Clause}
      (known : (layout table).isSome)
      (tied : layout.JoinsClosed (layout.under table rename) joins)
      (inner : Closed layout (layout.joined (layout.under table rename) joins ∪ offered) filter) :
      Closed layout offered (.existing table rename joins filter)

def Scope.Covers (scope : Scope) (offered : Set Column) : Prop :=
  ∀ column ∈ offered, ∃ cell, scope.get column = .ok cell

section

variable {layout : Layout} {database : Database} {offered more : Set Column} {scope other : Scope}

theorem Layout.joined_append (joins later : List Join) :
    layout.joined offered (joins ++ later) = layout.joined (layout.joined offered joins) later := by
  induction joins generalizing offered with
  | nil => rfl
  | cons join rest ih => exact ih

theorem Layout.joinsClosed_append {joins later : List Join} :
    layout.JoinsClosed offered (joins ++ later) ↔
      layout.JoinsClosed offered joins ∧ layout.JoinsClosed (layout.joined offered joins) later := by
  induction joins generalizing offered with
  | nil => simp [JoinsClosed, joined]
  | cons join rest ih => simp [JoinsClosed, joined, ih, and_assoc]

theorem Layout.offered_joined (joins : List Join) : offered ⊆ layout.joined offered joins := by
  induction joins generalizing offered with
  | nil => exact fun _ member => member
  | cons join rest ih => exact fun _ member => ih (.inl member)

theorem Layout.under_names {table rename column : String} (named : layout.Names table column) :
    Column.ofTable rename column ∈ layout.under table rename :=
  ⟨column, named, rfl⟩

theorem Layout.Names.known {table column : String} (named : layout.Names table column) :
    (layout table).isSome := by
  obtain ⟨columns, found, _⟩ := named
  rw [found]
  rfl

theorem Scope.Covers.front (covers : scope.Covers offered) (rest : Scope) :
    Scope.Covers (scope ++ rest) offered := by
  intro column member
  obtain ⟨cell, found⟩ := covers column member
  exact ⟨cell, get_front found rest⟩

theorem Scope.Covers.behind (covers : scope.Covers offered) (front : Scope) :
    Scope.Covers (front ++ scope) offered := by
  intro column member
  obtain ⟨cell, found⟩ := covers column member
  unfold Scope.get at found ⊢
  rw [List.find?_append]
  cases front.find? fun entry => isMeant column entry.1 with
  | some entry => exact ⟨_, rfl⟩
  | none => exact ⟨cell, found⟩

theorem Scope.Covers.union (covers : scope.Covers offered) (covers' : scope.Covers more) :
    scope.Covers (offered ∪ more) :=
  fun column member => member.elim (covers column) (covers' column)

theorem Layout.Fits.table (fits : layout.Fits database) {name : String} (known : (layout name).isSome) :
    ∃ table, database.table? name = some table ∧ layout name = some table.columns ∧ table.Wide := by
  rw [← fits.columns] at known ⊢
  unfold Database.columns? at known ⊢
  obtain ⟨table, found⟩ := Option.isSome_iff_exists.mp (Option.isSome_map ▸ known)
  exact ⟨table, found, by rw [found]; rfl, fits.wide name table found⟩

theorem covers_row {table : Table} {name : String} (laid : layout name = some table.columns)
    (rename : String) {row : Row} (wide : row.length = table.columns.length) :
    Scope.Covers (table.scope rename row) (layout.under name rename) := by
  rintro _ ⟨column, ⟨columns, found, definition, member, named⟩, rfl⟩
  cases laid.symm.trans found
  have bound := scope_binds table rename row [] wide column ⟨definition, member, named⟩
  rw [List.append_nil] at bound
  exact ⟨_, bound⟩

theorem finds_get (covers : scope.Covers offered) {column : Column} (member : column ∈ offered) :
    Finds (scope.get column) := by
  obtain ⟨cell, found⟩ := covers column member
  rw [found]
  exact finds_ok cell

theorem finds_compare (left : Cell) (operator : String) (right : Cell) :
    Finds (compareCells left operator right) := by
  unfold compareCells
  split
  · exact finds_ok _
  · split
    · exact finds_ok _
    · exact finds_error id

theorem finds_condition (covers : scope.Covers offered) (condition : Condition)
    (named : ∀ column ∈ condition.mentions, column ∈ offered) : Finds (condition.eval scope) := by
  have first {column : Column} (member : column ∈ condition.mentions) : Finds (scope.get column) :=
    finds_get covers (named column member)
  cases condition with
  | compare left operator right =>
      cases right with
      | cell value =>
          exact finds_bind (first List.mem_cons_self) fun _ _ => finds_compare _ operator value
      | column right =>
          refine finds_bind (first List.mem_cons_self) fun _ _ => ?_
          exact finds_bind (first (List.mem_cons_of_mem _ List.mem_cons_self)) fun _ _ =>
            finds_compare _ operator _
  | oneOf column values =>
      refine finds_bind (first List.mem_cons_self) fun value _ => ?_
      split
      · exact finds_ok _
      · split <;> exact finds_ok _
  | isNull column => exact finds_bind (first List.mem_cons_self) fun _ _ => finds_ok _
  | like column pattern ignoreCase =>
      refine finds_bind (first List.mem_cons_self) fun value _ => ?_
      split
      · exact finds_ok _
      · exact finds_ok _
      · exact finds_error id
  | search column query plain =>
      refine finds_bind (first List.mem_cons_self) fun value _ => ?_
      split
      · exact finds_ok _
      · exact finds_ok _
      · exact finds_error id

theorem finds_matching {join : Join} {table : Table} {rows : List Row}
    (covers : ∀ row ∈ rows, Scope.Covers (scope ++ table.scope join.rename row) offered)
    (left : join.left ∈ offered) (right : join.right ∈ offered) :
    Finds (join.matching table scope rows) ∧
      ∀ found, join.matching table scope rows = .ok found → ∀ scope ∈ found, scope.Covers offered := by
  induction rows with
  | nil =>
      refine ⟨finds_ok _, fun found run => ?_⟩
      cases run
      nofun
  | cons row rest ih =>
      obtain ⟨first, others⟩ := List.forall_mem_cons.mp covers
      obtain ⟨later, covered⟩ := ih others
      constructor
      · refine finds_bind (finds_get first left) fun _ _ => ?_
        refine finds_bind (finds_get first right) fun _ _ => ?_
        refine finds_bind (finds_compare _ _ _) fun _ _ => ?_
        exact finds_bind later fun _ _ => finds_ok _
      · intro found run
        obtain ⟨_, _, run⟩ := bind_ok run
        obtain ⟨_, _, run⟩ := bind_ok run
        obtain ⟨truth, _, run⟩ := bind_ok run
        obtain ⟨others, those, same⟩ := bind_ok run
        cases same
        split
        · exact List.forall_mem_cons.mpr ⟨first, covered others those⟩
        · exact covered others those

theorem finds_extend {join : Join} {table : Table} (wide : table.Wide)
    (laid : layout join.table = some table.columns) (covers : scope.Covers offered)
    (left : join.left ∈ offered ∪ layout.under join.table join.rename)
    (right : join.right ∈ offered ∪ layout.under join.table join.rename) :
    Finds (join.extend table scope) ∧ ∀ found, join.extend table scope = .ok found →
      ∀ scope ∈ found, scope.Covers (offered ∪ layout.under join.table join.rename) := by
  have grown {row : Row} (width : row.length = table.columns.length) :
      Scope.Covers (scope ++ table.scope join.rename row)
        (offered ∪ layout.under join.table join.rename) :=
    (covers.front _).union ((covers_row laid join.rename width).behind scope)
  obtain ⟨finds, covered⟩ := finds_matching (fun row member => grown (wide row member)) left right
  constructor
  · refine finds_bind finds fun _ _ => ?_
    split <;> exact finds_ok _
  · intro found run
    obtain ⟨rows, those, run⟩ := bind_ok run
    split at run
    · cases run
      intro scope member
      rw [List.mem_singleton.mp member]
      exact grown List.length_replicate
    · cases run
      exact covered _ those

theorem finds_joins (fits : layout.Fits database) {joins : List Join} {scopes : List Scope}
    (closed : layout.JoinsClosed offered joins) (covers : ∀ scope ∈ scopes, scope.Covers offered) :
    Finds (joins.foldlM (fun scopes join => join.apply database scopes) scopes) ∧
      ∀ found, joins.foldlM (fun scopes join => join.apply database scopes) scopes = .ok found →
        ∀ scope ∈ found, scope.Covers (layout.joined offered joins) := by
  induction joins generalizing offered scopes with
  | nil =>
      refine ⟨finds_ok _, fun found run => ?_⟩
      cases run
      exact covers
  | cons join rest ih =>
      obtain ⟨known, left, right, later⟩ := closed
      obtain ⟨table, here, laid, wide⟩ := fits.table known
      have each (scope : Scope) (member : scope ∈ scopes) :=
        finds_extend wide laid (covers scope member) left right
      have applied : ∀ next, join.apply database scopes = .ok next →
          ∀ scope ∈ next, scope.Covers (offered ∪ layout.under join.table join.rename) := by
        intro next run scope member
        obtain ⟨table', there, run⟩ := bind_ok run
        cases (table_ok here).symm.trans there
        obtain ⟨extended, all, same⟩ := bind_ok run
        cases same
        obtain ⟨rows, inside, member⟩ := List.mem_flatten.mp member
        obtain ⟨before, among, one⟩ := mem_of_forall₂ (mapM_forall₂ all).flip inside
        exact (each before among).2 rows one scope member
      have finds : Finds (join.apply database scopes) := by
        unfold Join.apply
        rw [table_ok here]
        refine finds_bind (finds_ok table) fun _ same => ?_
        cases same
        exact finds_bind (finds_mapM fun scope member => (each scope member).1) fun _ _ => finds_ok _
      rw [List.foldlM_cons]
      refine ⟨finds_bind finds fun next run => (ih later (applied next run)).1, fun found run => ?_⟩
      obtain ⟨next, one, others⟩ := bind_ok run
      exact (ih later (applied next one)).2 found others

theorem finds_scan (fits : layout.Fits database) {name rename : String} {joins : List Join}
    (known : (layout name).isSome) (closed : layout.JoinsClosed (layout.under name rename) joins) :
    Finds (database.scan name rename joins) ∧ ∀ found, database.scan name rename joins = .ok found →
      ∀ scope ∈ found, scope.Covers (layout.joined (layout.under name rename) joins) := by
  obtain ⟨table, here, laid, wide⟩ := fits.table known
  have start : ∀ scope ∈ table.rows.map (table.scope rename),
      scope.Covers (layout.under name rename) := by
    intro scope member
    obtain ⟨row, inside, rfl⟩ := List.mem_map.mp member
    exact covers_row laid rename (wide row inside)
  unfold Database.scan
  rw [table_ok here]
  exact finds_joins fits closed start

theorem finds_evalAll {clauses : List Clause}
    (each : ∀ clause ∈ clauses, Finds (clause.eval database scope)) :
    Finds (Clause.evalAll database clauses scope) := by
  induction clauses with
  | nil => exact finds_ok _
  | cons clause rest ih =>
      obtain ⟨first, others⟩ := List.forall_mem_cons.mp each
      refine finds_bind first fun truth _ => ?_
      split
      · exact finds_ok _
      · exact finds_bind (ih others) fun _ _ => finds_ok _

theorem finds_evalAny {clauses : List Clause}
    (each : ∀ clause ∈ clauses, Finds (clause.eval database scope)) :
    Finds (Clause.evalAny database clauses scope) := by
  induction clauses with
  | nil => exact finds_ok _
  | cons clause rest ih =>
      obtain ⟨first, others⟩ := List.forall_mem_cons.mp each
      refine finds_bind first fun truth _ => ?_
      split
      · exact finds_ok _
      · exact finds_bind (ih others) fun _ _ => finds_ok _

theorem Clause.Closed.finds {clause : Clause} (closed : clause.Closed layout offered)
    (fits : layout.Fits database) (covers : scope.Covers offered) :
    Finds (clause.eval database scope) := by
  induction closed generalizing scope with
  | all _ ih => exact finds_evalAll fun clause member => ih clause member covers
  | any _ ih => exact finds_evalAny fun clause member => ih clause member covers
  | not _ ih => exact finds_bind (ih covers) fun _ _ => finds_ok _
  | condition named => exact finds_condition covers _ named
  | existing known tied _ ih =>
      obtain ⟨finds, covered⟩ := finds_scan fits known tied
      refine finds_bind finds fun rows run => finds_bind (finds_anyM fun row member => ?_) fun _ _ =>
        finds_ok _
      refine finds_bind (ih ?_) fun _ _ => finds_ok _
      exact ((covered rows run row member).front scope).union (covers.behind row)

theorem finds_meetsAll {filters : List Clause} (fits : layout.Fits database)
    (closed : ∀ filter ∈ filters, filter.Closed layout offered) (covers : scope.Covers offered) :
    Finds (Clause.meetsAll database filters scope) := by
  induction filters with
  | nil => exact finds_ok _
  | cons filter rest ih =>
      obtain ⟨first, others⟩ := List.forall_mem_cons.mp closed
      refine finds_bind (first.finds fits covers) fun truth _ => ?_
      split
      · exact ih others
      · exact finds_ok _

theorem Clause.Closed.mono {clause : Clause} (closed : clause.Closed layout offered)
    (within : offered ⊆ more) : clause.Closed layout more := by
  induction closed generalizing more with
  | all _ ih => exact .all fun clause member => ih clause member within
  | any _ ih => exact .any fun clause member => ih clause member within
  | not _ ih => exact .not (ih within)
  | condition named => exact .condition fun column member => within (named column member)
  | existing known tied _ ih =>
      exact .existing known tied (ih fun _ member => member.imp_right (within ·))

end

/-! Whole statements. -/

/-- What a query selects is there, and so is all that it goes by. -/
structure Select.Closed (layout : Layout) (select : Select) : Prop where
  known : (layout select.table).isSome
  joins : layout.JoinsClosed (layout.under select.table select.table) select.joins
  filters : ∀ filter ∈ select.filters,
    filter.Closed layout (layout.joined (layout.under select.table select.table) select.joins)
  order : ∀ sort ∈ select.order,
    sort.column ∈ layout.joined (layout.under select.table select.table) select.joins
  columns : ∀ column, .column column ∈ select.columns →
    column ∈ layout.joined (layout.under select.table select.table) select.joins

structure Insert.Closed (layout : Layout) (statement : Insert) : Prop where
  known : (layout statement.table).isSome
  columns : ∀ column ∈ statement.columns, layout.Names statement.table column
  returning : ∀ column ∈ statement.returning, layout.Names statement.table column

structure Update.Closed (layout : Layout) (statement : Update) : Prop where
  known : (layout statement.table).isSome
  columns : ∀ assignment ∈ statement.assignments, layout.Names statement.table assignment.1
  filters : ∀ filter ∈ statement.filters,
    filter.Closed layout (layout.under statement.table statement.table)

structure Delete.Closed (layout : Layout) (statement : Delete) : Prop where
  known : (layout statement.table).isSome
  filters : ∀ filter ∈ statement.filters,
    filter.Closed layout (layout.under statement.table statement.table)

section

variable {layout : Layout} {database : Database} {offered : Set Column}

theorem finds_project {scope : Scope} (covers : scope.Covers offered) {columns : List Selected}
    (named : ∀ column, .column column ∈ columns → column ∈ offered) (before : Row) :
    Finds (Select.project scope before columns) := by
  induction columns generalizing before with
  | nil => exact finds_ok _
  | cons selected rest ih =>
      cases selected with
      | column name =>
          refine finds_bind (finds_get covers (named name List.mem_cons_self)) fun _ _ => ?_
          exact ih (fun column member => named column (List.mem_cons_of_mem _ member)) _
      | everything => exact finds_ok _
      | count => exact finds_error id

theorem Select.Closed.finds {select : Select} (closed : select.Closed layout)
    (fits : layout.Fits database) :
    Finds (select.run database) ∧
      ∀ rows, select.run database = .ok rows → ∀ row ∈ rows, Finds row := by
  obtain ⟨finds, covered⟩ := finds_scan fits closed.known closed.joins
  have matched : Finds (select.matching database) :=
    finds_bind finds fun scopes run => finds_filterM fun scope member =>
      finds_meetsAll fits closed.filters (covered scopes run scope member)
  have covers : ∀ scopes, select.matching database = .ok scopes → ∀ scope ∈ scopes,
      scope.Covers (layout.joined (layout.under select.table select.table) select.joins) := by
    intro scopes run scope member
    obtain ⟨all, scanned, run⟩ := bind_ok run
    exact covered all scanned scope ((filterM_passed run).1.subset member)
  constructor
  · refine finds_bind matched fun scopes run => ?_
    split
    · exact finds_ok _
    · refine finds_bind ?_ fun _ _ => finds_ok _
      unfold Select.sorted
      split
      · exact finds_ok _
      · refine finds_bind (finds_mapM fun scope member => ?_) fun _ _ => finds_ok _
        refine finds_bind (finds_mapM fun sort among => ?_) fun _ _ => finds_ok _
        exact finds_get (covers scopes run scope member) (closed.order sort among)
  · intro rows run row member
    by_cases alone : select.columns = [.count]
    · obtain ⟨scopes, _, run⟩ := bind_ok run
      rw [if_pos alone] at run
      cases run
      rw [List.mem_singleton.mp member]
      exact finds_ok _
    · obtain ⟨_, run⟩ := bind_ok run
      obtain ⟨all, run⟩ := run
      rw [if_neg alone] at run
      obtain ⟨ordered, sorted, run⟩ := bind_ok run
      cases run
      obtain ⟨scope, inside, rfl⟩ := List.mem_map.mp member
      have among : scope ∈ ordered :=
        ((window_sublist select.limit _).trans (List.drop_sublist select.offset ordered)).subset inside
      exact finds_project (covers _ all scope ((sorted_perm sorted).mem_iff.mp among)) closed.columns []

theorem Layout.Fits.position (fits : layout.Fits database) {name column : String} {table : Table}
    (found : database.table? name = some table) (named : layout.Names name column) :
    Finds (table.position column) := by
  obtain ⟨columns, laid, definition, member, same⟩ := named
  rw [← fits.columns] at laid
  unfold Database.columns? at laid
  rw [found] at laid
  cases laid
  obtain ⟨position, here⟩ := position_of_has ⟨definition, member, same⟩
  rw [here]
  exact finds_ok _

theorem finds_unique (table : Table) (rows : List Row) : Finds (table.checkUnique rows) := by
  unfold Table.checkUnique
  split
  · exact finds_ok _
  · exact finds_error id

theorem finds_marks {name : String} {table : Table} (fits : layout.Fits database)
    (found : database.table? name = some table) {filters : List Clause}
    (closed : ∀ filter ∈ filters, filter.Closed layout (layout.under name name)) :
    Finds (table.rows.mapM (database.meets filters table)) := by
  refine finds_mapM fun row member => ?_
  unfold Database.meets
  rw [Database.table?_name found]
  refine finds_meetsAll fits closed (covers_row ?_ name (fits.wide name table found row member))
  rw [← fits.columns]
  unfold Database.columns?
  rw [found]
  rfl

theorem Update.Closed.finds {statement : Update} (closed : statement.Closed layout)
    (fits : layout.Fits database) : Finds (statement.run database) := by
  obtain ⟨table, found, _⟩ := fits.table closed.known
  unfold Update.run
  rw [table_ok found]
  refine finds_bind (finds_ok table) fun _ same => ?_
  cases same
  refine finds_bind (finds_marks fits found closed.filters) fun _ _ => ?_
  refine finds_bind (finds_mapM fun assignment member => ?_) fun _ _ => ?_
  · exact finds_bind (fits.position found (closed.columns assignment member)) fun _ _ => finds_ok _
  · exact finds_bind (finds_unique _ _) fun _ _ => finds_ok _

theorem Delete.Closed.finds {statement : Delete} (closed : statement.Closed layout)
    (fits : layout.Fits database) : Finds (statement.run database) := by
  obtain ⟨table, found, _⟩ := fits.table closed.known
  unfold Delete.run
  rw [table_ok found]
  refine finds_bind (finds_ok table) fun _ same => ?_
  cases same
  exact finds_bind (finds_marks fits found closed.filters) fun _ _ => finds_ok _

theorem finds_rows (table : Table) (positions : List Nat) (rows : List (List Cell)) (next : Int) :
    Finds (table.completeRows positions rows next) := by
  induction rows generalizing next with
  | nil => exact finds_ok _
  | cons values rest ih =>
      unfold Table.completeRows
      split
      · exact finds_error id
      · exact finds_bind (ih _) fun _ _ => finds_ok _

theorem Insert.Closed.finds {statement : Insert} (closed : statement.Closed layout)
    (fits : layout.Fits database) : Finds (statement.run database) := by
  obtain ⟨table, found, _⟩ := fits.table closed.known
  unfold Insert.run
  rw [table_ok found]
  refine finds_bind (finds_ok table) fun _ same => ?_
  cases same
  refine finds_bind ?_ fun _ _ => finds_ok _
  refine finds_bind (finds_mapM fun column member => fits.position found (closed.columns column member))
    fun _ _ => ?_
  refine finds_bind ?_ fun _ _ => finds_bind (finds_rows _ _ _ _) fun _ _ =>
    finds_bind (finds_unique _ _) fun _ _ => finds_ok _
  cases asked : statement.returning with
  | none => exact finds_ok _
  | some column =>
      exact finds_bind (fits.position found (closed.returning column asked)) fun _ _ => finds_ok _

end

end ResourceServer.Store
