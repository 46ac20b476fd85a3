import ResourceServer.Proofs.KeyOrder
import ResourceServer.Proofs.Lookup

/-! Rows in the order of their keys: a total order up to ties, by which queries sort. -/

namespace ResourceServer

open ResourceServer.Store

section

variable {α : Type} {compare : α → α → Ordering} {fits : α → Prop} (orders : Orders compare fits) {left right : α}
include orders

theorem Orders.self (fit : fits left) : compare left left = .eq := by
  have swapped := orders.swapped left left fit fit
  cases outcome : compare left left with
  | eq => rfl
  | lt =>
      rw [outcome] at swapped
      cases swapped
  | gt =>
      rw [outcome] at swapped
      cases swapped

theorem Orders.total (fit : fits left) (fit' : fits right) : compare left right ≠ .gt ∨ compare right left ≠ .gt := by
  rw [orders.swapped left right fit fit']
  cases compare left right <;> simp

theorem Arranged.unique {items first second : List α} (fitting : ∀ item ∈ items, fits item)
    (one : Arranged (fun left right => compare left right = .lt) (fun left right => compare left right = .eq)
      items first)
    (other : Arranged (fun left right => compare left right = .lt) (fun left right => compare left right = .eq)
      items second) : first = second := by
  obtain ⟨placed, permuted, ordered, rfl⟩ := one
  obtain ⟨placed', permuted', ordered', rfl⟩ := other
  refine congrArg _ (List.Perm.eq_of_pairwise ?_ ordered ordered' (permuted.trans permuted'.symm))
  intro left right member member' before after
  exfalso
  have fit {entry : α × Nat} (inside : entry ∈ items.zipIdx) : fits entry.1 :=
    fitting entry.1 (List.fst_mem_of_mem_zipIdx inside)
  have swapped := orders.swapped _ _ (fit (permuted.mem_iff.mp member)) (fit (permuted'.mem_iff.mp member'))
  rcases before with sooner | ⟨tied, place⟩ <;> rcases after with sooner' | ⟨tied', place'⟩
  · rw [sooner, sooner'] at swapped
    cases swapped
  · rw [sooner, tied'] at swapped
    cases swapped
  · rw [tied, sooner'] at swapped
    cases swapped
  · exact absurd place (lt_asymm place')

end

theorem KeySooner.behind {directions rest : List Bool} {one other lefts rights : List Cell} (tied : KeyTied one other)
    (aligned : directions.length = one.length) (sooner : KeySooner rest lefts rights) :
    KeySooner (directions ++ rest) (one ++ lefts) (other ++ rights) := by
  induction tied generalizing directions with
  | nil =>
      rw [List.length_eq_zero_iff.mp aligned]
      exact sooner
  | cons level _ ih =>
      cases directions with
      | nil => cases aligned
      | cons direction directions => exact .later level (ih (Nat.succ.inj aligned))

/-- Sort columns make a total order of the keys of some kinds, up to ties: column after column, with nulls first. -/
structure KeysPreordered (order : List SortColumn) (kinds : List ColumnType) : Prop where
  self : ∀ key, KeyFits kinds key → Select.compareKeys order key key = .eq
  swapped : ∀ left right, KeyFits kinds left → KeyFits kinds right →
    Select.compareKeys order right left = (Select.compareKeys order left right).swap
  through : ∀ left middle right, KeyFits kinds left → KeyFits kinds middle → KeyFits kinds right →
    Select.compareKeys order left middle ≠ .gt → Select.compareKeys order middle right ≠ .gt →
      Select.compareKeys order left right ≠ .gt
  total : ∀ left right, KeyFits kinds left → KeyFits kinds right →
    Select.compareKeys order left right ≠ .gt ∨ Select.compareKeys order right left ≠ .gt
  /-- The first column in which the keys are not level decides. -/
  sooner : ∀ left right, KeyFits kinds left → KeyFits kinds right →
    (Select.compareKeys order left right = .lt ↔ KeySooner (order.map SortColumn.descending) left right)
  tied : ∀ left right, KeyFits kinds left → KeyFits kinds right →
    (Select.compareKeys order left right = .eq ↔ KeyTied left right)
  /-- Behind level columns a null comes before any value, in a column of either direction. -/
  nulls : ∀ (before after : List SortColumn) (sort : SortColumn) (one other lefts rights : List Cell) (value : Cell),
    order = before ++ sort :: after → before.length = one.length → KeyTied one other → value ≠ .null →
      KeyFits kinds (one ++ .null :: lefts) → KeyFits kinds (other ++ value :: rights) →
        Select.compareKeys order (one ++ .null :: lefts) (other ++ value :: rights) = .lt

theorem keys_preordered {order : List SortColumn} {kinds : List ColumnType} (aligned : order.length = kinds.length) :
    KeysPreordered order kinds where
  self _ fit := (keys_ordered order kinds).self fit
  swapped := (keys_ordered order kinds).swapped
  through := (keys_ordered order kinds).through
  total _ _ := (keys_ordered order kinds).total
  sooner _ _ := compareKeys_lt aligned
  tied _ _ := compareKeys_eq aligned
  nulls before after sort one other lefts rights value same front tied given fit fit' := by
    rw [compareKeys_lt aligned fit fit', same, List.map_append, List.map_cons]
    refine KeySooner.behind tied ?_ (.here (.inl ⟨rfl, given⟩))
    rw [List.length_map, front]

namespace Store.Select

def rowKey (order : List SortColumn) (scope : Scope) : List Cell :=
  order.map fun sort => valueAt scope sort.column

/-- A row has all sort columns, and holds nulls and values of some kinds in them. -/
structure HoldsKey (order : List SortColumn) (kinds : List ColumnType) (scope : Scope) : Prop where
  found : ∀ sort ∈ order, ∃ cell, scope.get sort.column = .ok cell
  fits : KeyFits kinds (rowKey order scope)

/-- Some rows are ranked by their keys: each once, those with sooner keys first, and those with tied keys in the order
that they had. -/
def RanksRows (order : List SortColumn) (scopes ranked : List Scope) : Prop :=
  Arranged (fun left right => KeySooner (order.map SortColumn.descending) (rowKey order left) (rowKey order right))
    (fun left right => KeyTied (rowKey order left) (rowKey order right)) scopes ranked

/-- The rows that a query shows of those in its order. -/
def window (select : Select) (ranked : List Scope) : List Scope :=
  match select.limit with
  | some limit => (ranked.drop select.offset).take limit
  | none => ranked.drop select.offset

section

variable {order : List SortColumn} {kinds : List ColumnType} {scopes : List Scope}

theorem sortKey_eq {scope : Scope} (found : ∀ sort ∈ order, ∃ cell, scope.get sort.column = .ok cell) :
    sortKey order scope = .ok (rowKey order scope) := by
  refine mapM_ok _ fun sort member => ?_
  obtain ⟨cell, held⟩ := found sort member
  rw [held, valueAt_eq held]

theorem sorted_eq (found : ∀ scope ∈ scopes, ∀ sort ∈ order, ∃ cell, scope.get sort.column = .ok cell) :
    sorted order scopes =
      .ok (stableSort (fun left right => compareKeys order (rowKey order left) (rowKey order right)) scopes) := by
  unfold sorted
  split
  · rename_i empty
    rw [List.isEmpty_iff.mp empty, stableSort_level fun _ _ => by simp [compareKeys]]
  · have keyed : scopes.mapM (fun scope => do return (← sortKey order scope, scope)) =
        (.ok (scopes.map fun scope => (rowKey order scope, scope)) : Except StoreError _) := by
      refine mapM_ok _ fun scope member => ?_
      rw [sortKey_eq (found scope member)]
      rfl
    refine bind_of_ok keyed ?_
    rw [stableSort_map, List.map_map]
    exact congrArg _ (List.map_id _)

theorem rowKeys_ordered (order : List SortColumn) (kinds : List ColumnType) :
    Orders (fun left right => compareKeys order (rowKey order left) (rowKey order right)) (HoldsKey order kinds) :=
  (keys_ordered order kinds).onto (rowKey order) (fun _ holds => holds.fits) fun _ _ _ _ => rfl

theorem ranksRows_iff (aligned : order.length = kinds.length) (holds : ∀ scope ∈ scopes, HoldsKey order kinds scope)
    {ranked : List Scope} : RanksRows order scopes ranked ↔
      Arranged (fun left right => compareKeys order (rowKey order left) (rowKey order right) = .lt)
        (fun left right => compareKeys order (rowKey order left) (rowKey order right) = .eq) scopes ranked := by
  have before (left : Scope) (one : left ∈ scopes) (right : Scope) (other : right ∈ scopes) :=
    compareKeys_lt aligned (holds left one).fits (holds right other).fits
  have level (left : Scope) (one : left ∈ scopes) (right : Scope) (other : right ∈ scopes) :=
    compareKeys_eq aligned (holds left one).fits (holds right other).fits
  constructor
  · intro ranks
    exact ranks.congr (fun left one right other => (before left one right other).mpr)
      fun left one right other => (level left one right other).mpr
  · intro arranged
    exact arranged.congr (fun left one right other => (before left one right other).mp)
      fun left one right other => (level left one right other).mp

theorem run_sorted {database : Database} {select : Select} {ranked : List Scope} (plain : select.columns ≠ [.count])
    (matched : select.matching database = .ok scopes) (arranged : sorted select.order scopes = .ok ranked) :
    select.run database = .ok ((select.window ranked).map fun scope => project scope [] select.columns) := by
  refine bind_of_ok matched ?_
  rw [if_neg plain]
  refine bind_of_ok arranged ?_
  unfold window
  cases select.limit <;> rfl

/-- Sort columns make a total order of keys up to ties. Rows with such keys are ranked by them, which can be done in one
way only, and a query shows the rows that it finds, which are in the order that they were scanned in, as they are
ranked. -/
theorem queries_sort_stably (aligned : order.length = kinds.length) :
    KeysPreordered order kinds ∧
      ∀ scopes, (∀ scope ∈ scopes, HoldsKey order kinds scope) →
        ∃ ranked, sorted order scopes = .ok ranked ∧ RanksRows order scopes ranked ∧
          (∀ other, RanksRows order scopes other → other = ranked) ∧
          ∀ (database : Database) (select : Select), select.order = order → select.columns ≠ [.count] →
            select.matching database = .ok scopes →
              (∃ scanned, database.scan select.table select.table select.joins = .ok scanned ∧
                scopes.Sublist scanned) ∧
              select.run database = .ok ((select.window ranked).map fun scope => project scope [] select.columns) := by
  refine ⟨keys_preordered aligned, fun scopes holds => ?_⟩
  have orders := rowKeys_ordered order kinds
  have arranged := stableSort_arranged orders holds
  have run := sorted_eq fun scope member => (holds scope member).found
  refine ⟨_, run, (ranksRows_iff aligned holds).mpr arranged, fun other ranks => ?_, ?_⟩
  · exact Arranged.unique orders holds ((ranksRows_iff aligned holds).mp ranks) arranged
  · rintro database select rfl plain matched
    refine ⟨?_, run_sorted plain matched run⟩
    obtain ⟨scanned, all, tested⟩ := bind_ok matched
    exact ⟨scanned, all, (filterM_passed tested).1⟩

end

end Store.Select

/-! Guests by their names downwards and then by their ages, of whom one has no name and two have no age. -/

namespace Seating

open ResourceServer.Store.Select

def guest (name age : Cell) (number : Int) : Scope :=
  [(.ofTable "guest" "name", name), (.ofTable "guest" "age", age), (.ofTable "guest" "number", .integer number)]

def order : List SortColumn :=
  [⟨.ofName "name", true⟩, ⟨.ofName "age", false⟩]

def guests : List Scope :=
  [guest (.text "Ann") (.integer 30) 1, guest (.text "Bob") .null 2, guest (.text "Bob") (.integer 20) 3,
    guest .null (.integer 40) 4, guest (.text "Bob") .null 5]

def seated : List Scope :=
  [guest .null (.integer 40) 4, guest (.text "Bob") .null 2, guest (.text "Bob") .null 5,
    guest (.text "Bob") (.integer 20) 3, guest (.text "Ann") (.integer 30) 1]

theorem guest_holds {name age : Cell} (fit : ColumnType.text.admits name) (fit' : ColumnType.integer.admits age)
    (number : Int) : HoldsKey order [.text, .integer] (guest name age number) where
  found := List.forall_mem_cons.mpr ⟨⟨name, rfl⟩, List.forall_mem_singleton.mpr ⟨age, rfl⟩⟩
  fits := .cons fit (.cons fit' .nil)

theorem guests_hold : ∀ scope ∈ guests, HoldsKey order [.text, .integer] scope := by
  simp only [guests, List.forall_mem_cons, List.not_mem_nil, false_implies, implies_true, and_true]
  exact ⟨guest_holds rfl rfl 1, guest_holds rfl rfl 2, guest_holds rfl rfl 3, guest_holds rfl rfl 4,
    guest_holds rfl rfl 5⟩

end Seating

theorem guests_sort_stably :
    Seating.order.length = [ColumnType.text, .integer].length ∧
      (∀ scope ∈ Seating.guests, Select.HoldsKey Seating.order [.text, .integer] scope) ∧
      Select.RanksRows Seating.order Seating.guests Seating.seated := by
  have aligned : Seating.order.length = [ColumnType.text, .integer].length := rfl
  obtain ⟨_, sorts⟩ := Select.queries_sort_stably aligned
  obtain ⟨ranked, run, ranks, _⟩ := sorts Seating.guests Seating.guests_hold
  have same : Select.sorted Seating.order Seating.guests = .ok Seating.seated := by decide +kernel
  cases run.symm.trans same
  exact ⟨aligned, Seating.guests_hold, ranks⟩

end ResourceServer
