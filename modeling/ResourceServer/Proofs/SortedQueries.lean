import ResourceServer.Proofs.FilterValues
import ResourceServer.Proofs.OrderKeys

/-! Queries in an order: what they return, and in what order. -/

namespace ResourceServer

open ResourceServer.Store ResourceServer.Mapping
open ResourceServer.Filter (Node Predicate resolveAll)
open ResourceServer.Sorting (OrderKey SortRequest)

section

variable {schema : Schema} {database : Database} {type : EntityType} {table : Table}

def Beginning (schema : Schema) (database : Database) (type : EntityType) (table : Table)
    (joined : OrderJoins) (row : Row) (scope : Scope) : Prop :=
  row ∈ table.rows ∧ Widened schema database type table joined row scope

def compareRows (schema : Schema) (database : Database) (type : EntityType) (table : Table)
    (ordering : List OrderKey) (order : List SortColumn) (left right : Row) : Ordering :=
  Select.compareKeys order (referenceKey schema database type ordering (table.record left))
    (referenceKey schema database type ordering (table.record right))

theorem KeepsEach.sorted {joined : OrderJoins} {scopes kept : List Scope}
    (keeps : KeepsEach schema database type table joined scopes) (distinct : schema.ColumnsDistinct)
    (shaped : Shaped schema database) (known : type ∈ schema.types) {ordering : List OrderKey}
    {order : List SortColumn} (sorts : List.Forall₂ (Sorts type joined) ordering order)
    {rows : List Row}
    (aligned : List.Forall₂ (Beginning schema database type table joined) rows kept) :
    ∃ ranked, Select.sorted order kept = .ok ranked ∧
      List.Forall₂ (Beginning schema database type table joined)
        (stableSort (compareRows schema database type table ordering order) rows) ranked := by
  unfold Select.sorted
  by_cases empty : order = []
  · subst empty
    refine ⟨kept, rfl, ?_⟩
    rwa [stableSort_level fun left right => by simp [compareRows, Select.compareKeys]]
  · rw [if_neg (by simpa using empty)]
    have keyed : ∃ keyed : List (List Cell × Scope),
        kept.mapM (fun scope => do return (← Select.sortKey order scope, scope)) = .ok keyed ∧
          List.Forall₂ (fun row (entry : List Cell × Scope) =>
            entry.1 = referenceKey schema database type ordering (table.record row) ∧
              Beginning schema database type table joined row entry.2) rows keyed := by
      induction aligned with
      | nil => exact ⟨[], rfl, .nil⟩
      | @cons row scope _ _ one _ ih =>
          obtain ⟨keyed, mapped, related⟩ := ih
          have read := keeps.sortKey distinct shaped known sorts one.1 one.2
          refine ⟨(_, scope) :: keyed, ?_, .cons ⟨rfl, one⟩ related⟩
          rw [List.mapM_cons, read, mapped]
          rfl
    obtain ⟨keyed, mapped, related⟩ := keyed
    refine ⟨_, bind_of_ok mapped rfl, ?_⟩
    rw [List.forall₂_map_right_iff]
    refine (stableSort_forall₂ ?_ related).imp fun row entry one => one.2
    intro left right left' right' one other
    simp only [compareRows, one.1, other.1]

theorem Beginning.reads {joined : OrderJoins} {row : Row} {scope : Scope} {resource : Instance}
    (begins : Beginning schema database type table joined row scope) (wide : table.Wide)
    (present : ∀ field ∈ type.fields, table.Has (columnName field.name))
    (read : readRecord type (table.record row) = .ok resource) : Reads type scope resource := by
  obtain ⟨member, widened⟩ := begins
  exact ⟨_, project_fields (widened.binds (wide row member)) present [], read⟩

theorem records_arranged (stores : Stores schema database) (distinct : schema.ColumnsDistinct)
    (known : type ∈ schema.types) (found : database.table? (tableName type) = some table)
    {ordering : List OrderKey} (named : ∀ key ∈ ordering, key.Known schema type)
    {order : List SortColumn} (directions : order.map SortColumn.descending = ordering.map OrderKey.descending)
    {rows : List Row} (stored : ∀ row ∈ rows, row ∈ table.rows) :
    Arranged
      (fun left right => KeySooner (ordering.map OrderKey.descending)
        (referenceKey schema database type ordering left)
        (referenceKey schema database type ordering right))
      (fun left right => KeyTied (referenceKey schema database type ordering left)
        (referenceKey schema database type ordering right))
      (rows.map table.record)
      ((stableSort (compareRows schema database type table ordering order) rows).map table.record) := by
  obtain ⟨kinds, aligned, fits⟩ := referenceKey_fits stores distinct known named
  have fitting : ∀ record ∈ rows.map table.record,
      KeyFits kinds (referenceKey schema database type ordering record) := by
    intro record member
    obtain ⟨row, inside, rfl⟩ := List.mem_map.mp member
    apply fits
    rw [records_of_table found]
    exact List.mem_map_of_mem (stored row inside)
  have lengths : order.length = kinds.length := by
    have same := congrArg List.length directions
    simp only [List.length_map] at same
    omega
  have orders := (keys_ordered order kinds).onto (referenceKey schema database type ordering)
    (fun record fit => fit) fun _ _ _ _ => rfl
  have arranged := stableSort_arranged orders fitting
  rw [stableSort_map] at arranged
  refine arranged.congr (fun left member right member' sooner => ?_) fun left member right member' level => ?_
  · rw [← directions]
    exact (compareKeys_lt lengths (fitting left member) (fitting right member')).mp sooner
  · exact (compareKeys_eq lengths (fitting left member) (fitting right member')).mp level

end

/-- No generated name is this one: not that of a subquery and its links, nor that of what an order joins. -/
def Unaliased (name : String) : Prop :=
  ∀ number : Nat, name ≠ s!"sub_{number}" ∧ name ≠ s!"link_{number}" ∧ name ≠ s!"sort_{number}" ∧
    name ≠ s!"sort_{number}_link"

theorem Unaliased.unsorted {name : String} (unaliased : Unaliased name) : Unsorted name 1 := by
  intro number _
  obtain ⟨_, _, first, second⟩ := unaliased number
  exact ⟨first, second⟩

theorem unaliased_of_head {name : String}
    (head : name.toList.head? ≠ some 's' ∧ name.toList.head? ≠ some 'l') : Unaliased name := by
  intro number
  have first (front : String) (letter : Char) (begins : front.toList.head? = some letter)
      (other : name.toList.head? ≠ some letter) (rest : String) : name ≠ front ++ rest := by
    rintro rfl
    apply other
    rw [String.toList_append, List.head?_append, begins]
    rfl
  refine ⟨?_, ?_, unsorted_of_head head.1 0 number (Nat.zero_le number)⟩
  · exact first "sub_" 's' rfl head.1 _
  · exact first "link_" 'l' rfl head.2 _

section

variable {schema : Schema} {type : EntityType}

def chosenRows (schema : Schema) (database : Database) (type : EntityType) (predicate : Predicate)
    (table : Table) : List Row :=
  table.rows.filter fun row => truth schema database type (table.record row) predicate = .yes

theorem ranks_sorted {database : Database} (formed : schema.Formed) (distinct : schema.ColumnsDistinct)
    (stores : Stores schema database) (known : type ∈ schema.types) {table : Table}
    (found : database.table? (tableName type) = some table) (unaliased : Unaliased (tableName type))
    {predicate : Predicate} (resolved : predicate.Resolved schema type) {ordering : List OrderKey}
    (named : ∀ key ∈ ordering, key.Known schema type)
    (leads : ∀ key ∈ ordering, LeadsOne schema database type key.path) :
    ∃ joined order ranked, order.map SortColumn.descending = ordering.map OrderKey.descending ∧
      Ranks schema database type predicate ordering ranked ∧
        List.Forall₂ (Beginning schema database type table joined)
          (stableSort (compareRows schema database type table ordering order)
            (chosenRows schema database type predicate table)) ranked := by
  have shaped := stores.shaped
  obtain ⟨table', found', _, typed⟩ := stores.entities type known
  cases found.symm.trans found'
  have wide := wide_of_typed typed
  -- The joins of the order keep each row once.
  have alone : KeepsEach schema database type table ⟨[], []⟩ _ :=
    keepsEach_alone found wide unaliased.unsorted
  obtain ⟨joined, order, sorted⟩ := alone.ordered formed distinct shaped named leads
  obtain ⟨⟨grown, keeps⟩, sorts, _⟩ := alone.order formed distinct shaped leads sorted
  have directions : order.map SortColumn.descending = ordering.map OrderKey.descending := by
    rw [← List.forall₂_eq_eq_eq, List.forall₂_map_left_iff, List.forall₂_map_right_iff]
    exact sorts.flip.imp fun sort key one => one.1
  -- The clause holds of the rows that the predicate holds of, whatever is joined to them.
  obtain ⟨clause, _, compiles, _, settled⟩ := compiles stores distinct resolved known
    fun number (_ : 1 ≤ number) => ⟨(unaliased number).1, (unaliased number).2.1⟩
  have compiled : filterClause schema type predicate = .ok clause := by
    simp only [filterClause, compiles, Except.map]
  have met : ∀ row scope, Beginning schema database type table joined row scope →
      Clause.meetsAll database [clause] scope =
        .ok (decide (truth schema database type (table.record row) predicate = .yes)) := by
    intro row scope begins
    have bound := begins.2.binds (wide row begins.1)
    rw [meetsAll_single, (settled table found row begins.1 scope bound).eval]
    rfl
  have rows : List.Forall₂ (Beginning schema database type table joined) table.rows grown :=
    (List.forall₂_and_left _ _).mpr ⟨fun row member => member, keeps.rows⟩
  obtain ⟨kept, tested, aligned⟩ := filterM_forall₂ _ rows met
  obtain ⟨ranked, arranged, placed⟩ := keeps.sorted distinct shaped known sorts aligned
  exact ⟨joined, order, ranked, directions,
    .steps compiled sorted keeps.scanned tested arranged, placed⟩

variable {connection : Connection}

end

/-! Books by their authors, and those of one author by their titles, the last first. -/

namespace Shelf

def filed : List OrderKey :=
  [⟨["author"], "name", false⟩, ⟨[], "title", true⟩]

theorem filed_resolved : Sorting.resolve schema book
    (.byKeys [⟨false, ["author", "name"]⟩, ⟨true, ["title"]⟩]) = .ok filed := by
  decide

def early : Predicate :=
  .compare "id" .le (.value (.integer 3))

theorem early_accepted : resolveAll schema Client.now book
    [.leaf "id" (.compare .le) (.value (.integer 3))] = .ok early := rfl

def shelved : Connection :=
  ⟨tables, none, []⟩

theorem leads_to_one : ∀ key ∈ filed, LeadsOne schema tables book key.path := by
  have one : ∀ record ∈ tables.records (tableName book),
      LinksOne tables book author (.ownerKey "author_id") record := by decide +kernel
  have relates : schema.Relates book ⟨"author", .toOne, "author", true, .ownerKey "author_id"⟩ author :=
    ⟨List.mem_cons_of_mem _ List.mem_cons_self, List.mem_cons_self, rfl⟩
  have written : LeadsOne schema tables book ["author"] := .step relates rfl one (.done author)
  intro key member
  simp only [filed, List.mem_cons, List.not_mem_nil, or_false] at member
  rcases member with rfl | rfl
  · exact written
  · exact .done book

end Shelf

/-- The book without an author comes first, and then the one without a title. -/
example : (execute (Mapping.query Shelf.schema Shelf.book
      { predicate := Shelf.early, ordering := Shelf.filed }) Shelf.shelved).1.map
        (List.map Instance.id) = .ok ["2", "3", "1"] := by
  decide +kernel

end ResourceServer
