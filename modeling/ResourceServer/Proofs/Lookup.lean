import Mathlib.Data.List.Perm.Subperm
import ResourceServer.Proofs.Agreement
import ResourceServer.Proofs.Changes
import ResourceServer.Proofs.Writes
import ResourceServer.Relinking

/-! What is known of the resources that are found by their identities. -/

namespace ResourceServer

open ResourceServer.Store ResourceServer.Mapping

namespace Store

theorem filterAuxM_passed {α ε : Type} {test : α → Except ε Bool} {items before kept : List α}
    (run : items.filterAuxM test before = .ok kept) :
    ∃ passed : List α, kept = passed.reverse ++ before ∧ passed.Sublist items ∧
      ∀ item ∈ passed, test item = .ok true := by
  induction items generalizing before with
  | nil =>
      cases run
      exact ⟨[], rfl, .slnil, nofun⟩
  | cons first rest ih =>
      rw [List.filterAuxM] at run
      obtain ⟨passes, tested, run⟩ := bind_ok run
      obtain ⟨passed, rfl, among, met⟩ := ih run
      cases passes with
      | false => exact ⟨passed, rfl, among.cons first, met⟩
      | true =>
          refine ⟨first :: passed, ?_, among.cons_cons first, List.forall_mem_cons.mpr ⟨tested, met⟩⟩
          rw [List.reverse_cons, List.append_assoc]
          rfl

theorem filterM_passed {α ε : Type} {test : α → Except ε Bool} {items kept : List α}
    (run : items.filterM test = .ok kept) :
    kept.Sublist items ∧ ∀ item ∈ kept, test item = .ok true := by
  obtain ⟨reversed, all, same⟩ := bind_ok run
  obtain ⟨passed, rfl, among, met⟩ := filterAuxM_passed all
  cases same
  rw [List.append_nil, List.reverse_reverse]
  exact ⟨among, met⟩

theorem sorted_perm {order : List SortColumn} {scopes ordered : List Scope}
    (run : Select.sorted order scopes = .ok ordered) : ordered.Perm scopes := by
  unfold Select.sorted at run
  split at run
  · cases run
    exact .refl _
  · obtain ⟨keyed, all, same⟩ := bind_ok run
    cases same
    have places : keyed.map Prod.snd = scopes := by
      have each := (mapM_forall₂ all).flip.imp fun entry scope one => by
        obtain ⟨key, _, same⟩ := bind_ok one
        exact (congrArg Prod.snd (Except.ok.inj same)).symm
      rw [← List.forall₂_eq_eq_eq, List.forall₂_map_left_iff]
      exact each
    exact places ▸ (stableSort_perm _ keyed).map Prod.snd

theorem window_sublist {α : Type} (limit : Option Nat) (items : List α) :
    (match limit with
      | some limit => items.take limit
      | none => items).Sublist items := by
  cases limit with
  | none => exact List.Sublist.refl _
  | some limit => exact List.take_sublist limit items

theorem run_kept {database : Database} {select : Select} (several : select.columns ≠ [.count])
    {results : List (Except StoreError Row)} (run : select.run database = .ok results) :
    ∃ scopes kept : List Scope, database.scan select.table select.table select.joins = .ok scopes ∧
      kept.Subperm scopes ∧
      (∀ scope ∈ kept, Clause.meetsAll database select.filters scope = .ok true) ∧
      results = kept.map fun scope => Select.project scope [] select.columns := by
  unfold Select.run at run
  obtain ⟨passed, matched, run⟩ := bind_ok run
  rw [if_neg several] at run
  obtain ⟨ordered, sorted, run⟩ := bind_ok run
  cases run
  obtain ⟨scopes, scanned, filtered⟩ := bind_ok matched
  obtain ⟨among, met⟩ := filterM_passed filtered
  have permuted := sorted_perm sorted
  have dropped := (window_sublist select.limit _).trans (List.drop_sublist select.offset ordered)
  exact ⟨scopes, _, scanned, (dropped.subperm.trans permuted.subperm).trans among.subperm,
    fun scope inside => met scope (permuted.mem_iff.mp (dropped.subset inside)), rfl⟩

theorem project_before {scope : Scope} {name : String} {fields : List Field} {before row : Row}
    (run : Select.project scope before
      (fields.map fun field => .column (fieldColumn name field.name)) = .ok row) :
    ∃ tail, row = before.reverse ++ tail := by
  induction fields generalizing before with
  | nil =>
      cases run
      exact ⟨[], by simp⟩
  | cons field rest ih =>
      obtain ⟨cell, _, run⟩ := bind_ok run
      obtain ⟨tail, same⟩ := ih run
      exact ⟨cell :: tail, by simp [same]⟩

theorem project_identity {scope : Scope} {type : EntityType} {name : String} {row : Row}
    (run : Select.project scope [] (fieldColumns type name) = .ok row) :
    ∃ cell tail, scope.get (idColumn type name) = .ok cell ∧ row = cell :: tail := by
  obtain ⟨cell, found, run⟩ := bind_ok run
  obtain ⟨tail, same⟩ := project_before run
  exact ⟨cell, tail, found, same⟩

end Store

section

variable {connection after : Connection}

theorem execute_selectAll_ok {select : Select} {rows : List Row}
    (run : execute (selectAll select) connection = (.ok rows, after)) :
    select.run connection.database = .ok (rows.map .ok) := by
  obtain ⟨results, reached, one, last⟩ := execute_bind_ok run
  have performed := execute_mapError_ok one
  have ran : select.run connection.database = .ok results := by
    rw [← execute_select, performed]
  rw [execute_ofExcept] at last
  have all : (Select.allRows results).mapError MappingError.store = .ok rows :=
    congrArg Prod.fst last
  have read : results.mapM id = .ok rows := by
    unfold Select.allRows at all
    cases outcome : results.mapM (id : Except StoreError Row → _) with
    | error error =>
        rw [outcome] at all
        cases all
    | ok found =>
        rw [outcome] at all
        cases all
        rfl
  have same : results = rows.map .ok := by
    rw [← List.forall₂_eq_eq_eq, List.forall₂_map_right_iff]
    exact mapM_forall₂ read
  rw [ran, same]

theorem readRow_id {type : EntityType} {cell : Cell} {tail : Row} {resource : Instance}
    (read : readRow type (cell :: tail) = .ok resource) :
    ∃ value, valueOf type.identity.type cell = .ok value ∧ resource.id = value.text := by
  obtain ⟨values, fields, rfl⟩ := map_ok read
  obtain ⟨value, one, fields⟩ := bind_ok fields
  obtain ⟨rest, _, same⟩ := bind_ok fields
  cases same
  refine ⟨value, one, ?_⟩
  unfold Instance.ofValues Instance.id Keyed.get?
  rw [List.lookup_cons_self]
  rfl

def Identified (database : Database) (type : EntityType) (record : Record) (id : String) : Prop :=
  record ∈ database.records (tableName type) ∧
    ∃ value, valueOf type.identity.type (record (idName type)) = .ok value ∧ id = value.text

/-- Each resource that is found by some identities is stored under one of them. -/
theorem get_run {type : EntityType} {ids : List String} {resources : List Instance}
    (wide : connection.database.Wide)
    (run : execute (Mapping.get type ids) connection = (.ok resources, after)) :
    ∀ resource ∈ resources, ∃ record,
      Identified connection.database type record resource.id ∧
        ∃ cell ∈ idCells type ids, (record (idName type)).agrees cell := by
  intro resource member
  unfold Mapping.get at run
  dsimp only at run
  split at run
  · cases run
    cases member
  · obtain ⟨rows, reached, selected, last⟩ := execute_bind_ok run
    have ran := execute_selectAll_ok selected
    rw [execute_ofExcept] at last
    have read : rows.mapM (readRow type) = .ok resources := congrArg Prod.fst last
    obtain ⟨row, among, one⟩ := mem_of_forall₂ (mapM_forall₂ read).flip member
    obtain ⟨scopes, kept, scanned, subperm, meets, same⟩ :=
      run_kept (by unfold fieldColumns EntityType.fields; simp) ran
    obtain ⟨scope, inside, projected⟩ :=
      List.mem_map.mp (same ▸ List.mem_map_of_mem among : Except.ok row ∈ kept.map _)
    have met := meets scope inside
    have inside := subperm.subset inside
    obtain ⟨table, here, same⟩ := bind_ok scanned
    cases same
    have found := table_found here
    obtain ⟨stored, held, rfl⟩ := List.mem_map.mp inside
    obtain ⟨cell, tail, given, rfl⟩ := project_identity projected
    have named := Database.table?_name found
    have tested := oneOf_tests wide (tableName type) (idName type) (idCells type ids) table found
      stored held true (by
        unfold Database.meets
        rw [named]
        exact met)
    have identity : cell = table.record stored (idName type) := by
      have here : Scope.get (table.scope table.name stored) (.ofTable table.name (idName type)) =
          .ok cell := by
        rw [named]
        exact given
      exact scope_get (wide _ table found stored held) here
    rw [identity] at one
    refine ⟨table.record stored, ⟨?_, readRow_id one⟩, List.any_eq_true.mp tested.symm⟩
    rw [records_of_table found]
    exact List.mem_map_of_mem held

end

end ResourceServer
