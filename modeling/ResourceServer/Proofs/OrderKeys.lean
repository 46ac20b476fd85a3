import ResourceServer.Proofs.Counting
import ResourceServer.Proofs.Housing
import ResourceServer.Proofs.KeyOrder

/-! The keys that rows are ordered by: fields of the resources that their own lead to. -/

namespace ResourceServer

open ResourceServer.Store ResourceServer.Mapping
open ResourceServer.Sorting (OrderKey SortKey SortError SortRequest)

def Sorting.OrderKey.Known (schema : Schema) (type : EntityType) (key : OrderKey) : Prop :=
  ∃ last, typeAlong schema type key.path = some last ∧ (last.field? key.field).isSome

/-- The fields that the keys of an order name, of what a record leads to; null where a link is absent. -/
def referenceKey (schema : Schema) (database : Database) (type : EntityType) (ordering : List OrderKey)
    (record : Record) : List Cell :=
  ordering.map fun key => recordAt schema database type record key.path (columnName key.field)

section

variable {schema : Schema} {type last : EntityType}

theorem follow_along {path : List String} (followed : Sorting.follow schema type path = .ok last) :
    typeAlong schema type path = some last := by
  induction path generalizing type with
  | nil =>
      cases followed
      rfl
  | cons name rest ih =>
      unfold Sorting.follow at followed
      split at followed
      · cases followed
      · rename_i relationship named
        split at followed
        · cases followed
        · split at followed
          · cases followed
          · rename_i target reached
            have found : findRelationship schema type name = .ok (relationship, target) := by
              simp only [findRelationship, named, findType, reached, Except.map]
            rw [typeAlong_cons found]
            exact ih followed

theorem resolveKey_known {key : SortKey} {resolved : OrderKey}
    (run : Sorting.resolveKey schema type key = .ok resolved) : resolved.Known schema type := by
  unfold Sorting.resolveKey at run
  split at run
  · cases run
  · obtain ⟨last, followed, run⟩ := bind_ok run
    split at run
    · cases run
    · rename_i present
      cases run
      refine ⟨last, follow_along followed, ?_⟩
      exact Option.isSome_iff_ne_none.mpr fun none => present (Option.isNone_iff_eq_none.mpr none)

theorem resolve_known (named : schema.KeysNamed) (known : type ∈ schema.types) {request : SortRequest}
    {ordering : List OrderKey} (run : Sorting.resolve schema type request = .ok ordering) :
    ∀ key ∈ ordering, key.Known schema type := by
  intro key member
  cases request with
  | byPrimaryKey =>
      cases run
      obtain ⟨name, inside, rfl⟩ := List.mem_map.mp member
      obtain ⟨field, own, rfl⟩ := named type known name inside
      refine ⟨type, rfl, ?_⟩
      exact List.find?_isSome.mpr ⟨field, own, decide_eq_true rfl⟩
  | unsorted =>
      cases run
      cases member
  | byKeys keys =>
      obtain ⟨asked, _, read⟩ := mem_of_forall₂ (mapM_forall₂ run).flip member
      exact resolveKey_known read

end

section

variable {schema : Schema} {database : Database} {base : EntityType} {table : Table}

theorem KeepsEach.along {joined : OrderJoins} {scopes : List Scope}
    (keeps : KeepsEach schema database base table joined scopes) {path : List String} {name : String}
    {type : EntityType} (holds : joined.Holds base path name type) :
    typeAlong schema base path = some type := by
  rcases holds with ⟨rfl, _, rfl⟩ | member
  · rfl
  · exact keeps.typed _ member

section

variable (formed : schema.Formed) (distinct : schema.ColumnsDistinct) (shaped : Shaped schema database)
include formed distinct shaped

theorem KeepsEach.followed {path : List String} {joined : OrderJoins} {scopes : List Scope}
    (keeps : KeepsEach schema database base table joined scopes) {type : EntityType}
    (leads : LeadsOne schema database type path) {name : String} {followed : List String}
    (along : typeAlong schema base followed = some type)
    (holds : joined.Holds base followed name type) :
    ∃ after last next, followPath schema joined type name followed path = .ok (after, last, next) := by
  induction leads generalizing joined scopes name followed with
  | done type => exact ⟨joined, type, name, rfl⟩
  | @step type target relationship rest relates toOne one later ih =>
      have found := relates.found formed
      have along' := typeAlong_next along found
      unfold followPath
      dsimp only
      split
      · rename_i entry listed
        have member := List.mem_of_find?_eq_some listed
        have same : entry.path = followed ++ [relationship.name] := by
          simpa using List.find?_some listed
        have typed := keeps.typed entry member
        rw [same] at typed
        obtain rfl : target = entry.type := Option.some.inj (along'.symm.trans typed)
        exact ih keeps along' (.inr (same ▸ member))
      · obtain ⟨grown, kept⟩ := keeps.step formed distinct shaped relates one along holds
        obtain ⟨after, last, next, run⟩ := ih kept along'
          (.inr (List.mem_append_right _ (List.mem_singleton_self _)))
        refine ⟨after, last, next, bind_of_ok found ?_⟩
        dsimp only
        rw [toOne, if_neg Bool.false_ne_true]
        exact run

theorem KeepsEach.ordered {keys : List OrderKey} (known : ∀ key ∈ keys, key.Known schema base)
    (leads : ∀ key ∈ keys, LeadsOne schema database base key.path) {joined : OrderJoins}
    {scopes : List Scope} (keeps : KeepsEach schema database base table joined scopes) :
    ∃ after order, sortColumns schema base joined keys = .ok (after, order) := by
  induction keys generalizing joined scopes with
  | nil => exact ⟨joined, [], rfl⟩
  | cons key rest ih =>
      have one := leads key List.mem_cons_self
      obtain ⟨middle, last, next, followed⟩ :=
        keeps.followed formed distinct shaped one rfl (.inl ⟨rfl, rfl, rfl⟩)
      obtain ⟨⟨grown, kept⟩, holds, _⟩ :=
        keeps.follow formed distinct shaped one rfl (.inl ⟨rfl, rfl, rfl⟩) followed
      obtain ⟨after, order, sorted⟩ := ih
        (fun other member => known other (List.mem_cons_of_mem _ member))
        (fun other member => leads other (List.mem_cons_of_mem _ member)) kept
      obtain ⟨last', along, named⟩ := known key List.mem_cons_self
      obtain rfl : last' = last := by
        exact Option.some.inj (along.symm.trans (kept.along holds))
      refine ⟨after, ⟨fieldColumn next key.field, key.descending⟩ :: order, bind_of_ok followed ?_⟩
      dsimp only
      rw [if_neg (by simp [Option.isNone_iff_eq_none, Option.isSome_iff_ne_none.mp named])]
      exact bind_of_ok sorted rfl

end

theorem KeepsEach.sortKey {joined : OrderJoins} {scopes : List Scope}
    (keeps : KeepsEach schema database base table joined scopes) (distinct : schema.ColumnsDistinct)
    (shaped : Shaped schema database) (known : base ∈ schema.types) {ordering : List OrderKey}
    {order : List SortColumn}
    (sorts : List.Forall₂ (Sorts base joined) ordering order) {row : Row} {scope : Scope}
    (member : row ∈ table.rows) (widened : Widened schema database base table joined row scope) :
    Select.sortKey order scope = .ok (referenceKey schema database base ordering (table.record row)) := by
  unfold Select.sortKey referenceKey
  induction sorts with
  | nil => rfl
  | @cons key sort keys order one _ ih =>
      obtain ⟨_, name, last, holds, named, same⟩ := one
      obtain ⟨found, here, bound, _⟩ := widened.stands keeps.found keeps.wide member holds
      obtain ⟨field, named⟩ := Option.isSome_iff_exists.mp named
      have known' := typeAlong_known known (keeps.along holds)
      have present := shaped.field distinct known' here named
      have read : scope.get sort.column =
          .ok (recordAt schema database base (table.record row) key.path (columnName key.field)) := by
        rw [same]
        exact bound _ present
      rw [List.mapM_cons, read, ih]
      rfl

variable (stores : Stores schema database) (distinct : schema.ColumnsDistinct)
  (known : base ∈ schema.types)
include stores distinct known

theorem key_admits {key : OrderKey} (named : key.Known schema base) :
    ∃ kind : ColumnType, ∀ record ∈ database.records (tableName base),
      kind.admits (recordAt schema database base record key.path (columnName key.field)) := by
  obtain ⟨last, along, named⟩ := named
  obtain ⟨field, named⟩ := Option.isSome_iff_exists.mp named
  have known' := typeAlong_known known along
  obtain ⟨table, found, _⟩ := stores.entities last known'
  have typed := (stores.field distinct known' found named).2
  refine ⟨columnType field.type, fun record member => ?_⟩
  rcases recordAt_stored member along with stored | blank
  · rw [records_of_table found] at stored
    obtain ⟨row, inside, same⟩ := List.mem_map.mp stored
    rw [← same]
    exact typed row inside
  · rw [blank]
    rfl

theorem referenceKey_fits {ordering : List OrderKey} (named : ∀ key ∈ ordering, key.Known schema base) :
    ∃ kinds : List ColumnType, kinds.length = ordering.length ∧
      ∀ record ∈ database.records (tableName base),
        KeyFits kinds (referenceKey schema database base ordering record) := by
  induction ordering with
  | nil => exact ⟨[], rfl, fun _ _ => .nil⟩
  | cons key rest ih =>
      obtain ⟨kind, first⟩ := key_admits stores distinct known (named key List.mem_cons_self)
      obtain ⟨kinds, same, others⟩ := ih fun other member => named other (List.mem_cons_of_mem _ member)
      refine ⟨kind :: kinds, congrArg Nat.succ same, fun record member => ?_⟩
      exact .cons (first record member) (others record member)

end

end ResourceServer
