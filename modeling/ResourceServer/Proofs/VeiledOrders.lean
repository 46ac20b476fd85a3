import ResourceServer.Proofs.SecretFields
import ResourceServer.Proofs.SortedQueries

/-! Orders that do not sort by secret attributes. -/

namespace ResourceServer

open ResourceServer.Store ResourceServer.Mapping
open ResourceServer.Sorting (OrderKey)

theorem fresh_of_sort (rest : String) : Fresh ("sort_" ++ rest) 1 := by
  have other (front : String) (differ : front.toList.take 2 ≠ ['s', 'o'])
      (long : 2 ≤ front.toList.length) (number : Nat) : "sort_" ++ rest ≠ front ++ toString number := by
    intro same
    have begins := congrArg (fun text => text.toList.take 2) same
    simp only [String.toList_append] at begins
    rw [List.take_append_of_le_length long] at begins
    exact differ begins.symm
  exact fun number _ => ⟨other "sub_" (by decide) (by decide) number, other "link_" (by decide) (by decide) number⟩

theorem Unaliased.fresh {name : String} (unaliased : Unaliased name) : Fresh name 1 := by
  intro number _
  obtain ⟨first, second, _⟩ := unaliased number
  exact ⟨first, second⟩

def Mapping.OrderJoins.sources (joined : OrderJoins) (base : EntityType) : List (String × String) :=
  sourcesOf (tableName base) (tableName base) joined.joins

/-- What is joined for an order goes by names of its own, and is joined by what is not secret. -/
structure Charts (schema : Schema) (secret : Secrets) (base : EntityType) (joined : OrderJoins) : Prop where
  distinct : ((joined.sources base).map Prod.fst).Nodup
  fresh : ∀ source ∈ joined.sources base, Fresh source.1 1 ∧ Unsorted source.1 (joined.paths.length + 1)
  among : ∀ path name type, joined.Holds base path name type → (name, tableName type) ∈ joined.sources base
  typed : ∀ path name type, joined.Holds base path name type → typeAlong schema base path = some type
  shown : ∀ join ∈ joined.joins, (schema.cover secret).Bares (joined.sources base) join.left ∧
    (schema.cover secret).Bares (joined.sources base) join.right

section

variable {schema : Schema} {secret : Secrets} {base type target : EntityType} {relationship : Relationship}

theorem charts_alone (unaliased : Unaliased (tableName base)) : Charts schema secret base ⟨[], []⟩ := by
  have alone {path : List String} {name : String} {type : EntityType}
      (holds : OrderJoins.Holds ⟨[], []⟩ base path name type) :
      path = [] ∧ name = tableName base ∧ type = base :=
    holds.resolve_right List.not_mem_nil
  refine ⟨List.nodup_singleton _, ?_, ?_, ?_, nofun⟩
  · exact List.forall_mem_singleton.mpr ⟨unaliased.fresh, unaliased.unsorted⟩
  · intro path name type holds
    obtain ⟨rfl, rfl, rfl⟩ := alone holds
    exact List.mem_singleton_self _
  · intro path name type holds
    obtain ⟨rfl, rfl, rfl⟩ := alone holds
    rfl

section

variable (apart : schema.Apart) {sources : List (String × String)} {name : String}
include apart

theorem Schema.Apart.bares_id (known : type ∈ schema.types) (member : (name, tableName type) ∈ sources) :
    (schema.cover secret).Bares sources (idColumn type name) :=
  ⟨_, member, _, rfl, fun _ _ => apart.cover_id known⟩

theorem Schema.Apart.bares_key {table column : String} (refers : Refers schema table column target)
    (member : (name, table) ∈ sources) : (schema.cover secret).Bares sources (.ofTable name column) :=
  ⟨_, member, _, rfl, fun _ _ => apart.cover_key refers⟩

end

variable (secret) in
theorem stepJoins_bares (apart : schema.Apart) (relates : schema.Relates type relationship target)
    (name next : String) :
    let joins := stepJoins type target relationship.storage name next
    (next, tableName target) ∈ joins.map (fun join => (join.rename, join.table)) ∧
      (joins.map Join.rename).Nodup ∧ (∀ join ∈ joins, join.rename = next ∨ join.rename = linkName next) ∧
      ∀ sources, (name, tableName type) ∈ sources →
        joins.map (fun join => (join.rename, join.table)) ⊆ sources → ∀ join ∈ joins,
          (schema.cover secret).Bares sources join.left ∧ (schema.cover secret).Bares sources join.right := by
  intro joins
  have known' : target ∈ schema.types := List.mem_of_find?_eq_some relates.leads
  unfold joins
  cases storage : relationship.storage with
  | ownerKey column =>
      have refers := Refers.ownerKey relates.known relates.own storage relates.leads
      refine ⟨List.mem_singleton_self _, List.nodup_singleton _,
        List.forall_mem_singleton.mpr (.inl rfl), fun sources here inside => List.forall_mem_singleton.mpr ?_⟩
      exact ⟨apart.bares_id known' (inside (List.mem_singleton_self _)), apart.bares_key refers here⟩
  | targetKey column =>
      have refers := Refers.targetKey relates.known relates.own storage relates.leads
      refine ⟨List.mem_singleton_self _, List.nodup_singleton _,
        List.forall_mem_singleton.mpr (.inl rfl), fun sources here inside => List.forall_mem_singleton.mpr ?_⟩
      exact ⟨apart.bares_key refers (inside (List.mem_singleton_self _)), apart.bares_id relates.known here⟩
  | joinTable pairs ownerColumn targetColumn =>
      have owners := Refers.ownerPair relates.known relates.own storage
      have targets := Refers.targetPair relates.known relates.own storage relates.leads
      refine ⟨List.mem_cons_of_mem _ (List.mem_singleton_self _), ?_, ?_, fun sources here inside => ?_⟩
      · exact List.nodup_cons.mpr ⟨fun member => linkName_ne next (List.mem_singleton.mp member),
          List.nodup_singleton _⟩
      · exact List.forall_mem_cons.mpr ⟨.inr rfl, List.forall_mem_singleton.mpr (.inl rfl)⟩
      · obtain ⟨link, inside⟩ := List.cons_subset.mp inside
        have reached := inside (List.mem_singleton_self _)
        exact List.forall_mem_cons.mpr
          ⟨⟨apart.bares_key owners link, apart.bares_id relates.known here⟩,
            List.forall_mem_singleton.mpr ⟨apart.bares_id known' reached, apart.bares_key targets link⟩⟩

theorem Charts.step (apart : schema.Apart) {joined : OrderJoins} (charts : Charts schema secret base joined)
    (relates : schema.Relates type relationship target) {name : String} {followed : List String}
    (holds : joined.Holds base followed name type) :
    Charts schema secret base
      ⟨joined.joins ++ stepJoins type target relationship.storage name s!"sort_{joined.paths.length + 1}",
        joined.paths ++
          [⟨followed ++ [relationship.name], s!"sort_{joined.paths.length + 1}", target⟩]⟩ := by
  obtain ⟨reached, apart', named, bares⟩ :=
    stepJoins_bares secret apart relates name s!"sort_{joined.paths.length + 1}"
  set next := s!"sort_{joined.paths.length + 1}"
  set more := stepJoins type target relationship.storage name next
  set grown : OrderJoins := ⟨joined.joins ++ more, joined.paths ++ [⟨followed ++ [relationship.name], next, target⟩]⟩
  have sources : grown.sources base = joined.sources base ++ more.map fun join => (join.rename, join.table) := by
    unfold OrderJoins.sources sourcesOf
    rw [List.map_append, List.cons_append]
  have older : joined.sources base ⊆ grown.sources base := sources ▸ List.subset_append_left _ _
  have newer : more.map (fun join => (join.rename, join.table)) ⊆ grown.sources base :=
    sources ▸ List.subset_append_right _ _
  refine ⟨?_, ?_, ?_, ?_, ?_⟩
  · rw [sources, List.map_append, List.map_map, List.nodup_append]
    refine ⟨charts.distinct, apart', fun old member new member' same => ?_⟩
    obtain ⟨source, inside, rfl⟩ := List.mem_map.mp member
    obtain ⟨join, inside', rfl⟩ := List.mem_map.mp member'
    obtain ⟨first, second⟩ := (charts.fresh source inside).2 _ le_rfl
    exact (named join inside').elim (fun equal => first (same.trans equal)) fun equal => second (same.trans equal)
  · rw [sources]
    refine List.forall_mem_append.mpr ⟨fun source member => ?_, fun source member => ?_⟩
    · obtain ⟨fresh, unsorted⟩ := charts.fresh source member
      exact ⟨fresh, unsorted.later (by simp [grown])⟩
    · obtain ⟨join, inside, rfl⟩ := List.mem_map.mp member
      have length : grown.paths.length + 1 = joined.paths.length + 1 + 1 := by simp [grown]
      rw [length]
      rcases named join inside with same | same
      · exact ⟨by rw [same]; exact fresh_of_sort _, by rw [same]; exact unsorted_sort _⟩
      · refine ⟨?_, by rw [same]; exact unsorted_link _⟩
        rw [same, linkName, String.append_assoc]
        exact fresh_of_sort _
  · intro path table last held
    rcases held with root | member
    · exact older (charts.among path table last (.inl root))
    · rcases List.mem_append.mp member with old | new
      · exact older (charts.among path table last (.inr old))
      · cases List.mem_singleton.mp new
        exact newer reached
  · intro path table last held
    rcases held with root | member
    · exact charts.typed path table last (.inl root)
    · rcases List.mem_append.mp member with old | new
      · exact charts.typed path table last (.inr old)
      · cases List.mem_singleton.mp new
        exact typeAlong_next (charts.typed _ _ _ holds) (relates.found apart.formed)
  · refine List.forall_mem_append.mpr ⟨fun join member => ?_, fun join member => ?_⟩
    · exact (charts.shown join member).imp (·.mono older) (·.mono older)
    · exact bares _ (older (charts.among _ _ _ holds)) newer join member

theorem Charts.follow (apart : schema.Apart) {path : List String} {joined after : OrderJoins}
    (charts : Charts schema secret base joined) {last : EntityType} {name next : String}
    {followed : List String} (known : base ∈ schema.types) (holds : joined.Holds base followed name type)
    (run : followPath schema joined type name followed path = .ok (after, last, next)) :
    Charts schema secret base after ∧ after.Holds base (followed ++ path) next last ∧
      joined.paths ⊆ after.paths := by
  induction path generalizing joined type name followed with
  | nil =>
      cases run
      rw [List.append_nil]
      exact ⟨charts, holds, List.Subset.refl _⟩
  | cons segment rest ih =>
      unfold followPath at run
      dsimp only at run
      rw [List.append_cons]
      split at run
      · rename_i entry listed
        have member := List.mem_of_find?_eq_some listed
        have same : entry.path = followed ++ [segment] := by
          simpa using List.find?_some listed
        exact ih charts (.inr (same ▸ member)) run
      · obtain ⟨⟨relationship, target⟩, found, run⟩ := bind_ok run
        dsimp only at run
        split at run
        · cases run
        · have known' := typeAlong_known known (charts.typed _ _ _ holds)
          obtain ⟨relates, named⟩ := findRelationship_relates known' found
          obtain rfl := relationship?_name named
          obtain ⟨charted, holds', more⟩ := ih (charts.step apart relates holds)
            (.inr (List.mem_append_right _ (List.mem_singleton_self _))) run
          exact ⟨charted, holds', List.Subset.trans (List.subset_append_left _ _) more⟩

def Sorting.OrderKey.Spares (schema : Schema) (secret : Secrets) (type : EntityType) (key : OrderKey) : Prop :=
  ∀ last, typeAlong schema type key.path = some last → ¬secret last key.field

theorem Charts.order (apart : schema.Apart) (known : base ∈ schema.types) {keys : List OrderKey}
    (spares : ∀ key ∈ keys, key.Spares schema secret base) {joined after : OrderJoins}
    (charts : Charts schema secret base joined) {order : List SortColumn}
    (run : sortColumns schema base joined keys = .ok (after, order)) :
    Charts schema secret base after ∧ joined.paths ⊆ after.paths ∧
      ∀ sort ∈ order, (schema.cover secret).Bares (after.sources base) sort.column := by
  induction keys generalizing joined order with
  | nil =>
      cases run
      exact ⟨charts, List.Subset.refl _, nofun⟩
  | cons key rest ih =>
      obtain ⟨⟨middle, last, name⟩, followed, run⟩ := bind_ok run
      obtain ⟨charted, holds, more⟩ := charts.follow apart known (.inl ⟨rfl, rfl, rfl⟩) followed
      dsimp only at run
      split at run
      · cases run
      · rename_i present
        obtain ⟨⟨later, others⟩, sorted, same⟩ := bind_ok run
        cases same
        obtain ⟨charted', more', bares⟩ :=
          ih (fun other member => spares other (List.mem_cons_of_mem _ member)) charted sorted
        refine ⟨charted', List.Subset.trans more more', List.forall_mem_cons.mpr ⟨?_, bares⟩⟩
        have along := charted.typed _ _ _ holds
        obtain ⟨field, named⟩ := Option.ne_none_iff_exists'.mp fun none =>
          present (Option.isNone_iff_eq_none.mpr none)
        obtain ⟨own, same⟩ := field_known named
        refine ⟨_, charted'.among _ _ _ (holds.later more'), _, rfl, fun cell other covered => ?_⟩
        rw [← same] at covered
        have plain := spares key List.mem_cons_self last along
        exact plain (same ▸ (apart.cover_field (typeAlong_known known along) own covered).2.1)

theorem among_stands {sources : List (String × String)} (distinct : (sources.map Prod.fst).Nodup)
    (fresh : ∀ source ∈ sources, Fresh source.1 1) {name : String} (member : (name, tableName type) ∈ sources) :
    ((schema.cover secret).among sources).Stands schema secret name type 1 := by
  refine ⟨fun _ _ _ => Cover.among_named distinct member, ?_, ?_, fresh _ member⟩
  · rintro number above column cell other ⟨source, member', same, _⟩
    exact (fresh source member' number above).1 (Option.some.inj same).symm
  · rintro number above column cell other ⟨source, member', same, _⟩
    exact (fresh source member' number above).2 (Option.some.inj same).symm

theorem alone_stands (unaliased : Unaliased (tableName base)) :
    ((schema.cover secret).among (sourcesOf (tableName base) (tableName base) [])).Stands schema secret
      (tableName base) base 1 :=
  among_stands (alone_distinct _) (List.forall_mem_singleton.mpr unaliased.fresh) (List.mem_singleton_self _)

theorem filterClause_shuns (apart : schema.Apart) (known : type ∈ schema.types) {predicate : Filter.Predicate}
    (spares : predicate.Spares schema secret type) {veil : Veil}
    (stands : veil.Stands schema secret (tableName type) type 1) {clause : Clause}
    (run : filterClause schema type predicate = .ok clause) : clause.Shuns (schema.cover secret) veil := by
  obtain ⟨⟨clause, after⟩, compiled, rfl⟩ := map_ok run
  exact (clauseOf_shuns apart known stands predicate spares compiled).2

variable (apart : schema.Apart) (known : base ∈ schema.types) (unaliased : Unaliased (tableName base))
include apart known unaliased

/-- The statement for a query that names no secret attribute tests and orders by nothing secret. -/
theorem selectOf_shuns {query : Query} (filter : query.predicate.Spares schema secret base)
    (order : ∀ key ∈ query.ordering, key.Spares schema secret base) {select : Select}
    (run : selectOf schema base query = .ok select) :
    select.Shuns (schema.cover secret) ((schema.cover secret).among select.sources) ∧
      select.columns = fieldColumns base (tableName base) ∧
      ((schema.cover secret).among select.sources).Stands schema secret (tableName base) base 1 := by
  obtain ⟨clause, compiled, run⟩ := bind_ok run
  obtain ⟨⟨joins, sorts⟩, ordered, same⟩ := bind_ok run
  obtain ⟨⟨joined, sorts'⟩, sorted, same'⟩ := bind_ok ordered
  cases same'
  cases same
  obtain ⟨charts, _, bares⟩ := (charts_alone unaliased).order apart known order sorted
  have stands : ((schema.cover secret).among (joined.sources base)).Stands schema secret (tableName base) base 1 :=
    among_stands charts.distinct (fun source member => (charts.fresh source member).1)
      (charts.among _ _ _ (.inl ⟨rfl, rfl, rfl⟩))
  refine ⟨Select.shuns_of_bares charts.distinct charts.shown ?_ bares, rfl, stands⟩
  exact List.forall_mem_singleton.mpr (filterClause_shuns apart known filter stands compiled)

end

end ResourceServer
