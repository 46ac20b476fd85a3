import ResourceServer.Proofs.Loading
import ResourceServer.Proofs.VeiledOrders

/-! Resources and their links as they are read from two databases that differ in secret attributes. -/

namespace ResourceServer

open ResourceServer.Store ResourceServer.Mapping

/-- Resources of one identifier that differ in secret attributes at most. -/
structure Instance.Like (schema : Schema) (secret : Secrets) (resource other : Instance) : Prop where
  identifier : resource.identifier = other.identifier
  values : ∀ type ∈ schema.types, resource.type = type.name → ∀ field ∈ type.attributes,
    ¬secret type field.name → resource.get? field.name = other.get? field.name

section

variable {schema : Schema} {secret : Secrets} {type target : EntityType} {veil : Veil} {name : String}
  {row row' : Row}

section

variable (apart : schema.Apart) (known : type ∈ schema.types)
  (exact : ∀ column cell other, veil (.ofTable name column) cell other →
    schema.cover secret (tableName type) column cell other)
include apart known exact

theorem readFields_like {fields : List Field} (own : fields ⊆ type.fields)
    (aligned : Select.Aligned veil (fields.map fun field => fieldColumn name field.name) row row') :
    Together (fun values values' : Keyed Value => ∀ name,
        (∀ field ∈ type.attributes, secret type field.name → name ≠ field.name) →
          values.get? name = values'.get? name)
      (readFields fields row) (readFields fields row') := by
  induction fields generalizing row row' with
  | nil =>
      cases aligned
      exact .ok fun _ _ => rfl
  | cons field fields ih =>
      obtain ⟨first, others⟩ := List.cons_subset.mp own
      cases aligned with
      | @cons _ _ cell other rest rest' same aligned =>
          have read := ih others aligned
          have keep {value : Value} {values values' : Keyed Value} {name : String}
              (alike : values.get? name = values'.get? name) :
              Keyed.get? ((field.name, value) :: values) name = Keyed.get? ((field.name, value) :: values') name := by
            unfold Keyed.get? at alike ⊢
            rw [List.lookup_cons, List.lookup_cons, alike]
          unfold readFields
          rcases same with rfl | hidden
          · refine (Together.refl _).bind ?_
            rintro value _ rfl
            exact read.bind fun values values' alike => .ok fun name shown => keep (alike name shown)
          · obtain ⟨listed, covered, taken, taken'⟩ :=
              apart.cover_field known first (exact _ _ _ hidden)
            obtain ⟨value, converted⟩ := valueOf_ok taken
            obtain ⟨value', converted'⟩ := valueOf_ok taken'
            rw [converted, converted']
            refine read.bind fun values values' alike => .ok fun name shown => ?_
            have other : (name == field.name) = false := by
              simpa using shown field listed covered
            have alike := alike name shown
            unfold Keyed.get? at alike ⊢
            rw [List.lookup_cons, List.lookup_cons, other, alike]

theorem readRow_like
    (aligned : Select.Aligned veil (type.fields.map fun field => fieldColumn name field.name) row row') :
    Together (Instance.Like schema secret) (readRow type row) (readRow type row') := by
  refine (readFields_like apart known exact (List.Subset.refl _) aligned).map fun values values' alike => ?_
  have identity : values.get? type.identity.name = values'.get? type.identity.name := by
    refine alike _ fun field listed _ same => ?_
    have distinct := apart.columns type known
    rw [EntityType.fields, List.map_cons, List.nodup_cons] at distinct
    exact distinct.1 (same ▸ List.mem_map_of_mem listed)
  refine ⟨?_, fun type' known' named field listed plain => ?_⟩
  · unfold Instance.ofValues
    rw [identity]
  · obtain rfl : type = type' := List.inj_on_of_nodup_map apart.formed.names known known' named
    exact alike _ fun field' _ covered same => plain (same ▸ covered)

end

end

section

variable {cover : Cover} {veil : Veil} {left right : Database} (like : left.Like cover right) {select : Select}
  (shuns : select.Shuns cover veil)
include like shuns

theorem selectAll_parallel (columns : List Column) (selects : select.columns = columns.map .column)
    (named : ∀ column ∈ columns, column.table.isSome) :
    Parallel (Connected left right) (List.Forall₂ (Select.Aligned veil columns)) (selectAll select)
      (selectAll select) := by
  unfold selectAll
  refine ((parallel_select (select_like like shuns selects named)).mapError MappingError.store).bind
    fun rows rows' found => ?_
  refine parallel_ofExcept (Together.mapError ?_ MappingError.store)
  exact Together.mapM found fun _ _ one => one

end

section

variable {schema : Schema} {secret : Secrets} {left right : Database}
  (like : left.Like (schema.cover secret) right) (apart : schema.Apart) {type target : EntityType}
  {relationship : Relationship}
  (known : type ∈ schema.types)
include like apart known

theorem readRows_parallel {veil : Veil} {name : String}
    (exact : ∀ column cell other, veil (.ofTable name column) cell other →
      schema.cover secret (tableName type) column cell other) {select : Select}
    (shuns : select.Shuns (schema.cover secret) veil) (selects : select.columns = fieldColumns type name) :
    Parallel (Connected left right) (List.Forall₂ (Instance.Like schema secret))
      (selectAll select >>= fun rows => Action.ofExcept (rows.mapM (readRow type)))
      (selectAll select >>= fun rows => Action.ofExcept (rows.mapM (readRow type))) := by
  have columns : select.columns = (type.fields.map fun field => fieldColumn name field.name).map .column := by
    rw [selects, fieldColumns, List.map_map]
    rfl
  have named : ∀ column ∈ type.fields.map fun field => fieldColumn name field.name, column.table.isSome :=
    List.forall_mem_map.mpr fun _ _ => rfl
  refine (selectAll_parallel like shuns _ columns named).bind fun rows rows' found => parallel_ofExcept ?_
  exact Together.mapM found fun _ _ aligned => readRow_like apart known exact aligned

theorem get_parallel (ids : List String) :
    Parallel (Connected left right) (List.Forall₂ (Instance.Like schema secret)) (Mapping.get type ids)
      (Mapping.get type ids) := by
  unfold Mapping.get
  dsimp only
  split
  · exact parallel_pure .nil
  · have bares : (schema.cover secret).Bares (sourcesOf (tableName type) (tableName type) [])
        (idColumn type (tableName type)) :=
      apart.bares_id known List.mem_cons_self
    have distinct := alone_distinct (tableName type)
    refine readRows_parallel like apart known (fun _ _ _ => Cover.among_named distinct List.mem_cons_self)
      (Select.shuns_of_bares distinct nofun ?_ (List.forall_mem_singleton.mpr bares)) rfl
    exact List.forall_mem_singleton.mpr (.condition (List.forall_mem_singleton.mpr (bares.shown distinct)))

omit like known in
variable (secret) in
theorem linkSelect_shuns (relates : schema.Relates type relationship target)
    (reserved : tableName target ≠ "rel_owner" ∧ tableName target ≠ "rel_link") (owners : List Cell) :
    let select := linkSelect type target relationship.storage owners
    (select.sources.map Prod.fst).Nodup ∧
      (schema.cover secret).Bares select.sources (ownerColumn type target relationship.storage).1 ∧
      select.Shuns (schema.cover secret) ((schema.cover secret).among select.sources) := by
  have known' : target ∈ schema.types := List.mem_of_find?_eq_some relates.leads
  intro select
  have plain (distinct : (select.sources.map Prod.fst).Nodup)
      (bares : (schema.cover secret).Bares select.sources (ownerColumn type target relationship.storage).1)
      (joins : ∀ join ∈ select.joins, (schema.cover secret).Bares select.sources join.left ∧
        (schema.cover secret).Bares select.sources join.right) :
      select.Shuns (schema.cover secret) ((schema.cover secret).among select.sources) :=
    Select.shuns_of_bares distinct joins
      (List.forall_mem_singleton.mpr (.condition (List.forall_mem_singleton.mpr (bares.shown distinct))))
      (List.forall_mem_singleton.mpr (apart.bares_id known' List.mem_cons_self))
  have pair {name : String} (other : tableName target ≠ name) : [tableName target, name].Nodup :=
    List.nodup_cons.mpr ⟨fun member => other (List.mem_singleton.mp member), List.nodup_singleton _⟩
  suffices (select.sources.map Prod.fst).Nodup ∧
      (schema.cover secret).Bares select.sources (ownerColumn type target relationship.storage).1 ∧
      ∀ join ∈ select.joins, (schema.cover secret).Bares select.sources join.left ∧
        (schema.cover secret).Bares select.sources join.right from
    ⟨this.1, this.2.1, plain this.1 this.2.1 this.2.2⟩
  unfold select linkSelect Select.sources
  cases storage : relationship.storage with
  | ownerKey column =>
      have refers := Refers.ownerKey relates.known relates.own storage relates.leads
      exact ⟨pair reserved.1, apart.bares_id relates.known (List.mem_cons_of_mem _ List.mem_cons_self),
        List.forall_mem_singleton.mpr ⟨apart.bares_key refers (List.mem_cons_of_mem _ List.mem_cons_self),
          apart.bares_id known' List.mem_cons_self⟩⟩
  | targetKey column =>
      have refers := Refers.targetKey relates.known relates.own storage relates.leads
      exact ⟨alone_distinct _, apart.bares_key refers List.mem_cons_self, nofun⟩
  | joinTable pairs ownerColumn targetColumn =>
      have owners := Refers.ownerPair relates.known relates.own storage
      have targets := Refers.targetPair relates.known relates.own storage relates.leads
      exact ⟨pair reserved.2, apart.bares_key owners (List.mem_cons_of_mem _ List.mem_cons_self),
        List.forall_mem_singleton.mpr ⟨apart.bares_key targets (List.mem_cons_of_mem _ List.mem_cons_self),
          apart.bares_id known' List.mem_cons_self⟩⟩

def Mapping.Links.Like (schema : Schema) (secret : Secrets) : Links → Links → Prop :=
  List.Forall₂ fun link other => link.1 = other.1 ∧ Instance.Like schema secret link.2 other.2

theorem loadRelation_parallel (reserved : ∀ type ∈ schema.types,
      tableName type ≠ "rel_owner" ∧ tableName type ≠ "rel_link")
    (own : relationship ∈ type.relationships) (owners : List String) :
    Parallel (Connected left right) (Links.Like schema secret) (loadRelation schema type relationship owners)
      (loadRelation schema type relationship owners) := by
  obtain ⟨target, known', leads, found⟩ := apart.formed.findRelationship known own
  have relates : schema.Relates type relationship target := ⟨known, own, leads⟩
  unfold loadRelation
  rw [found]
  refine parallel_given fun _ same => ?_
  cases same
  dsimp only
  split
  · exact parallel_pure .nil
  · obtain ⟨distinct, bares, shuns⟩ :=
      linkSelect_shuns secret apart relates (reserved target known') (idCells type owners)
    have columns : (linkSelect type target relationship.storage (idCells type owners)).columns =
        ((ownerColumn type target relationship.storage).1 ::
          target.fields.map fun field => fieldColumn (tableName target) field.name).map .column := by
      simp [linkSelect, fieldColumns]
    refine (selectAll_parallel like shuns _ columns ?_).bind
      fun rows rows' found => parallel_ofExcept (Together.mapM found fun row row' aligned => ?_)
    · exact List.forall_mem_cons.mpr ⟨(bares.shown distinct).named, List.forall_mem_map.mpr fun _ _ => rfl⟩
    · cases aligned with
      | cons same rest =>
          obtain rfl := (bares.shown distinct).eq same
          unfold readLink
          refine (Together.refl _).bind ?_
          rintro owner _ rfl
          refine (readRow_like apart known' (fun _ _ _ => Cover.among_named distinct List.mem_cons_self) rest).bind ?_
          exact fun resource other alike => .ok ⟨rfl, alike⟩

variable (unaliased : Unaliased (tableName type))
include unaliased

theorem query_parallel {query : Query} (filter : query.predicate.Spares schema secret type)
    (order : ∀ key ∈ query.ordering, key.Spares schema secret type) :
    Parallel (Connected left right) (List.Forall₂ (Instance.Like schema secret))
      (Mapping.query schema type query) (Mapping.query schema type query) := by
  unfold Mapping.query
  refine parallel_given fun select selected => ?_
  obtain ⟨shuns, columns, stands⟩ := selectOf_shuns apart known unaliased filter order selected
  exact readRows_parallel like apart known stands.exact shuns columns

/-- Resources are counted alike by what names no secret attribute. -/
theorem count_parallel {predicate : Filter.Predicate} (spares : predicate.Spares schema secret type) :
    Parallel (Connected left right) Eq (count schema type predicate) (count schema type predicate) := by
  unfold count
  refine parallel_given fun filter compiled => ?_
  have stands : Veil.Stands _ schema secret (tableName type) type 1 := alone_stands unaliased
  have tested := filterClause_shuns apart known spares stands compiled
  have shuns : Select.Shuns { columns := [.count], table := tableName type, filters := [filter] }
      (schema.cover secret) _ :=
    Select.shuns_of_bares (alone_distinct _) nofun (List.forall_mem_singleton.mpr tested) nofun
  refine ((parallel_select (.of_eq (count_like like shuns rfl))).mapError MappingError.store).bind ?_
  rintro rows _ rfl
  refine parallel_given fun row _ => ?_
  split
  · exact parallel_pure rfl
  · exact parallel_throw _
  · exact parallel_throw _

end

end ResourceServer
