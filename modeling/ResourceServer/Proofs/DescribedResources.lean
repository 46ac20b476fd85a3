import ResourceServer.Proofs.FiniteNumbers
import ResourceServer.Proofs.InsertedRecords
import ResourceServer.Proofs.RenderedObjects

/-! Resource objects that describe a new resource, and what a request reads of them. -/

namespace ResourceServer

open ResourceServer.Number ResourceServer.Store ResourceServer.Mapping ResourceServer.Api

/-- A resource object describes a new resource of a type: it names the type, gives values to attributes, and has an
identity unless that can be numbered. It does not link the resource. -/
structure EntityType.Describes (type : EntityType) (data : Json) : Prop where
  typed : data.get? "type" = some (.string type.name)
  attributes : ∀ given ∈ data.get? "attributes", ∃ members : Keyed Json, given = .object members ∧ members.Ordered ∧
    ∀ member ∈ members, member.2.inRange ∧
      ∃ field ∈ type.attributes, field.name = member.1 ∧ (field.type.ofJson? member.2).isSome
  identity : ∀ given ∈ data.get? "id", ((Identifier.idText? given).bind type.readId?).isSome
  identified : (data.get? "id").isSome ∨ type.identity.type = .integer
  unlinked : ∀ given ∈ data.get? "relationships", given = .object []

def EntityType.given? (type : EntityType) (data : Json) (field : Field) : Option Value :=
  if field = type.identity then ((data.get? "id").bind Identifier.idText?).bind type.readId?
  else (data.inner? "attributes" field.name).bind field.type.ofJson?

/-- Values are those that a resource object gives the fields of a new resource. -/
structure EntityType.Gives (type : EntityType) (data : Json) (values : Keyed Value) : Prop where
  filled : Fills type.fields values
  ordered : values.Ordered
  given : ∀ field ∈ type.fields, values.get? field.name = type.given? data field

section

variable {type : EntityType} {data : Json} {field : Field}

theorem EntityType.attributes_distinct (distinct : type.memberNames.Nodup) :
    (type.fields.map Field.name).Nodup :=
  (List.nodup_append.mp distinct).1

theorem EntityType.attribute_named (distinct : type.memberNames.Nodup) (own : field ∈ type.attributes) :
    field.name ≠ type.identity.name := by
  have apart := (List.nodup_cons.mp (EntityType.attributes_distinct distinct)).1
  exact fun same => apart (same ▸ List.mem_map_of_mem own)

theorem readAttribute_given (distinct : type.memberNames.Nodup) (own : field ∈ type.attributes) {json : Json}
    {value : Value} (given : field.type.ofJson? json = some value) :
    readAttribute type (field.name, json) = .ok (field.name, value) := by
  have names := (List.nodup_cons.mp (EntityType.attributes_distinct distinct)).2
  have found := find_unique Field.name names own
  unfold readAttribute
  dsimp only
  rw [found]
  dsimp only
  rw [given]

theorem mapM_readAttribute (distinct : type.memberNames.Nodup) {members : Keyed Json} (ordered : members.Ordered)
    (given : ∀ member ∈ members,
      ∃ field ∈ type.attributes, field.name = member.1 ∧ (field.type.ofJson? member.2).isSome) :
    ∃ values : Keyed Value, members.mapM (readAttribute type) = .ok values ∧ values.Ordered ∧
      (∀ field ∈ type.attributes,
        values.lookup field.name = (members.lookup field.name).bind field.type.ofJson?) ∧
        values.map Prod.fst = members.map Prod.fst := by
  induction members with
  | nil => exact ⟨[], rfl, .nil, fun _ _ => rfl, rfl⟩
  | cons member rest ih =>
      obtain ⟨before, ordered⟩ := List.pairwise_cons.mp ordered
      obtain ⟨values, read, sorted, held, names⟩ := ih ordered fun other inside => given other (List.mem_cons_of_mem _ inside)
      obtain ⟨field, own, named, fits⟩ := given member List.mem_cons_self
      obtain ⟨value, fits⟩ := Option.isSome_iff_exists.mp fits
      obtain ⟨name, json⟩ := member
      obtain rfl : field.name = name := named
      refine ⟨(field.name, value) :: values, ?_, List.pairwise_cons.mpr ⟨fun entry inside => ?_, sorted⟩,
        fun other own' => ?_, congrArg (field.name :: ·) names⟩
      · rw [List.mapM_cons]
        exact bind_of_ok (readAttribute_given distinct own fits) (bind_of_ok read rfl)
      · have among : entry.1 ∈ rest.map Prod.fst := names ▸ List.mem_map_of_mem inside
        obtain ⟨member, inside', same⟩ := List.mem_map.mp among
        exact same ▸ before member inside'
      · rw [List.lookup_cons, List.lookup_cons]
        by_cases same : other.name = field.name
        · have names := (List.nodup_cons.mp (EntityType.attributes_distinct distinct)).2
          obtain rfl := List.inj_on_of_nodup_map names own' own same
          rw [beq_self_eq_true]
          exact fits.symm
        · rw [beq_eq_false_iff_ne.mpr same]
          exact held other own'

theorem readAttributes_described (distinct : type.memberNames.Nodup) (described : type.Describes data) :
    ∃ values, readAttributes type data = .ok values ∧ Keyed.Ordered values ∧
      values.get? type.identity.name = none ∧
        ∀ field ∈ type.attributes, values.get? field.name = type.given? data field := by
  -- Without attributes there are no members.
  obtain ⟨members, inside, ordered, fits, among⟩ : ∃ members, innerMembers data "attributes" = .ok members ∧
      Keyed.Ordered members ∧
      (∀ member ∈ members, ∃ field ∈ type.attributes, field.name = member.1 ∧
        (field.type.ofJson? member.2).isSome) ∧ ∀ name, data.inner? "attributes" name = members.lookup name := by
    unfold innerMembers Json.inner?
    cases given : data.get? "attributes" with
    | none => exact ⟨[], rfl, .nil, nofun, fun _ => rfl⟩
    | some json =>
        obtain ⟨members, rfl, ordered, fits⟩ := described.attributes json given
        exact ⟨members, rfl, ordered, fun member own => (fits member own).2, fun _ => rfl⟩
  obtain ⟨values, read, sorted, held, names⟩ := mapM_readAttribute distinct ordered fits
  refine ⟨values, bind_of_ok inside read, sorted, ?_, fun field own => ?_⟩
  · refine List.lookup_eq_none_iff.mpr fun entry own => bne_iff_ne.mpr fun same => ?_
    obtain ⟨member, own', named⟩ := List.mem_map.mp (names ▸ List.mem_map_of_mem (f := Prod.fst) own)
    obtain ⟨field, own'', given, _⟩ := fits member own'
    exact EntityType.attribute_named distinct own'' (given.trans (named.trans same.symm))
  · have other : field ≠ type.identity :=
      fun same => EntityType.attribute_named distinct own (congrArg Field.name same)
    unfold EntityType.given?
    rw [if_neg other, among]
    exact held field own

theorem addClientId_described (distinct : type.memberNames.Nodup) (described : type.Describes data)
    {attributes : Keyed Value} (sorted : attributes.Ordered) (apart : attributes.get? type.identity.name = none)
    (valued : ∀ field ∈ type.attributes, attributes.get? field.name = type.given? data field) :
    ∃ values, addClientId type true data attributes = .ok values ∧ Keyed.Ordered values ∧
      ∀ field ∈ type.fields, values.get? field.name = type.given? data field := by
  unfold addClientId
  cases named : data.get? "id" with
  | none =>
      refine ⟨attributes, rfl, sorted, fun field own => ?_⟩
      rcases List.mem_cons.mp own with rfl | own
      · rw [apart]
        unfold EntityType.given?
        rw [if_pos rfl, named]
        rfl
      · exact valued field own
  | some json =>
      obtain ⟨id, spelled⟩ := Option.isSome_iff_exists.mp (described.identity json named)
      refine ⟨attributes.put type.identity.name id, ?_, Keyed.ordered_put _ _ sorted, fun field own => ?_⟩
      · dsimp only
        rw [spelled]
        rfl
      refine (Keyed.lookup_put ..).trans ?_
      rcases List.mem_cons.mp own with rfl | own
      · unfold EntityType.given?
        rw [if_pos rfl, if_pos rfl, named]
        exact spelled.symm
      · rw [if_neg (EntityType.attribute_named distinct own)]
        exact valued field own

theorem readCreation_described {endpoint : Endpoint} {request : Request} (distinct : endpoint.type.memberNames.Nodup)
    (allowed : endpoint.config.allowClientIds = true) (body : requestData request = .ok data)
    (described : endpoint.type.Describes data) :
    ∃ values, readCreation endpoint request = .ok (values, []) ∧ endpoint.type.Gives data values := by
  have ofType : checkType endpoint.type data = .ok () := by
    unfold checkType
    rw [described.typed]
    exact if_pos rfl
  have members : innerMembers data "relationships" = .ok [] := by
    unfold innerMembers
    cases given : data.get? "relationships" with
    | none => rfl
    | some json => rw [described.unlinked json given]
  have unlinked : readRelationships endpoint.type data = .ok [] := bind_of_ok members rfl
  obtain ⟨attributes, read, sorted, apart, valued⟩ := readAttributes_described distinct described
  obtain ⟨values, added, ordered, complete⟩ := addClientId_described distinct described sorted apart valued
  rw [← allowed] at added
  have created : readCreation endpoint request = .ok (values, []) :=
    bind_of_ok body (bind_of_ok ofType (bind_of_ok read (bind_of_ok added (bind_of_ok unlinked rfl))))
  exact ⟨values, created, (readCreation_fills created).1, ordered, complete⟩

theorem newValue_identity (described : type.Describes data) {number : Int} (storable : isStorable number) :
    let value := type.newValue (type.given? data) number type.identity
    value ≠ .null ∧ type.identity.type.stores (cellOf value) ∧ valueOf type.identity.type (cellOf value) = .ok value := by
  unfold EntityType.newValue EntityType.given?
  rw [if_pos rfl, if_pos rfl]
  cases named : data.get? "id" with
  | none =>
      have whole : type.identity.type = .integer := described.identified.resolve_left (by rw [named]; nofun)
      rw [whole]
      exact ⟨nofun, storable, rfl⟩
  | some json =>
      obtain ⟨id, spelled⟩ := Option.isSome_iff_exists.mp (described.identity json named)
      dsimp only [Option.bind_some]
      rw [spelled]
      obtain ⟨text, _, read⟩ := Option.bind_eq_some_iff.mp spelled
      have ⟨typed, valued⟩ := FieldType.read_stored read
      refine ⟨?_, FieldType.read_stores read, valued⟩
      rintro rfl
      cases typed

theorem identity_given (described : type.Describes data) :
    type.given? data type.identity ≠ some .null ∧
      ((type.given? data type.identity).isSome ∨ type.identity.type = .integer) := by
  constructor
  · intro empty
    refine (newValue_identity described (rfl : isStorable 0 = true)).1 ?_
    unfold EntityType.newValue
    rw [empty]
    rfl
  · refine described.identified.imp_left fun named => ?_
    obtain ⟨json, named⟩ := Option.isSome_iff_exists.mp named
    unfold EntityType.given?
    rw [if_pos rfl, named]
    exact described.identity json named

theorem EntityType.Gives.record {values : Keyed Value} (gives : type.Gives data values) (number : Int) :
    type.newRecord (fun field => values.get? field.name) number = type.newRecord (type.given? data) number := by
  funext column
  unfold EntityType.newRecord
  cases found : type.fields.find? fun field => columnName field.name = column with
  | none => rfl
  | some field =>
      unfold EntityType.newValue
      dsimp only
      rw [gives.given field (List.mem_of_find?_eq_some found)]

theorem newValue_attribute (distinct : type.memberNames.Nodup) (described : type.Describes data)
    (own : field ∈ type.attributes) (number : Int) :
    let value := type.newValue (type.given? data) number field
    field.type.stores (cellOf value) ∧ valueOf field.type (cellOf value) = .ok value ∧
      ∃ shown, value.toJson? = some shown := by
  have other : field ≠ type.identity :=
    fun same => EntityType.attribute_named distinct own (congrArg Field.name same)
  unfold EntityType.newValue EntityType.given?
  rw [if_neg other, if_neg other]
  cases given : (data.inner? "attributes" field.name).bind field.type.ofJson? with
  | none => exact ⟨by cases field.type <;> rfl, by cases field.type <;> rfl, _, rfl⟩
  | some value =>
      obtain ⟨json, inside, read⟩ := Option.bind_eq_some_iff.mp given
      obtain ⟨object, grouped, inside⟩ := Option.bind_eq_some_iff.mp inside
      obtain ⟨members, rfl, _, fits⟩ := described.attributes object grouped
      have ranged := (fits _ (Keyed.mem_of_lookup inside)).1
      exact ⟨FieldType.ofJson_stores read, FieldType.ofJson_stored read, FieldType.ofJson_shown ranged read⟩

/-- A new resource is read of its record with its values. -/
theorem newRecord_read {schema : Schema} (columns : schema.ColumnsDistinct) (known : type ∈ schema.types)
    (distinct : type.memberNames.Nodup) (described : type.Describes data) {number : Int}
    (storable : isStorable number) :
    let created := type.newRecord (type.given? data) number
    (∀ field ∈ type.fields, field.type.stores (created (columnName field.name))) ∧
      ∃ resource, readRecord type created = .ok resource ∧
        ∀ field ∈ type.fields, resource.get? field.name = some (type.newValue (type.given? data) number field) := by
  intro created
  have each : ∀ field ∈ type.fields, field.type.stores (created (columnName field.name)) ∧
      valueOf field.type (created (columnName field.name)) =
        .ok (type.newValue (type.given? data) number field) := by
    intro field own
    have held : created (columnName field.name) = cellOf (type.newValue (type.given? data) number field) :=
      newRecord_field columns known own
    rw [held]
    rcases List.mem_cons.mp own with rfl | own
    · exact (newValue_identity described storable).2
    · have ⟨stored, valued, _⟩ := newValue_attribute distinct described own number
      exact ⟨stored, valued⟩
  obtain ⟨resource, read⟩ := readRecord_ok fun field own => FieldType.stores_takes (each field own).1
  refine ⟨fun field own => (each field own).1, resource, read, fun field own => ?_⟩
  obtain ⟨values, fields, rfl⟩ := map_ok read
  obtain ⟨value, valued, found⟩ := readFields_get (EntityType.attributes_distinct distinct) fields own
  rw [(each field own).2] at valued
  cases valued
  exact found

end

end ResourceServer
