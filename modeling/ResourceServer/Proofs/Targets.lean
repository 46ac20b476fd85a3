import Mathlib.Data.Fintype.EquivFin
import Mathlib.Data.Fintype.Sets
import ResourceServer.Proofs.Linking
import ResourceServer.Proofs.Lookup
import ResourceServer.Proofs.Spelling

/-! The resources that requests name are stored before their links change. -/

namespace ResourceServer

open ResourceServer.Store ResourceServer.Mapping ResourceServer.Api

section

variable {database : Database} {type : EntityType}

theorem present_reread (whole : type.identity.type ≠ .duration) {ids : List String}
    {record : Record} {id : String} (identified : Identified database type record id)
    (found : ∃ cell ∈ idCells type ids, (record (idName type)).agrees cell) {again : Cell}
    (reread : idCell? type id = some again) : Present database type again := by
  obtain ⟨stored, value, valued, rfl⟩ := identified
  obtain ⟨cell, among, agrees⟩ := found
  obtain ⟨text, _, named⟩ := mem_idCells among
  obtain ⟨given, read, rfl⟩ := Option.map_eq_some_iff.mp named
  obtain ⟨other, reads, rfl⟩ := Option.map_eq_some_iff.mp reread
  exact ⟨record, stored, Cell.agrees_symm (agrees_reread whole read agrees valued reads)⟩

theorem duration_text (temporal : type.identity.type = .duration) {text : String} {given : Value}
    (read : type.readId? text = some given) {record : Record} {id : String}
    (identified : Identified database type record id)
    (agrees : (record (idName type)).agrees (cellOf given)) : id = given.text := by
  obtain ⟨_, value, valued, rfl⟩ := identified
  obtain ⟨kind, stored⟩ := FieldType.read_stored read
  have same : record (idName type) = cellOf given := by
    rw [temporal] at kind
    rcases Cell.agrees_iff.mp agrees with ⟨equal, _, _⟩ | ⟨_, rank, _, placed⟩
    · exact equal
    · cases given <;> first | (cases kind; done) | cases placed
  rw [same] at valued
  cases stored.symm.trans valued
  rfl

theorem present_settled {text : String} (settled : type.identity.type = .duration →
      ∀ given, type.readId? text = some given → type.readId? given.text = some given)
    {record : Record} {id : String} (identified : Identified database type record id)
    (found : ∃ cell ∈ idCells type [text], (record (idName type)).agrees cell) {again : Cell}
    (reread : idCell? type id = some again) : Present database type again := by
  by_cases temporal : type.identity.type = .duration
  · obtain ⟨cell, among, agrees⟩ := found
    obtain ⟨text', member, named⟩ := mem_idCells among
    obtain rfl := List.mem_singleton.mp member
    obtain ⟨given, read, rfl⟩ := Option.map_eq_some_iff.mp named
    obtain rfl := duration_text temporal read identified agrees
    have back : idCell? type given.text = some (cellOf given) := by
      unfold idCell?
      rw [settled temporal given read, Option.map_some]
    cases back.symm.trans reread
    exact ⟨record, identified.1, Cell.agrees_symm agrees⟩
  · exact present_reread temporal identified found reread

theorem present_all {ids : List String}
    (found : ∀ id ∈ ids, ∃ record, Identified database type record id ∧
      ∃ cell ∈ idCells type ids, (record (idName type)).agrees cell) :
    ∀ id ∈ ids, ∀ cell, idCell? type id = some cell → Present database type cell := by
  intro id member cell read
  by_cases temporal : type.identity.type = .duration
  · -- Durations may read back as others, but then as others of these: none of them is left out.
    have each : ∀ id : {id // id ∈ ids.toFinset}, ∃ partner : {id // id ∈ ids.toFinset},
        ∃ record cell, Identified database type record id ∧
          idCell? type partner = some cell ∧ (record (idName type)).agrees cell := by
      rintro ⟨id, inside⟩
      obtain ⟨record, identified, cell, among, agrees⟩ := found id (List.mem_toFinset.mp inside)
      obtain ⟨text, named, read⟩ := mem_idCells among
      exact ⟨⟨text, List.mem_toFinset.mpr named⟩, record, cell, identified, read, agrees⟩
    choose partner record cell' identified read' agrees using each
    have injective : Function.Injective partner := by
      intro left right same
      have cells : cell' left = cell' right := by
        have one := read' left
        rw [same] at one
        exact Option.some.inj (one.symm.trans (read' right))
      have agrees' := agrees right
      rw [← cells] at agrees'
      obtain ⟨given, read, same⟩ := Option.map_eq_some_iff.mp (read' left)
      have one := agrees left
      rw [← same] at one agrees'
      exact Subtype.ext ((duration_text temporal read (identified left) one).trans
        (duration_text temporal read (identified right) agrees').symm)
    obtain ⟨origin, same⟩ := Finite.injective_iff_surjective.mp injective
      ⟨id, List.mem_toFinset.mpr member⟩
    have read'' := read' origin
    rw [same] at read''
    cases read.symm.trans read''
    exact ⟨record origin, (identified origin).1, Cell.agrees_symm (agrees origin)⟩
  · obtain ⟨record, identified, among⟩ := found id member
    exact present_reread temporal identified among read

end

section

variable {connection after : Connection}

theorem reading_ok {α : Type} {action : MappingAction α} {value : α}
    (run : execute (SourceAction.reading action) connection = (.ok value, after)) :
    execute action connection = (.ok value, after) :=
  execute_mapError_ok run

theorem get_same {type : EntityType} {ids : List String} {resources : List Instance}
    (run : execute (Mapping.get type ids) connection = (.ok resources, after)) :
    after.database = connection.database := by
  have kept := (get_keeps type ids).same connection
  rw [run] at kept
  exact congrArg Prod.fst kept

theorem get_present {type : EntityType} {id : String} {resources : List Instance}
    (wide : connection.database.Wide)
    (run : execute (Mapping.get type [id]) connection = (.ok resources, after))
    {resource : Instance} (found : resource ∈ resources) :
    ∀ cell, idCell? type id = some cell → Present connection.database type cell := by
  intro cell named
  obtain ⟨record, identified, other, among, agrees⟩ := get_run wide run resource found
  obtain ⟨text, member, named'⟩ := mem_idCells among
  rw [List.mem_singleton.mp member] at named'
  cases named.symm.trans named'
  exact ⟨record, identified.1, Cell.agrees_symm agrees⟩

/-- A resource that is required is stored. -/
theorem requireResource_run {type : EntityType} {id : String} {resource : Instance}
    (wide : connection.database.Wide)
    (run : execute (requireResource type id) connection = (.ok resource, after)) :
    after.database = connection.database ∧
      ∀ cell, idCell? type id = some cell → Present connection.database type cell := by
  obtain ⟨resources, middle, one, last⟩ := execute_bind_ok run
  have got := reading_ok one
  cases ended : resources.getLast? with
  | none =>
      rw [ended] at last
      cases last
  | some resource' =>
      rw [ended] at last
      cases last
      exact ⟨get_same got, get_present wide got (List.mem_of_getLast? ended)⟩

theorem requireTargets_run {schema : Schema} {relationship : Relationship}
    {targets : List Identifier} {ids : List String} (wide : connection.database.Wide)
    (run : execute (Relinking.requireTargets schema relationship targets) connection =
      (.ok ids, after)) :
    after.database = connection.database ∧
      ∀ type, schema.type? relationship.target = some type → ∀ id ∈ ids, ∀ cell,
        idCell? type id = some cell → Present connection.database type cell := by
  unfold Relinking.requireTargets at run
  cases leads : schema.type? relationship.target with
  | none =>
      rw [leads] at run
      cases run
  | some type =>
      rw [leads] at run
      dsimp only at run
      split at run
      · cases run
      · split at run
        · cases run
          exact ⟨rfl, fun _ _ id member => absurd member List.not_mem_nil⟩
        · obtain ⟨resources, middle, one, last⟩ := execute_bind_ok run
          have got := reading_ok one
          split at last
          · cases last
          · rename_i complete
            cases last
            refine ⟨get_same got, fun type' same => ?_⟩
            cases same
            refine present_all fun id member => ?_
            have listed : id ∈ resources.map Instance.id := by
              by_contra absent
              refine complete ?_
              have missing : id ∈ (Relinking.distinctIds [] (targets.map Identifier.id)).filter
                  fun id => !(resources.map Instance.id).contains id :=
                List.mem_filter.mpr ⟨member, by simpa using absent⟩
              simpa using List.ne_nil_of_mem missing
            obtain ⟨resource, among, rfl⟩ := List.mem_map.mp listed
            exact get_run wide got resource among

end

/-! Changing links as requests ask for it keeps what changes of links keep. -/

section

variable {schema : Schema} {sound : Prop} {holds : Database → Prop}
  {present present' : EntityType → Cell → Prop} {type : EntityType} {relationship : Relationship}
  {owner : String}

theorem Owned.weaken (owned : Owned schema present type relationship owner)
    (fewer : ∀ type cell, present type cell → present' type cell) :
    Owned schema present' type relationship owner :=
  ⟨owned.known, owned.own, fun named cell read => fewer type cell (owned.present named cell read)⟩

theorem requireToMany_ok {operation : String} {required : Unit}
    (run : Relinking.requireToMany relationship operation = .ok required) :
    relationship.isToMany = true := by
  unfold Relinking.requireToMany at run
  split at run
  · assumption
  · cases run

def withTargets (schema : Schema) (relationship : Relationship) (ids : List String)
    (present : EntityType → Cell → Prop) (type : EntityType) (cell : Cell) : Prop :=
  present type cell ∨
    schema.type? relationship.target = some type ∧ ∃ id ∈ ids, idCell? type id = some cell

theorem requireTargets_ready (targets : List Identifier) :
    Establishes (fun connection => Ready schema sound holds present connection.database)
      (Relinking.requireTargets schema relationship targets)
      fun ids connection =>
        Ready schema sound holds (withTargets schema relationship ids present)
          connection.database := by
  refine ⟨fun {connection after ids} ready run => ?_⟩
  obtain ⟨same, found⟩ := requireTargets_run ready.laid.wide run
  rw [same]
  refine ⟨ready.laid, ready.held, fun holds type known cell given => ?_⟩
  rcases given with before | ⟨leads, id, member, read⟩
  · exact ready.present holds type known cell before
  · exact found type leads id member cell read

theorem establishes_targets {ids : List String} {α : Type} {action : MappingAction α}
    (inner : Maintains (Ready schema sound holds (withTargets schema relationship ids present))
      action) :
    Establishes
      (fun connection => Ready schema sound holds (withTargets schema relationship ids present)
        connection.database)
      (SourceAction.writing action)
      fun _ connection => Ready schema sound holds present connection.database :=
  establishes_weaken (establishes_mapError _ inner) (fun _ ready => ready) fun _ _ ready =>
    ready.weaken fun _ _ before => .inl before

variable (invariant : LinkInvariant schema sound holds)
  (owned : Owned schema present type relationship owner)
include invariant owned

theorem replaceToOne_ready (target : Option Identifier) :
    Maintains (Ready schema sound holds present)
      (Relinking.replaceToOne schema type relationship owner target) := by
  have write (ids : List String) : Establishes
      (fun connection => Ready schema sound holds (withTargets schema relationship ids present)
        connection.database)
      (SourceAction.writing (Mapping.setToOne schema type relationship owner ids.getLast?))
      fun _ connection => Ready schema sound holds present connection.database :=
    establishes_targets (setToOne_ready invariant (owned.weaken fun _ _ => .inl)
      fun other leads id last cell read =>
        .inr ⟨leads, id, List.mem_of_getLast? last, read⟩)
  unfold Relinking.replaceToOne
  dsimp only
  refine establishes_guard fun _ => ?_
  cases target with
  | some target => exact establishes_bind (requireTargets_ready [target]) write
  | none =>
      refine establishes_bind (establishes_pure fun connection ready => ?_) write
      refine ⟨ready.laid, ready.held, fun holds type known cell given => ?_⟩
      rcases given with before | ⟨_, _, none, _⟩
      · exact ready.present holds type known cell before
      · cases none

theorem addTargets_ready (many : relationship.isToMany = true) {ids fresh : List String}
    (among : ∀ id ∈ fresh, id ∈ ids) :
    Maintains (Ready schema sound holds (withTargets schema relationship ids present))
      (Mapping.addToMany schema type relationship owner fresh) :=
  addToMany_ready invariant (owned.weaken fun _ _ => .inl) many fun _ leads id member _ read =>
    .inr ⟨leads, id, among id member, read⟩

theorem replaceToMany_ready (targets : List Identifier) (allowed : Bool) :
    Maintains (Ready schema sound holds present)
      (Relinking.replaceToMany schema type relationship owner targets allowed) := by
  unfold Relinking.replaceToMany
  dsimp only
  refine establishes_guard fun _ => establishes_given fun _ required =>
    establishes_bind (requireTargets_ready targets) fun wanted =>
      establishes_bind (maintains_of_keeps (currentTargets_keeps ..)) fun current => ?_
  refine establishes_bind (establishes_mapError _
    (removeFromMany_ready invariant owned.known owned.own _)) fun _ => ?_
  exact establishes_targets (addTargets_ready invariant owned (requireToMany_ok required) fun _ member =>
    (List.mem_filter.mp member).1)

theorem appendToMany_ready (targets : List Identifier) :
    Maintains (Ready schema sound holds present)
      (Relinking.appendToMany schema type relationship owner targets) :=
  establishes_given fun _ required => establishes_bind (requireTargets_ready targets) fun _ =>
    establishes_targets (addTargets_ready invariant owned (requireToMany_ok required)
      fun _ member => member)

theorem removeFromMany_maintains (targets : List Identifier) (allowed : Bool) :
    Maintains (Ready schema sound holds present)
      (Relinking.removeFromMany schema type relationship owner targets allowed) := by
  unfold Relinking.removeFromMany
  dsimp only
  refine establishes_guard fun _ => establishes_given fun _ _ =>
    establishes_bind (requireTargets_ready targets) fun wanted =>
      establishes_bind (maintains_of_keeps (currentTargets_keeps ..)) fun current => ?_
  split
  · exact establishes_pure fun _ ready => ready.weaken fun _ _ => .inl
  · exact establishes_bind (establishes_targets
      (removeFromMany_ready invariant owned.known owned.own _)) fun _ =>
        maintains_of_keeps (keeps_pure _)

theorem writeLinkage_ready (linkage : Linkage) (allowed : Bool) :
    Maintains (Ready schema sound holds present)
      (writeLinkage schema type relationship owner linkage allowed) := by
  cases linkage with
  | toOne target => exact replaceToOne_ready invariant owned target
  | toMany targets => exact replaceToMany_ready invariant owned targets allowed

end

theorem writeLinkages_ready {schema : Schema} {sound : Prop} {holds : Database → Prop}
    {present : EntityType → Cell → Prop} (invariant : LinkInvariant schema sound holds)
    {type : EntityType} {owner : String} {linkages : List (Relationship × Linkage)}
    (owned : ∀ entry ∈ linkages, Owned schema present type entry.1 owner) (allowed : Bool) :
    Maintains (Ready schema sound holds present)
      (writeLinkages schema type owner linkages allowed) :=
  establishes_forM fun entry member => writeLinkage_ready invariant (owned entry member) entry.2 allowed

end ResourceServer
