import ResourceServer.Proofs.IdleUpdates
import ResourceServer.Proofs.Replaying

/-! Changing the links of an owner under any text that spells its identity, from any database with the same
resources. -/

namespace ResourceServer

open ResourceServer.Store ResourceServer.Mapping ResourceServer.Relinking ResourceServer.Api

theorem idCell_spelled {type : EntityType} {id : String} {cell : Cell} (spelled : idCell? type id = some cell) :
    idCell type id = .ok cell := by
  unfold idCell
  rw [spelled]

theorem named_mem {type : EntityType} {ids : List String} {cells : List Cell} {id : String} {cell : Cell}
    (all : List.Forall₂ type.Names ids cells) (one : type.Names id cell) : id ∈ ids ↔ cell ∈ cells :=
  LinkChange.mem_iff_of_forall₂ all (fun _ other => other.text_eq one) fun _ other => other.cell_eq one

theorem named_mem_iff {type : EntityType} {ids : List String} {cells : List Cell} {cell : Cell} {meant : Prop}
    (all : List.Forall₂ type.Names ids cells) (tells : ∀ {id}, type.Names id cell → (id ∈ ids ↔ meant))
    (named : meant → ∃ id, type.Names id cell) : cell ∈ cells ↔ meant := by
  constructor
  · intro member
    obtain ⟨id, among, one⟩ := mem_of_forall₂ all.flip member
    exact (tells one).mp among
  · intro found
    obtain ⟨id, one⟩ := named found
    exact (named_mem all one).mp ((tells one).mpr found)

section

variable {schema : Schema} {connection : Connection} {type target : EntityType} {relationship : Relationship}
  {owner : String} {cell : Cell}

theorem LinkChange.action_respelled {text text' : String} {value : Value} (read : type.readId? text = some value)
    (read' : type.readId? text' = some value) (change : LinkChange String) :
    change.action schema type relationship text = change.action schema type relationship text' := by
  cases change with
  | set chosen => exact setToOne_respelled read read' relationship chosen
  | add more => exact addToMany_respelled read read' relationship more
  | remove fewer => exact removeFromMany_respelled read read' relationship fewer

theorem SpellsStored.change_done (spells : SpellsStored connection.database type owner cell)
    (linkable : Linkable schema connection.database type relationship target) (change : LinkChange String)
    (supported : change.Supported relationship) {cells : LinkChange Cell} (names : change.Rel target.Names cells)
    (presents : ∀ id ∈ cells.targets, ∃ record ∈ connection.database.records (tableName target),
      record (idName target) = id) :
    ∃ after, execute (SourceAction.writing (change.action schema type relationship owner)) connection =
        (.ok (), after) ∧
      Changed schema type target relationship.storage connection.database after.database
        ((cells.effect relationship.storage.Single cell).links
          (Holds connection.database type target relationship.storage)) := by
  obtain ⟨text, value, named, read, read'⟩ :=
    spells.written linkable.stocked linkable.separate linkable.relates.known
  obtain ⟨after, done, changed⟩ :=
    ResourceServer.change_done linkable supported named spells.present names presents
  rw [LinkChange.action_respelled read read']
  exact ⟨after, execute_writing_done done, changed.refilled, changed.keys, fun other id given given' =>
    (changed.holds other id given given').trans (cells.links_effect ..)⟩

theorem locked_targets (separate : schema.Separate) (relates : schema.Relates type relationship target)
    (locked : relationship.ReadOnly) (spelled : idCell? type owner = some cell) {ids : List String}
    (named : ∀ id ∈ ids, ∃ other, target.Names id other) (change : LinkChange String)
    (moves : change = .add ids ∨ change = .remove ids) {after : Connection}
    (run : execute (SourceAction.writing (change.action schema type relationship owner)) connection =
      (.ok (), after)) : ids = [] := by
  obtain ⟨_, column, storage⟩ := locked
  cases ids with
  | nil => rfl
  | cons id rest =>
      obtain ⟨other, one⟩ := named id List.mem_cons_self
      have found := relates.found separate.formed
      have cells : idCells target (id :: rest) = other :: idCells target rest :=
        List.filterMap_cons_some one.spelled
      have run := execute_mapError_ok run
      rcases moves with rfl | rfl
      · unfold LinkChange.action addToMany at run
        dsimp only at run
        rw [execute_bind, execute_ofExcept, found] at run
        dsimp only at run
        rw [execute_bind, execute_ofExcept, idCell_spelled spelled] at run
        dsimp only at run
        rw [cells, storage] at run
        cases run
      · unfold LinkChange.action Mapping.removeFromMany at run
        dsimp only at run
        rw [execute_bind, execute_ofExcept, found] at run
        dsimp only at run
        rw [execute_bind, execute_ofExcept, idCell_spelled spelled] at run
        dsimp only at run
        rw [cells, storage] at run
        cases run

end

/-- Targets that a request names: all of the right type, and stored under the texts that are given. -/
structure Wanted (database : Database) (target : EntityType) (targets : List Identifier) (cells : List Cell) :
    Prop where
  right : ∀ given ∈ targets, given.type = target.name
  named : List.Forall₂ target.Names (distinctIds [] (targets.map Identifier.id)) cells
  present : ∀ cell ∈ cells, ∃ record ∈ database.records (tableName target), record (idName target) = cell

section

variable {schema : Schema} {connection after : Connection} {type target : EntityType} {relationship : Relationship}
  {targets : List Identifier} {cells : List Cell}

theorem requireTargets_wanted (separate : schema.Separate) (stocked : Stocked schema connection.database)
    (relates : schema.Relates type relationship target) {ids : List String}
    (run : execute (requireTargets schema relationship targets) connection = (.ok ids, after)) :
    ids = distinctIds [] (targets.map Identifier.id) ∧ after.database = connection.database ∧
      ∃ cells, Wanted connection.database target targets cells := by
  cases wrong : targets.find? (fun given => given.type ≠ target.name) with
  | some given =>
      rw [requireTargets_wrong relates wrong] at run
      cases run
  | none =>
      have right : ∀ given ∈ targets, given.type = target.name := by
        simpa using List.find?_eq_none.mp wrong
      obtain ⟨missing, reached, left, kept, done⟩ := requireTargets_right separate stocked relates right
      rw [done] at run
      split at run
      · rename_i complete
        cases run
        have each : ∀ id ∈ distinctIds [] (targets.map Identifier.id), ∃ cell, target.Names id cell ∧
            ∃ record ∈ connection.database.records (tableName target), record (idName target) = cell := by
          intro id asked
          have stored : IsStored connection.database target id := by
            by_contra absent
            have among := (left.members id).mpr ⟨(mem_distinctIds.mp asked).1, absent⟩
            rw [complete] at among
            cases among
          obtain ⟨record, inside, one⟩ := (stocked.isStored_iff separate relates.known').mp stored
          exact ⟨_, one, record, inside, rfl⟩
        obtain ⟨cells, named, present⟩ := forall₂_choose each
        exact ⟨rfl, congrArg Prod.fst kept, cells, right, named, present⟩
      · cases run

theorem Wanted.required (wanted : Wanted connection.database target targets cells) (separate : schema.Separate)
    (stocked : Stocked schema connection.database) (relates : schema.Relates type relationship target) :
    ∃ after, execute (requireTargets schema relationship targets) connection =
        (.ok (distinctIds [] (targets.map Identifier.id)), after) ∧ after.database = connection.database := by
  obtain ⟨missing, after, left, kept, done⟩ := requireTargets_right separate stocked relates wanted.right
  have none : missing = [] := List.eq_nil_iff_forall_not_mem.mpr fun id member => by
    obtain ⟨asked, absent⟩ := (left.members id).mp member
    obtain ⟨cell, among, one⟩ := mem_of_forall₂ wanted.named (mem_distinctIds.mpr ⟨asked, List.not_mem_nil⟩)
    obtain ⟨record, inside, rfl⟩ := wanted.present cell among
    exact absent ((stocked.isStored_iff separate relates.known').mpr ⟨record, inside, one⟩)
  rw [if_pos none] at done
  exact ⟨after, done, congrArg Prod.fst kept⟩

theorem Wanted.choose {database : Database} (wanted : Wanted database target targets cells) {ids : List String}
    (some : ids ⊆ distinctIds [] (targets.map Identifier.id)) :
    ∃ others, List.Forall₂ target.Names ids others ∧ ∀ other ∈ others, other ∈ cells := by
  refine forall₂_choose fun id member => ?_
  obtain ⟨other, among, one⟩ := mem_of_forall₂ wanted.named (some member)
  exact ⟨other, one, among⟩

theorem Wanted.text {database : Database} (wanted : Wanted database target targets cells) {cell : Cell}
    (among : cell ∈ cells) : ∃ id, target.Names id cell := by
  obtain ⟨id, _, one⟩ := mem_of_forall₂ wanted.named.flip among
  exact ⟨id, one⟩

theorem Wanted.alike {base database : Database} (wanted : Wanted base target targets cells)
    (same : FieldsAlike schema base database) (known : target ∈ schema.types) :
    Wanted database target targets cells :=
  ⟨wanted.right, wanted.named, fun cell among => (same.identities known).mpr (wanted.present cell among)⟩

end

/-- A target that loading shows for an owner, if they are linked: the owner is given as it is written, and the target
is stored. -/
structure Seen (database : Database) (type target : EntityType) (owner : String) (cell other : Cell) : Prop where
  named : type.Names owner cell
  present : ∃ record ∈ database.records (tableName target), record (idName target) = other

/-- Texts of the targets that an owner is linked to and that are seen. -/
structure Current (base database : Database) (type target : EntityType) (relationship : Relationship)
    (owner : String) (cell : Cell) (ids : List String) : Prop where
  named : ∀ id ∈ ids, ∃ other, target.Names id other ∧ Seen base type target owner cell other
  members : ∀ {id other}, target.Names id other → (id ∈ ids ↔
    Holds database type target relationship.storage cell other ∧ Seen base type target owner cell other)

theorem Current.same {base database database' : Database} {type target : EntityType} {relationship : Relationship}
    {owner : String} {cell : Cell} {ids ids' : List String}
    (current : Current base database type target relationship owner cell ids)
    (current' : Current base database' type target relationship owner cell ids')
    (held : ∀ {id other}, target.Names id other → (Holds database type target relationship.storage cell other ↔
      Holds database' type target relationship.storage cell other)) (id : String) : id ∈ ids ↔ id ∈ ids' := by
  have decided {other : Cell} (one : target.Names id other) : id ∈ ids ↔ id ∈ ids' := by
    rw [current.members one, current'.members one, held one]
  constructor
  · intro member
    obtain ⟨other, one, _⟩ := current.named id member
    exact (decided one).mp member
  · intro member
    obtain ⟨other, one, _⟩ := current'.named id member
    exact (decided one).mpr member

/-- Resources in stock of which one has its links written. -/
structure Owning (schema : Schema) (type : EntityType) (written : Relationship → Prop) (base : Database)
    (owner : String) (cell : Cell) : Prop where
  separate : schema.Separate
  agree : schema.KeyTypesAgree
  unmixed : schema.Unmixed type written
  stocked : Stocked schema base
  spells : SpellsStored base type owner cell

section

variable {schema : Schema} {connection after : Connection} {type target : EntityType} {relationship : Relationship}
  {written : Relationship → Prop} {base : Database} {owner : String} {cell : Cell} {targets : List Identifier}
  {cells : List Cell}

namespace Owning

variable (owning : Owning schema type written base owner cell)
  (relates : schema.Relates type relationship target)

include owning relates

theorem linkable (steady : Steady schema type written base connection.database) :
    Linkable schema connection.database type relationship target :=
  ⟨owning.separate, steady.stocked owning.stocked, relates, steady.typed.keys relates⟩

theorem spellsStored (steady : Steady schema type written base connection.database) :
    SpellsStored connection.database type owner cell :=
  ⟨owning.spells.spelled, (steady.fields.identities relates.known).mpr owning.spells.present⟩

theorem requires {ids : List String} (steady : Steady schema type written base connection.database)
    (run : execute (requireTargets schema relationship targets) connection = (.ok ids, after)) :
    ids = distinctIds [] (targets.map Identifier.id) ∧ after.database = connection.database ∧
      ∃ cells, Wanted base target targets cells := by
  obtain ⟨same, here, cells, right, named, present⟩ :=
    requireTargets_wanted owning.separate (steady.stocked owning.stocked) relates run
  exact ⟨same, here, cells, right, named, fun cell among =>
    (steady.fields.identities relates.known').mp (present cell among)⟩

theorem required (wanted : Wanted base target targets cells)
    (steady : Steady schema type written base connection.database) :
    ∃ after, execute (requireTargets schema relationship targets) connection =
        (.ok (distinctIds [] (targets.map Identifier.id)), after) ∧ after.database = connection.database :=
  (wanted.alike steady.fields relates.known').required owning.separate (steady.stocked owning.stocked) relates

theorem current (steady : Steady schema type written base connection.database) :
    ∃ ids after, execute (currentTargets schema type relationship owner) connection = (.ok ids, after) ∧
      after.database = connection.database ∧
        Current base connection.database type target relationship owner cell ids := by
  have linkable := owning.linkable relates steady
  obtain ⟨ids, loaded, members⟩ :=
    loadedTargets_ok linkable.stocked linkable.separate relates linkable.keys rfl owner
  obtain ⟨after, done, kept⟩ := currentTargets_loaded loaded
  have present {record : Record} (inside : record ∈ connection.database.records (tableName target)) :=
    (steady.fields.identities relates.known').mp ⟨record, inside, rfl⟩
  have same {cell' : Cell} (named : type.Names owner cell') : cell' = cell :=
    Option.some.inj (named.spelled.symm.trans owning.spells.spelled)
  refine ⟨ids, after, done, congrArg Prod.fst kept, ⟨fun id member => ?_, fun {id other} one => ?_⟩⟩
  · obtain ⟨cell', named, record, inside, one, _⟩ := (members id).mp member
    exact ⟨_, one, same named ▸ named, present inside⟩
  · rw [members id]
    constructor
    · rintro ⟨cell', named, record, inside, one', held⟩
      obtain rfl := same named
      cases one.cell_eq one'
      exact ⟨held, named, present inside⟩
    · rintro ⟨held, named, stored⟩
      obtain ⟨record, inside, rfl⟩ := (steady.fields.identities relates.known').mpr stored
      exact ⟨cell, named, record, inside, one, held⟩

theorem seen_named {other : Cell} (seen : Seen base type target owner cell other) :
    ∃ id, target.Names id other := by
  obtain ⟨record, inside, rfl⟩ := seen.present
  obtain ⟨resource, read⟩ := owning.stocked.readable relates.known' inside
  exact ⟨_, owning.stocked.names owning.separate relates.known' inside read⟩

theorem current_locked (own : written relationship) (locked : relationship.ReadOnly) {database database' : Database}
    (steady : Steady schema type written base database) (steady' : Steady schema type written base database')
    {ids ids' : List String} (current : Current base database type target relationship owner cell ids)
    (current' : Current base database' type target relationship owner cell ids') (id : String) :
    id ∈ ids ↔ id ∈ ids' := by
  have given : cell ≠ .null := by
    rintro rfl
    cases idCell_kind owning.spells.spelled
  exact current.same current' (fun {_ other} one => (steady.locked relates own locked cell other given one.given).trans
    (steady'.locked relates own locked cell other given one.given).symm) id

theorem change_done (change : LinkChange String) (supported : change.Supported relationship)
    {cells : LinkChange Cell} (names : change.Rel target.Names cells)
    (presents : ∀ id ∈ cells.targets, ∃ record ∈ base.records (tableName target), record (idName target) = id)
    (steady : Steady schema type written base connection.database) :
    ∃ after, execute (SourceAction.writing (change.action schema type relationship owner)) connection =
        (.ok (), after) ∧
      Changed schema type target relationship.storage connection.database after.database
        ((cells.effect relationship.storage.Single cell).links
          (Holds connection.database type target relationship.storage)) :=
  (owning.spellsStored relates steady).change_done (owning.linkable relates steady) change supported names
    fun id member => (steady.fields.identities relates.known').mpr (presents id member)

theorem replaced (keyed : ∀ column, relationship.storage ≠ .ownerKey column) (wanted : Wanted base target targets cells)
    (steady : Steady schema type written base connection.database) {current : List String}
    (seen : Current base connection.database type target relationship owner cell current) :
    let asked := distinctIds [] (targets.map Identifier.id)
    ∃ after, execute (do
        SourceAction.writing (Mapping.removeFromMany schema type relationship owner
          (current.filter fun id => !asked.contains id))
        SourceAction.writing (Mapping.addToMany schema type relationship owner
          (asked.filter fun id => !current.contains id))) connection = (.ok (), after) ∧
      Changed schema type target relationship.storage connection.database after.database
        ((LinkEffect.replacing relationship.storage.Single cell (Seen base type target owner cell) cells).links
          (Holds connection.database type target relationship.storage)) := by
  intro asked
  have eachStale : ∀ id ∈ current.filter fun id => !asked.contains id,
      ∃ other, target.Names id other ∧ Seen base type target owner cell other :=
    fun id member => seen.named id (List.mem_filter.mp member).1
  obtain ⟨stale, staleNamed, stalePresent⟩ := forall₂_choose eachStale
  obtain ⟨fresh, freshNamed, freshPresent⟩ :=
    wanted.choose (show asked.filter (fun id => !current.contains id) ⊆ asked from List.filter_sublist.subset)
  have wanted_iff {id : String} {other : Cell} (one : target.Names id other) : id ∈ asked ↔ other ∈ cells :=
    named_mem wanted.named one
  have stale_iff {other : Cell} : other ∈ stale ↔
      Holds connection.database type target relationship.storage cell other ∧
        Seen base type target owner cell other ∧ other ∉ cells := by
    refine named_mem_iff staleNamed (fun one => ?_) fun found => owning.seen_named relates found.2.1
    rw [List.mem_filter, seen.members one, ← wanted_iff one, and_assoc]
    simp
  have fresh_iff {other : Cell} : other ∈ fresh ↔ other ∈ cells ∧
      ¬(Holds connection.database type target relationship.storage cell other ∧
        Seen base type target owner cell other) := by
    refine named_mem_iff freshNamed (fun one => ?_) fun found => wanted.text found.1
    rw [List.mem_filter, wanted_iff one, ← seen.members one]
    simp
  have linkable := owning.linkable relates steady
  have present {cell : Cell} (found : ∃ record ∈ base.records (tableName target), record (idName target) = cell) :=
    (steady.fields.identities relates.known').mpr found
  have spells := owning.spellsStored relates steady
  obtain ⟨middle, removed, cleared⟩ := spells.change_done linkable (.remove _) keyed (.remove staleNamed)
    fun id member => present (stalePresent id member).present
  have free {holder : EntityType} (known : holder ∈ schema.types) := place_free owning.separate relates known
  obtain ⟨after, added, filled⟩ := SpellsStored.change_done
    ⟨spells.spelled, cleared.refilled.present (free relates.known) spells.present⟩ (linkable.changed cleared)
    (.add _) keyed (.add freshNamed) fun id member =>
      cleared.refilled.present (free relates.known') (present (wanted.present id (freshPresent id member)))
  refine ⟨after, ?_, cleared.trans filled fun other id given given' => ?_⟩
  · refine (execute_bind _ _ _).trans ?_
    change execute (SourceAction.writing (Mapping.removeFromMany schema type relationship owner _)) connection = _
      at removed
    rw [removed]
    exact added
  · rw [← LinkChange.links_replacing stale_iff fresh_iff fun single held held' => held_single linkable single held held']
    rw [LinkChange.links_effect]
    refine LinkEffect.links_congr _ ?_
    rw [cleared.holds other id given given', LinkChange.links_effect]

/-- Removing those targets that are current takes away what is seen of them. -/
theorem withdrawn (keyed : ∀ column, relationship.storage ≠ .ownerKey column)
    (wanted : Wanted base target targets cells) (steady : Steady schema type written base connection.database)
    {current : List String} (seen : Current base connection.database type target relationship owner cell current) :
    let present := (distinctIds [] (targets.map Identifier.id)).filter current.contains
    ∃ any after, (if present.isEmpty = true then (.ok false, connection)
        else execute (do
          SourceAction.writing (Mapping.removeFromMany schema type relationship owner present)
          return true) connection) = (.ok any, after) ∧
      Changed schema type target relationship.storage connection.database after.database
        ((LinkEffect.withdrawing cell (Seen base type target owner cell) cells).links
          (Holds connection.database type target relationship.storage)) := by
  intro present
  obtain ⟨taken, named, stored⟩ := wanted.choose (show present ⊆ _ from List.filter_sublist.subset)
  have taken_iff {other : Cell} : other ∈ taken ↔ other ∈ cells ∧
      Holds connection.database type target relationship.storage cell other ∧
        Seen base type target owner cell other := by
    refine named_mem_iff named (fun one => ?_) fun found => wanted.text found.1
    rw [List.mem_filter, named_mem wanted.named one, List.contains_iff_mem, seen.members one]
  obtain ⟨after, removed, changed⟩ := owning.change_done relates (.remove _) keyed (.remove named)
    (fun id member => wanted.present id (stored id member)) steady
  have effect {other id : Cell} : (LinkEffect.withdrawing cell (Seen base type target owner cell) cells).links
      (Holds connection.database type target relationship.storage) other id ↔
        ((LinkChange.remove taken).effect relationship.storage.Single cell).links
          (Holds connection.database type target relationship.storage) other id := by
    rw [← LinkChange.links_withdrawing taken_iff, LinkChange.links_effect]
  split
  · rename_i empty
    refine ⟨false, connection, rfl, .same steady.housed (steady.typed.keys relates) fun other id => ?_⟩
    rw [List.isEmpty_iff.mp empty] at named
    cases named
    rw [effect, ← LinkChange.links_effect]
    simp [LinkChange.links]
  · refine ⟨true, after, ?_, changed.refilled, changed.keys, fun other id given given' =>
      (changed.holds other id given given').trans effect.symm⟩
    change execute (SourceAction.writing (Mapping.removeFromMany schema type relationship owner present)) connection = _
      at removed
    rw [execute_bind, removed]
    rfl

end Owning

end

end ResourceServer
