import ResourceServer.Proofs.IdleLinkage

/-! What a change of links does to links, whatever they are: some of those that are held are kept, and some are
added. Done again, it leaves the links as they are. -/

namespace ResourceServer

open ResourceServer.Store ResourceServer.Mapping ResourceServer.Api

/-- Which links are kept where they are held, and which are there in any case. -/
structure LinkEffect where
  keeps : Cell → Cell → Prop
  adds : Cell → Cell → Prop

namespace LinkEffect

variable {before : Cell → Cell → Prop} {owner target : Cell}

def links (effect : LinkEffect) (before : Cell → Cell → Prop) (owner target : Cell) : Prop :=
  before owner target ∧ effect.keeps owner target ∨ effect.adds owner target

def idle : LinkEffect :=
  ⟨fun _ _ => True, fun _ _ => False⟩

def andThen (first second : LinkEffect) : LinkEffect :=
  ⟨fun owner target => first.keeps owner target ∧ second.keeps owner target,
    fun owner target => first.adds owner target ∧ second.keeps owner target ∨ second.adds owner target⟩

def flip (effect : LinkEffect) : LinkEffect :=
  ⟨fun owner target => effect.keeps target owner, fun owner target => effect.adds target owner⟩

theorem links_idle : idle.links before owner target ↔ before owner target := by
  simp [links, idle]

theorem links_andThen (first second : LinkEffect) :
    (first.andThen second).links before owner target ↔ second.links (first.links before) owner target := by
  simp only [links, andThen]
  tauto

theorem links_twice (effect : LinkEffect) :
    effect.links (effect.links before) owner target ↔ effect.links before owner target := by
  simp only [links]
  tauto

theorem links_congr (effect : LinkEffect) {before' : Cell → Cell → Prop}
    (same : before owner target ↔ before' owner target) :
    effect.links before owner target ↔ effect.links before' owner target := by
  simp only [links, same]

/-- The effect of replacing the targets of an owner. Only the targets that are seen give way to those that are
wanted. -/
def replacing (single : Prop) (owner : Cell) (seen : Cell → Prop) (wanted : List Cell) : LinkEffect :=
  ⟨fun other target => (other = owner → seen target → target ∈ wanted) ∧
      (other ≠ owner → ¬(single ∧ target ∈ wanted)),
    fun other target => other = owner ∧ target ∈ wanted⟩

def withdrawing (owner : Cell) (seen : Cell → Prop) (wanted : List Cell) : LinkEffect :=
  ⟨fun other target => ¬(other = owner ∧ seen target ∧ target ∈ wanted), fun _ _ => False⟩

end LinkEffect

namespace LinkChange

def effect (single : Prop) (owner : Cell) : LinkChange Cell → LinkEffect
  | .set chosen =>
    ⟨fun other target => other ≠ owner ∧ ¬(single ∧ target ∈ chosen),
      fun other target => other = owner ∧ target ∈ chosen⟩
  | .add more =>
    ⟨fun other target => other = owner ∨ ¬(single ∧ target ∈ more),
      fun other target => other = owner ∧ target ∈ more⟩
  | .remove fewer => ⟨fun other target => ¬(other = owner ∧ target ∈ fewer), fun _ _ => False⟩

variable {single : Prop} {owner other target : Cell} {before : Cell → Cell → Prop}

theorem links_effect (change : LinkChange Cell) :
    change.links single owner before other target ↔
      (change.effect single owner).links before other target := by
  cases change with
  | set chosen =>
      simp only [links, effect, LinkEffect.links]
      tauto
  | add more =>
      simp only [links, effect, LinkEffect.links]
      by_cases same : other = owner
      · subst same
        tauto
      · tauto
  | remove fewer => simp only [links, effect, LinkEffect.links, or_false]

/-- Taking away the targets that are seen but not wanted, and then adding those that are wanted but not seen,
replaces the targets. -/
theorem links_replacing {seen : Cell → Prop} {stale fresh wanted : List Cell}
    (stale_iff : target ∈ stale ↔ before owner target ∧ seen target ∧ target ∉ wanted)
    (fresh_iff : target ∈ fresh ↔ target ∈ wanted ∧ ¬(before owner target ∧ seen target))
    (alone : single → before owner target → before other target → other = owner) :
    (add fresh).links single owner ((remove stale).links single owner before) other target ↔
      (LinkEffect.replacing single owner seen wanted).links before other target := by
  simp only [links, LinkEffect.links, LinkEffect.replacing, stale_iff, fresh_iff]
  by_cases same : other = owner
  · subst same
    simp only [ne_eq, not_true, true_and, false_and, or_false, true_implies, false_implies, and_true]
    -- A target that is held and seen stays if it is wanted, any other one is added if it is.
    by_cases held : before other target
    · by_cases sees : seen target <;> simp [held, sees]
    · simp [held]
  · simp only [ne_eq, same, not_false_iff, false_and, false_or, true_and, and_true, or_false, false_implies,
      true_implies]
    refine and_congr_right fun held => not_congr (and_congr_right fun one => and_iff_left ?_)
    exact fun linked => same (alone one linked.1 held)

theorem links_withdrawing {seen : Cell → Prop} {present wanted : List Cell}
    (present_iff : target ∈ present ↔ target ∈ wanted ∧ before owner target ∧ seen target) :
    (remove present).links single owner before other target ↔
      (LinkEffect.withdrawing owner seen wanted).links before other target := by
  simp only [links, LinkEffect.links, LinkEffect.withdrawing, present_iff, or_false]
  refine and_congr_right fun held => not_congr (and_congr_right fun same => ?_)
  subst same
  simp only [held, true_and, and_comm]

end LinkChange

/-! Relationships that keep their links in one place hold the same links, in one direction or the other. -/

section

variable {schema : Schema} {type target type' target' : EntityType} {relationship relationship' : Relationship}

theorem holds_shared (separate : schema.Separate) (relates : schema.Relates type relationship target)
    (relates' : schema.Relates type' relationship' target')
    (here : relationship'.storage.place type' target' = relationship.storage.place type target) :
    (∀ database owner other, Holds database type' target' relationship'.storage owner other ↔
        Holds database type target relationship.storage owner other) ∨
      ∀ database owner other, Holds database type' target' relationship'.storage owner other ↔
        Holds database type target relationship.storage other owner := by
  have same {holder other : EntityType} (known : holder ∈ schema.types) (known' : other ∈ schema.types)
      (table : tableName holder = tableName other) : holder = other :=
    same_type separate.tables known known' table
  unfold Holds
  cases storage : relationship.storage with
  | ownerKey column =>
      cases storage' : relationship'.storage with
      | ownerKey column' =>
          rw [storage, storage'] at here
          obtain ⟨table, rfl⟩ := Place.column.inj here
          obtain rfl := same relates'.known relates.known table
          exact .inl fun _ _ _ => Iff.rfl
      | targetKey column' =>
          rw [storage, storage'] at here
          obtain ⟨table, rfl⟩ := Place.column.inj here
          obtain rfl := same relates'.known' relates.known table
          exact .inr fun _ _ _ => Iff.rfl
      | joinTable _ _ _ =>
          rw [storage, storage'] at here
          cases here
  | targetKey column =>
      cases storage' : relationship'.storage with
      | ownerKey column' =>
          rw [storage, storage'] at here
          obtain ⟨table, rfl⟩ := Place.column.inj here
          obtain rfl := same relates'.known relates.known' table
          exact .inr fun _ _ _ => Iff.rfl
      | targetKey column' =>
          rw [storage, storage'] at here
          obtain ⟨table, rfl⟩ := Place.column.inj here
          obtain rfl := same relates'.known' relates.known' table
          exact .inl fun _ _ _ => Iff.rfl
      | joinTable _ _ _ =>
          rw [storage, storage'] at here
          cases here
  | joinTable pairs ownerColumn targetColumn =>
      cases storage' : relationship'.storage with
      | ownerKey _ =>
          rw [storage, storage'] at here
          cases here
      | targetKey _ =>
          rw [storage, storage'] at here
          cases here
      | joinTable pairs' ownerColumn' targetColumn' =>
          rw [storage, storage'] at here
          obtain rfl := Place.pairs.inj here
          rcases separate.shared type relates.known relationship relates.own type' relates'.known relationship'
            relates'.own _ _ _ _ _ storage storage' with ⟨rfl, rfl⟩ | ⟨rfl, rfl⟩
          · exact .inl fun _ _ _ => Iff.rfl
          · exact .inr fun _ _ _ => exists_congr fun _ => and_congr_right fun _ => and_comm

theorem exists_mem_of_forall₂ {α β : Type} {relation : α → β → Prop} {items : List α} {others : List β}
    (all : List.Forall₂ relation items others) {test : α → Prop} {test' : β → Prop}
    (same : ∀ item other, relation item other → (test' other ↔ test item)) :
    (∃ other ∈ others, test' other) ↔ ∃ item ∈ items, test item := by
  constructor
  · rintro ⟨other, member, holds⟩
    obtain ⟨item, inside, one⟩ := mem_of_forall₂ all.flip member
    exact ⟨item, inside, (same item other one).mp holds⟩
  · rintro ⟨item, member, holds⟩
    obtain ⟨other, inside, one⟩ := mem_of_forall₂ all member
    exact ⟨other, inside, (same item other one).mpr holds⟩

theorem holds_elsewhere (separate : schema.Separate) (relates : schema.Relates type relationship target)
    (relates' : schema.Relates type' relationship' target')
    (elsewhere : relationship'.storage.place type' target' ≠ relationship.storage.place type target)
    {before after : Database} (confined : Confined (relationship.storage.place type target) before after)
    (owner other : Cell) :
    Holds after type' target' relationship'.storage owner other ↔
      Holds before type' target' relationship'.storage owner other := by
  have free {holder : EntityType} (known : holder ∈ schema.types) := place_free separate relates known
  unfold Holds
  cases storage' : relationship'.storage with
  | ownerKey column =>
      rw [storage'] at elsewhere
      refine exists_mem_of_forall₂ (confined _ (free relates'.known).1) fun old new alike => ?_
      rw [show new (idName type') = old (idName type') from
        alike _ ((free relates'.known).2 type'.identity List.mem_cons_self), alike column (Ne.symm elsewhere)]
  | targetKey column =>
      rw [storage'] at elsewhere
      refine exists_mem_of_forall₂ (confined _ (free relates'.known').1) fun old new alike => ?_
      rw [show new (idName target') = old (idName target') from
        alike _ ((free relates'.known').2 target'.identity List.mem_cons_self), alike column (Ne.symm elsewhere)]
  | joinTable pairs ownerColumn targetColumn =>
      rw [storage'] at elsewhere
      have outside := place_outside separate relates
        ⟨type', relates'.known, relationship', relates'.own, _, _, storage'⟩
      refine exists_mem_of_forall₂ (confined pairs (Ne.symm elsewhere)) fun old new alike => ?_
      rw [alike ownerColumn (outside ownerColumn), alike targetColumn (outside targetColumn)]

end

/-! Actions that can be done again. From every database that has the same resources they succeed, and what they do to
the links does not depend on these. -/

/-- A to-many relationship with a key of the owner has no room to add and remove links. -/
def Relationship.ReadOnly (relationship : Relationship) : Prop :=
  relationship.isToMany = true ∧ ∃ column, relationship.storage = .ownerKey column

/-- Some relationships of a type that can not be written do not keep their links where others of them write. -/
def Schema.Unmixed (schema : Schema) (type : EntityType) (written : Relationship → Prop) : Prop :=
  ∀ {relationship relationship' : Relationship} {target target' : EntityType},
    schema.Relates type relationship target → schema.Relates type relationship' target' →
      written relationship → written relationship' → relationship.ReadOnly →
        relationship'.storage.place type target' = relationship.storage.place type target →
          relationship'.ReadOnly

/-- A database with the resources of another one, and with the same links in the relationships of a type that can not
be written. -/
structure Steady (schema : Schema) (type : EntityType) (written : Relationship → Prop)
    (base database : Database) : Prop where
  housed : Housed schema database
  fields : FieldsAlike schema base database
  typed : ReferencesTyped schema database
  locked : ∀ {relationship : Relationship} {target : EntityType}, schema.Relates type relationship target →
    written relationship → relationship.ReadOnly → ∀ owner other, owner ≠ .null → other ≠ .null →
      (Holds database type target relationship.storage owner other ↔
        Holds base type target relationship.storage owner other)

section

variable {schema : Schema} {base database : Database} {type : EntityType} {written : Relationship → Prop}

theorem Steady.refl (housed : Housed schema base) (typed : ReferencesTyped schema base) :
    Steady schema type written base base :=
  ⟨housed, fun _ _ => rfl, typed, fun _ _ _ _ _ _ _ => Iff.rfl⟩

theorem Stocked.alike (stocked : Stocked schema base) (housed : Housed schema database)
    (same : FieldsAlike schema base database) : Stocked schema database := by
  refine stocked_of_stored housed (stocked.stored.alike same) fun type known => ?_
  have identities (database : Database) : (database.records (tableName type)).map (fun record =>
      record (idName type)) = (fieldRows database type).map fun row => row.headD .null := by
    unfold fieldRows
    rw [List.map_map]
    rfl
  rw [identities, same type known, ← identities]
  exact stocked.distinct type known

theorem Steady.stocked (steady : Steady schema type written base database) (stocked : Stocked schema base) :
    Stocked schema database :=
  stocked.alike steady.housed steady.fields

theorem FieldsAlike.record (same : FieldsAlike schema base database) {holder : EntityType}
    (known : holder ∈ schema.types) {record : Record} (member : record ∈ database.records (tableName holder)) :
    ∃ old ∈ base.records (tableName holder), ∀ field ∈ holder.fields,
      record (columnName field.name) = old (columnName field.name) := by
  have row : fieldRow holder record ∈ fieldRows base holder := same holder known ▸ List.mem_map_of_mem member
  obtain ⟨old, inside, equal⟩ := List.mem_map.mp row
  exact ⟨old, inside, fun field own => (List.map_inj_left.mp equal field own).symm⟩

theorem FieldsAlike.identities (same : FieldsAlike schema base database) {holder : EntityType}
    (known : holder ∈ schema.types) {cell : Cell} :
    (∃ record ∈ database.records (tableName holder), record (idName holder) = cell) ↔
      ∃ record ∈ base.records (tableName holder), record (idName holder) = cell := by
  have rows (database : Database) : (∃ record ∈ database.records (tableName holder), record (idName holder) = cell) ↔
      ∃ row ∈ fieldRows database holder, row.headD .null = cell := by
    unfold fieldRows
    simp only [List.mem_map, exists_exists_and_eq_and]
    rfl
  rw [rows, rows, same holder known]

theorem steady_invariant (separate : schema.Separate) (agree : schema.KeyTypesAgree) :
    LinkInvariant schema False fun database =>
      Housed schema database ∧ FieldsAlike schema base database ∧ ReferencesTyped schema database where
  formed := separate.formed
  tables := separate.tables
  keys := False.elim
  kept _ links filled held := by
    obtain ⟨name, records, changed⟩ := links.rewrites
    refine ⟨held.1.refills filled changed, fun type known => ?_, ?_⟩
    · exact (links.fieldsAlike separate.tables separate.keys type known).trans (held.2.1 type known)
    · exact (Changes.relink links).references_typed separate.keys agree held.2.2

end

/-- An action that succeeds from every database of some kind and leads to such a database. To the links of each
relationship it does the same, wherever it starts. -/
structure Replayable (schema : Schema) (context : Database → Prop) {α : Type} (action : SourceAction α) :
    Prop where
  succeeds : ∀ {connection : Connection}, context connection.database →
    ∃ value after, execute action connection = (.ok value, after) ∧ context after.database
  settles : ∀ {type target : EntityType} {relationship : Relationship},
    schema.Relates type relationship target → ∃ effect : LinkEffect,
      ∀ {connection after : Connection} {value : α}, context connection.database →
        execute action connection = (.ok value, after) → ∀ owner other, owner ≠ .null → other ≠ .null →
          (Holds after.database type target relationship.storage owner other ↔
            effect.links (Holds connection.database type target relationship.storage) owner other)

section

variable {schema : Schema} {context : Database → Prop} {α β : Type} {action : SourceAction α}

theorem replayable_reading
    (reads : ∀ {connection : Connection}, context connection.database →
      ∃ value after, execute action connection = (.ok value, after) ∧ after.database = connection.database) :
    Replayable schema context action where
  succeeds start := by
    obtain ⟨value, after, done, same⟩ := reads start
    exact ⟨value, after, done, same.symm ▸ start⟩
  settles _ := by
    refine ⟨.idle, fun start run _ _ _ _ => ?_⟩
    obtain ⟨value, after, done, same⟩ := reads start
    cases run.symm.trans done
    rw [LinkEffect.links_idle, same]

theorem Replayable.andThen {next : SourceAction β} (first : Replayable schema context action)
    (second : Replayable schema context next) : Replayable schema context (action >>= fun _ => next) where
  succeeds start := by
    obtain ⟨_, middle, done, between⟩ := first.succeeds start
    obtain ⟨value, after, done', finish⟩ := second.succeeds between
    exact ⟨value, after, by rw [execute_bind, done]; exact done', finish⟩
  settles relates := by
    obtain ⟨effect, settles⟩ := first.settles relates
    obtain ⟨effect', settles'⟩ := second.settles relates
    refine ⟨effect.andThen effect', fun start run owner other given given' => ?_⟩
    obtain ⟨_, middle, done, between⟩ := first.succeeds start
    rw [execute_bind, done] at run
    rw [settles' between run owner other given given', LinkEffect.links_andThen]
    exact effect'.links_congr (settles start done owner other given given')

theorem Replayable.map (replayable : Replayable schema context action) (make : α → β) :
    Replayable schema context (action >>= fun value => pure (make value)) where
  succeeds start := by
    obtain ⟨value, after, done, finish⟩ := replayable.succeeds start
    exact ⟨make value, after, by rw [execute_bind, done]; rfl, finish⟩
  settles relates := by
    obtain ⟨effect, settles⟩ := replayable.settles relates
    refine ⟨effect, fun start run => ?_⟩
    obtain ⟨value, after, done, _⟩ := replayable.succeeds start
    rw [execute_bind, done] at run
    cases run
    exact settles start done

theorem replayable_forM {items : List β} {step : β → SourceAction PUnit}
    (each : ∀ item ∈ items, ∀ {connection after : Connection}, context connection.database →
      execute (step item) connection = (.ok (), after) → Replayable schema context (step item))
    {connection after : Connection} (start : context connection.database)
    (run : execute (items.forM step) connection = (.ok (), after)) :
    Replayable schema context (items.forM step) := by
  induction items generalizing connection with
  | nil => exact replayable_reading fun _ => ⟨(), _, rfl, rfl⟩
  | cons item rest ih =>
      obtain ⟨⟨⟩, middle, one, run⟩ := execute_bind_ok run
      have first := each item List.mem_cons_self start one
      obtain ⟨_, _, done, between⟩ := first.succeeds start
      cases one.symm.trans done
      exact first.andThen (ih (fun other member => each other (List.mem_cons_of_mem _ member)) between run)

theorem Replayable.again (replayable : Replayable schema context action) {first reached second : Connection}
    {value : α} (start : context first.database) (run : execute action first = (.ok value, reached))
    (start' : context second.database)
    (same : ∀ {type target : EntityType} {relationship : Relationship},
      schema.Relates type relationship target → ∀ owner other,
        (Holds second.database type target relationship.storage owner other ↔
          Holds reached.database type target relationship.storage owner other)) :
    ∃ value' after, execute action second = (.ok value', after) ∧ context after.database ∧
      ∀ {type target : EntityType} {relationship : Relationship},
        schema.Relates type relationship target → ∀ owner other, owner ≠ .null → other ≠ .null →
          (Holds after.database type target relationship.storage owner other ↔
            Holds reached.database type target relationship.storage owner other) := by
  obtain ⟨value', after, done, finish⟩ := replayable.succeeds start'
  refine ⟨value', after, done, finish, fun relates owner other given given' => ?_⟩
  obtain ⟨effect, settles⟩ := replayable.settles relates
  have once := settles start run owner other given given'
  rw [settles start' done owner other given given', once]
  exact (effect.links_congr ((same relates owner other).trans once)).trans effect.links_twice

end

/-- An action that changes the links of one relationship, in the same way wherever it starts, can be done again. -/
theorem replayable_changed {schema : Schema} {base : Database} {type target : EntityType}
    {relationship : Relationship} {written : Relationship → Prop} {α : Type} {action : SourceAction α}
    (separate : schema.Separate) (unmixed : schema.Unmixed type written)
    (relates : schema.Relates type relationship target) (own : written relationship)
    (kept : Maintains (fun database => Laid schema database ∧ Housed schema database ∧
      FieldsAlike schema base database ∧ ReferencesTyped schema database) action)
    (effect : LinkEffect) (idle : relationship.ReadOnly → effect = .idle)
    (done : ∀ {connection : Connection}, Steady schema type written base connection.database →
      ∃ value after, execute action connection = (.ok value, after) ∧
        Changed schema type target relationship.storage connection.database after.database
          (effect.links (Holds connection.database type target relationship.storage))) :
    Replayable schema (Steady schema type written base) action := by
  -- Every relationship keeps its links here, one way or the other, or elsewhere.
  have settles {type' target' : EntityType} {relationship' : Relationship}
      (relates' : schema.Relates type' relationship' target') : ∃ effect' : LinkEffect,
        (relationship'.storage.place type' target' ≠ relationship.storage.place type target ∨
            effect = .idle → effect' = .idle) ∧
        ∀ {connection after : Connection} {value : α}, Steady schema type written base connection.database →
          execute action connection = (.ok value, after) → ∀ owner other, owner ≠ .null → other ≠ .null →
            (Holds after.database type' target' relationship'.storage owner other ↔
              effect'.links (Holds connection.database type' target' relationship'.storage) owner other) := by
    have change {connection after : Connection} {value : α}
        (start : Steady schema type written base connection.database)
        (run : execute action connection = (.ok value, after)) :
        Changed schema type target relationship.storage connection.database after.database
          (effect.links (Holds connection.database type target relationship.storage)) := by
      obtain ⟨_, _, done, changed⟩ := done start
      cases run.symm.trans done
      exact changed
    by_cases here : relationship'.storage.place type' target' = relationship.storage.place type target
    · rcases holds_shared separate relates relates' here with same | flipped
      · refine ⟨effect, fun either => either.resolve_left (not_not.mpr here), ?_⟩
        intro connection after value start run owner other given given'
        rw [same, (change start run).holds owner other given given']
        exact effect.links_congr (same ..).symm
      · refine ⟨effect.flip, fun either => ?_, ?_⟩
        · rw [either.resolve_left (not_not.mpr here)]
          rfl
        · intro connection after value start run owner other given given'
          rw [flipped, (change start run).holds other owner given' given]
          unfold LinkEffect.links
          rw [flipped]
          rfl
    · refine ⟨.idle, fun _ => rfl, fun start run owner other _ _ => ?_⟩
      rw [LinkEffect.links_idle]
      exact holds_elsewhere separate relates relates' here (change start run).refilled.confined owner other
  refine ⟨fun {connection} start => ?_, fun relates' => ?_⟩
  · obtain ⟨value, after, run, changed⟩ := done start
    obtain ⟨_, housed, fields, typed⟩ :=
      kept.sound ⟨start.housed.laid separate.tables, start.housed, start.fields, start.typed⟩ run
    refine ⟨value, after, run, housed, fields, typed, fun {locked _} relates' own' readOnly owner other given given' => ?_⟩
    obtain ⟨effect', still, settles⟩ := settles relates'
    have none : effect' = .idle := by
      refine still ((ne_or_eq _ _).imp_right fun here => idle ?_)
      exact unmixed relates' relates own' own readOnly here.symm
    rw [settles start run owner other given given', none, LinkEffect.links_idle]
    exact start.locked relates' own' readOnly owner other given given'
  · obtain ⟨effect', _, settles⟩ := settles relates'
    exact ⟨effect', settles⟩

end ResourceServer
