import ResourceServer.Proofs.Linking

/-! A resource that is deleted is referred to by nothing. -/

namespace ResourceServer

open ResourceServer.Store ResourceServer.Mapping

theorem freed_rewrites {before after : Database} {name table column : String} {records : List Record}
    {cell : Cell} (changed : Rewrites before after name records)
    (each : table = name → ∀ record ∈ records, (record column).agrees cell = false)
    (kept : table ≠ name → Freed table column cell before) : Freed table column cell after := by
  intro record member
  by_cases same : table = name
  · rw [same, records_same changed] at member
    exact each same record member
  · rw [records_other changed same] at member
    exact kept same record member

/-- The property of a run is ready, and a column is free of a value if it is said to be. -/
structure Unlinked (schema : Schema) (sound : Prop) (holds : Database → Prop)
    (table column : String) (cell : Cell) (freed : Prop) (database : Database) : Prop where
  ready : Ready schema sound holds (fun _ _ => False) database
  free : freed → Freed table column cell database

/-- A step that leaves columns free of a value, and frees one under some condition. -/
structure Unlinks (schema : Schema) (sound : Prop) (holds : Database → Prop)
    (table column : String) (cell : Cell) (action : MappingAction Unit) (frees : Prop) : Prop where
  step : ∀ freed : Prop, Establishes
    (fun connection => Unlinked schema sound holds table column cell freed connection.database)
    action
    fun _ connection =>
      Unlinked schema sound holds table column cell (freed ∨ frees) connection.database

section

variable {schema : Schema} {sound : Prop} {holds : Database → Prop} {table column : String}
  {cell : Cell} {action : MappingAction Unit} {frees : Prop}

theorem unlinks_pure (never : ¬frees) :
    Unlinks schema sound holds table column cell (pure ()) frees := by
  refine ⟨fun freed => establishes_pure fun connection start => ?_⟩
  exact ⟨start.ready, fun given => start.free (given.resolve_right never)⟩

theorem unlinks_weaken {frees' : Prop} (stronger : frees' → frees)
    (inner : Unlinks schema sound holds table column cell action frees) :
    Unlinks schema sound holds table column cell action frees' :=
  ⟨fun freed => establishes_weaken (inner.step freed) (fun _ start => start) fun _ _ finish =>
    ⟨finish.ready, fun given => finish.free (given.imp_right stronger)⟩⟩

theorem unlinks_bind {next : MappingAction Unit} {frees' : Prop}
    (first : Unlinks schema sound holds table column cell action frees)
    (second : Unlinks schema sound holds table column cell next frees') :
    Unlinks schema sound holds table column cell (action >>= fun _ => next) (frees ∨ frees') := by
  refine ⟨fun freed => establishes_bind (first.step freed) fun _ => ?_⟩
  exact establishes_weaken (second.step (freed ∨ frees)) (fun _ start => start) fun _ _ finish =>
    ⟨finish.ready, fun given => finish.free (or_assoc.mpr given)⟩

theorem unlinks_forM {α : Type} {items : List α} {step : α → MappingAction Unit}
    {frees : α → Prop}
    (each : ∀ item ∈ items, Unlinks schema sound holds table column cell (step item) (frees item)) :
    Unlinks schema sound holds table column cell (items.forM step)
      (∃ item ∈ items, frees item) := by
  induction items with
  | nil => exact unlinks_pure (by simp)
  | cons item rest ih =>
      have later := ih fun other member => each other (List.mem_cons_of_mem _ member)
      refine unlinks_weaken ?_ (unlinks_bind (each item List.mem_cons_self) later)
      rintro ⟨other, member, given⟩
      rcases List.mem_cons.mp member with rfl | inside
      · exact .inl given
      · exact .inr ⟨other, inside, given⟩

variable (invariant : LinkInvariant schema sound holds)
include invariant

theorem clearKey_unlinks {table' column' : String} {target : EntityType}
    (refers : Refers schema table' column' target) :
    Unlinks schema sound holds table column cell (clearKey table' column' cell)
      (table' = table ∧ column' = column) := by
  refine ⟨fun freed => ⟨fun {connection after value} start run => ?_⟩⟩
  have ⟨ready, _⟩ := (clearKey_ready invariant refers cell).sound start.ready run
  have changed := clearKey_run start.ready.laid.wide run
  refine ⟨ready, fun given => freed_rewrites changed (fun same record member => ?_) fun apart => ?_⟩
  · obtain ⟨old, inside, rfl⟩ := List.mem_map.mp member
    subst same
    by_cases here : column = column'
    · subst here
      split
      · rw [Record.set_same]
        rfl
      · rename_i other
        exact Bool.eq_false_iff.mpr other
    · have free := start.free (given.resolve_right fun both => here both.2.symm) old inside
      split
      · rw [Record.set_other _ here]
        exact free
      · exact free
  · exact start.free (given.resolve_right fun both => apart both.1.symm)

theorem deletePairs_unlinks {table' : String} (used : Pairs schema table') (column' : String) :
    Unlinks schema sound holds table column cell (deletePairs table' column' cell)
      (table' = table ∧ column' = column) := by
  refine ⟨fun freed => ⟨fun {connection after value} start run => ?_⟩⟩
  have ⟨ready, _⟩ := (deletePairs_ready invariant used column' cell).sound start.ready run
  have changed := deletePairs_run start.ready.laid.wide run
  refine ⟨ready, fun given => freed_rewrites changed (fun same record member => ?_) fun apart => ?_⟩
  · obtain ⟨inside, passed⟩ := List.mem_filter.mp member
    subst same
    rcases given with before | ⟨_, rfl⟩
    · exact start.free before record inside
    · simpa using passed
  · exact start.free (given.resolve_right fun both => apart both.1.symm)

def OwnerFrees (schema : Schema) (relationship : Relationship) (table column : String) : Prop :=
  match relationship.storage with
  | .ownerKey _ => False
  | .targetKey key =>
    ∃ target, schema.type? relationship.target = some target ∧ tableName target = table ∧
      key = column
  | .joinTable pairs ownerColumn _ => pairs = table ∧ ownerColumn = column

def TargetFrees (owner : EntityType) (relationship : Relationship) (table column : String) : Prop :=
  match relationship.storage with
  | .ownerKey key => tableName owner = table ∧ key = column
  | .targetKey _ => False
  | .joinTable pairs _ targetColumn => pairs = table ∧ targetColumn = column

theorem unlinkOwner_unlinks {type : EntityType} (known : type ∈ schema.types)
    {relationship : Relationship} (own : relationship ∈ type.relationships) :
    Unlinks schema sound holds table column cell (unlinkOwner schema relationship cell)
      (OwnerFrees schema relationship table column) := by
  obtain ⟨target, _, leads, found, _⟩ := invariant.formed.target known own
  unfold unlinkOwner OwnerFrees
  cases storage : relationship.storage with
  | ownerKey key => exact unlinks_pure id
  | targetKey key =>
      dsimp only
      rw [found]
      refine unlinks_weaken ?_ (clearKey_unlinks invariant (.targetKey known own storage leads))
      rintro ⟨target', leads', here⟩
      cases leads.symm.trans leads'
      exact here
  | joinTable pairs ownerColumn targetColumn =>
      exact deletePairs_unlinks invariant
        ⟨type, known, relationship, own, ownerColumn, targetColumn, storage⟩ ownerColumn

theorem unlinkTarget_unlinks {owner : EntityType} (known : owner ∈ schema.types)
    {relationship : Relationship} (own : relationship ∈ owner.relationships) :
    Unlinks schema sound holds table column cell (unlinkTarget owner relationship cell)
      (TargetFrees owner relationship table column) := by
  obtain ⟨target, _, leads, _, _⟩ := invariant.formed.target known own
  unfold unlinkTarget TargetFrees
  cases storage : relationship.storage with
  | ownerKey key => exact clearKey_unlinks invariant (.ownerKey known own storage leads)
  | targetKey key => exact unlinks_pure id
  | joinTable pairs ownerColumn targetColumn =>
      exact deletePairs_unlinks invariant
        ⟨owner, known, relationship, own, ownerColumn, targetColumn, storage⟩ targetColumn

omit invariant in
theorem refers_freed {type : EntityType}
    (refers : Refers schema table column type) :
    (∃ relationship ∈ type.relationships, OwnerFrees schema relationship table column) ∨
      ∃ owner ∈ schema.types, ∃ relationship ∈
        owner.relationships.filter (fun relationship => relationship.target = type.name),
        TargetFrees owner relationship table column := by
  have aims {relationship : Relationship} (leads : schema.type? relationship.target = some type) :
      relationship.target = type.name := by
    have named := List.find?_some leads
    exact (of_decide_eq_true named).symm
  cases refers with
  | @ownerKey owner _ relationship column known own storage leads =>
      refine .inr ⟨owner, known, relationship, ?_, ?_⟩
      · exact List.mem_filter.mpr ⟨own, decide_eq_true (aims leads)⟩
      · unfold TargetFrees
        rw [storage]
        exact ⟨rfl, rfl⟩
  | @targetKey _ target relationship column known own storage leads =>
      refine .inl ⟨relationship, own, ?_⟩
      unfold OwnerFrees
      rw [storage]
      exact ⟨target, leads, rfl, rfl⟩
  | @ownerPair _ relationship pairs ownerColumn targetColumn known own storage =>
      refine .inl ⟨relationship, own, ?_⟩
      unfold OwnerFrees
      rw [storage]
      exact ⟨rfl, rfl⟩
  | @targetPair owner _ relationship pairs ownerColumn targetColumn known own storage leads =>
      refine .inr ⟨owner, known, relationship, ?_, ?_⟩
      · exact List.mem_filter.mpr ⟨own, decide_eq_true (aims leads)⟩
      · unfold TargetFrees
        rw [storage]
        exact ⟨rfl, rfl⟩

theorem unlinks_resource {type : EntityType} (known : type ∈ schema.types) :
    Unlinks schema sound holds table column cell
      (do
        type.relationships.forM fun relationship => unlinkOwner schema relationship cell
        schema.types.forM fun owner =>
          (owner.relationships.filter fun relationship => relationship.target = type.name).forM
            fun relationship => unlinkTarget owner relationship cell)
      (Refers schema table column type) := by
  apply unlinks_weaken refers_freed
  apply unlinks_bind
  · exact unlinks_forM fun relationship own => unlinkOwner_unlinks invariant known own
  · apply unlinks_forM
    intro owner listed
    apply unlinks_forM
    intro relationship member
    exact unlinkTarget_unlinks invariant listed (List.mem_filter.mp member).1

theorem unlinks_ready {type : EntityType} (known : type ∈ schema.types) (cell : Cell) :
    Establishes (fun connection => Ready schema sound holds (fun _ _ => False) connection.database)
      (do
        type.relationships.forM fun relationship => unlinkOwner schema relationship cell
        schema.types.forM fun owner =>
          (owner.relationships.filter fun relationship => relationship.target = type.name).forM
            fun relationship => unlinkTarget owner relationship cell)
      fun _ connection => Ready schema sound holds (fun _ _ => False) connection.database ∧
        ∀ table column, Refers schema table column type →
          Freed table column cell connection.database := by
  refine ⟨fun {connection after value} ready run => ?_⟩
  have each (table column : String) :=
    ((unlinks_resource invariant known).step False).sound
      (⟨ready, False.elim⟩ : Unlinked schema sound holds table column cell False
        connection.database) run
  exact ⟨(each "" "").ready, fun table column refers => (each table column).free (.inr refers)⟩

omit invariant in
theorem delete_ready (invariant : Invariant schema sound holds) {type : EntityType}
    (known : type ∈ schema.types) (id : String) :
    Maintains (Ready schema sound holds fun _ _ => False) (Mapping.delete schema type id) := by
  unfold Mapping.delete
  split
  · exact maintains_of_keeps (keeps_pure _)
  · rename_i cell read
    obtain ⟨given, spelled, rfl⟩ := Option.map_eq_some_iff.mp read
    rw [← bind_assoc]
    refine establishes_bind (unlinks_ready invariant.links known (cellOf given)) fun _ => ?_
    refine establishes_bind ⟨fun {connection after count} start run => ?_⟩ fun _ =>
      maintains_of_keeps (keeps_pure _)
    obtain ⟨ready, free⟩ := start
    have wide := ready.laid.wide
    obtain ⟨changed, _⟩ := deleteWhere_run wide (idColumn_tests wide type (cellOf given)) run
    exact ready.changes invariant
      (.remove known (FieldType.read_stored spelled).1 free changed)
      (delete_refills (execute_delete_ok run))

theorem delete_leaves {type : EntityType} (known : type ∈ schema.types) {id : String} {cell : Cell}
    (read : idCell? type id = some cell) :
    Yields (Ready schema sound holds fun _ _ => False) (Mapping.delete schema type id)
      fun after => ∃ unlinked : Database, Laid schema unlinked ∧ holds unlinked ∧
        Rewrites unlinked after (tableName type) ((unlinked.records (tableName type)).filter
          fun record => !(record (idName type)).agrees cell) := by
  unfold Mapping.delete
  rw [read]
  dsimp only
  rw [← bind_assoc]
  refine establishes_bind (unlinks_ready invariant known cell) fun _ => ?_
  refine establishes_bind ⟨fun {connection after count} start run => ?_⟩ fun _ =>
    establishes_pure fun _ left => left
  have wide := start.1.laid.wide
  obtain ⟨changed, _⟩ := deleteWhere_run wide (idColumn_tests wide type cell) run
  exact ⟨connection.database, start.1.laid, start.1.held, changed⟩

/-- A resource that is deleted is not stored any more. -/
theorem delete_removes {type : EntityType} (known : type ∈ schema.types) {id : String} {cell : Cell}
    (read : idCell? type id = some cell) :
    Yields (Ready schema sound holds fun _ _ => False) (Mapping.delete schema type id)
      (Freed (tableName type) (idName type) cell) := by
  refine establishes_weaken (delete_leaves invariant known read) (fun _ ready => ready) ?_
  rintro _ _ ⟨unlinked, _, _, changed⟩ record member
  rw [records_same changed] at member
  simpa using (List.mem_filter.mp member).2

end

end ResourceServer
