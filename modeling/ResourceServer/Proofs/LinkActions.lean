import ResourceServer.Proofs.LinkChanges

/-! The three changes of links succeed, and do the same to the set of links wherever it is kept. -/

namespace ResourceServer

open ResourceServer.Store ResourceServer.Mapping

theorem idCells_names {type : EntityType} {ids : List String} {cells : List Cell}
    (named : List.Forall₂ type.Names ids cells) : idCells type ids = cells := by
  unfold idCells
  induction named with
  | nil => rfl
  | cons one _ ih => rw [List.filterMap_cons_some one.spelled, ih]

theorem kinds_of_names {type : EntityType} {ids : List String} {cells : List Cell}
    (named : List.Forall₂ type.Names ids cells) : ∀ cell ∈ cells, cell.type? = some (keyType type) := by
  intro cell member
  obtain ⟨id, _, one⟩ := mem_of_forall₂ named.flip member
  exact one.kind

theorem Changed.same {schema : Schema} {type target : EntityType} {storage : Storage}
    {database : Database} {links : Cell → Cell → Prop} (housed : Housed schema database)
    (keys : KeysTyped database type target storage)
    (same : ∀ owner other, Holds database type target storage owner other ↔ links owner other) :
    Changed schema type target storage database database links :=
  ⟨.refl housed, keys, fun owner other _ _ => same owner other⟩

theorem Changed.trans {schema : Schema} {type target : EntityType} {storage : Storage}
    {before middle after : Database} {first second last : Cell → Cell → Prop}
    (one : Changed schema type target storage before middle first)
    (other : Changed schema type target storage middle after second)
    (same : ∀ owner target, owner ≠ .null → target ≠ .null → (second owner target ↔ last owner target)) :
    Changed schema type target storage before after last :=
  ⟨one.refilled.trans other.refilled, other.keys, fun owner target given given' =>
    (other.holds owner target given given').trans (same owner target given given')⟩

section

variable {schema : Schema} {connection : Connection} {type target : EntityType}
  {relationship : Relationship}

theorem idCell_names {id : String} {cell : Cell} (named : type.Names id cell) :
    idCell type id = .ok cell := by
  unfold idCell
  rw [named.spelled]

/-- A relationship as its owner, and what is known of its storage before a change. -/
structure Linkable (schema : Schema) (database : Database) (type : EntityType)
    (relationship : Relationship) (target : EntityType) : Prop where
  separate : schema.Separate
  stocked : Stocked schema database
  relates : schema.Relates type relationship target
  keys : KeysTyped database type target relationship.storage

theorem Linkable.changed {before after : Database} {links : Cell → Cell → Prop}
    (linkable : Linkable schema before type relationship target)
    (changed : Changed schema type target relationship.storage before after links) :
    Linkable schema after type relationship target where
  separate := linkable.separate
  stocked := linkable.stocked.refilled changed.refilled fun _ known =>
    place_free linkable.separate linkable.relates known
  relates := linkable.relates
  keys := changed.keys

theorem Refilled.present {before after : Database} {place : Place} {holder : EntityType} {cell : Cell}
    (refilled : Refilled schema place before after)
    (free : place ≠ .pairs (tableName holder) ∧
      ∀ field ∈ holder.fields, place ≠ .column (tableName holder) (columnName field.name))
    (present : ∃ record ∈ before.records (tableName holder), record (idName holder) = cell) :
    ∃ record ∈ after.records (tableName holder), record (idName holder) = cell := by
  obtain ⟨record, inside, rfl⟩ := present
  obtain ⟨record', member, same⟩ := mem_of_forall₂ (refilled.fields free) inside
  exact ⟨record', member, same holder.identity List.mem_cons_self⟩

theorem replace_targetKey (linkable : Linkable schema connection.database type relationship target)
    {column : String} (storage : relationship.storage = .targetKey column) {cell : Cell}
    (kind : cell.type? = some (keyType type)) (given : cell ≠ .null) {value : Option Cell}
    (kinds : ∀ id ∈ value, id.type? = some (keyType target))
    (presents : ∀ id ∈ value, ∃ record ∈ connection.database.records (tableName target),
      record (idName target) = id) :
    ∃ after, execute (do
        clearKey (tableName target) column cell
        match value with
        | some id =>
          setColumn (tableName target) column cell
            (hasValue (idColumn target (tableName target)) id)
        | none => return ()) connection = (.ok (), after) ∧
      Changed schema type target (.targetKey column) connection.database after.database
        ((LinkChange.set value).links True cell
          (Holds connection.database type target (.targetKey column))) := by
  have ⟨separate, stocked, relates, keys⟩ := linkable
  rw [storage] at keys
  obtain ⟨middle, cleared, changed⟩ := clear_targetKey stocked separate relates storage keys kind
  rw [execute_bind, cleared]
  dsimp only
  cases value with
  | none =>
      refine ⟨middle, rfl, changed.trans (.same changed.refilled.housed changed.keys
        fun _ _ => Iff.rfl) fun o t given given' => ?_⟩
      rw [changed.holds o t given given']
      simp [LinkChange.links]
  | some value =>
      have linkable' := linkable.changed (storage ▸ changed)
      have free := place_free separate relates relates.known'
      rw [storage] at free
      have found : ∀ id ∈ [value], ∃ record ∈ middle.database.records (tableName target),
          record (idName target) = id := fun id member =>
        changed.refilled.present free
          (presents id (Option.mem_some_iff.mpr (List.mem_singleton.mp member).symm))
      obtain ⟨after, done, changed'⟩ := set_targetKey linkable'.stocked separate relates storage
        changed.keys kind found (linkable'.stocked.identity_decides separate relates.known' value)
        fun record inside => by
          rw [agrees_iff_eq (separate.exact target relates.known')
            (linkable'.stocked.identity_takes relates.known' record inside) (kinds value rfl),
            List.mem_singleton]
      refine ⟨after, done, changed.trans changed' fun o t given' given'' => ?_⟩
      simp only [LinkChange.links]
      rw [changed.holds o t given' given'', changed.holds cell t given given'',
        List.mem_singleton, Option.mem_some_iff, eq_comm (a := value)]
      tauto

theorem replace_pairs (linkable : Linkable schema connection.database type relationship target)
    {pairs ownerColumn targetColumn : String}
    (storage : relationship.storage = .joinTable pairs ownerColumn targetColumn) {cell : Cell}
    (kind : cell.type? = some (keyType type)) (given : cell ≠ .null) {value : Option Cell}
    (kinds : ∀ id ∈ value, id.type? = some (keyType target)) :
    ∃ after, execute (do
        deletePairs pairs ownerColumn cell
        match value with
        | some id => insertPairs pairs ownerColumn targetColumn [(cell, id)]
        | none => return ()) connection = (.ok (), after) ∧
      Changed schema type target (.joinTable pairs ownerColumn targetColumn) connection.database
        after.database ((LinkChange.set value).links False cell
          (Holds connection.database type target (.joinTable pairs ownerColumn targetColumn))) := by
  have ⟨separate, stocked, relates, keys⟩ := linkable
  rw [storage] at keys
  obtain ⟨table, _, found, _, owners, _⟩ := stocked.housed.pairs separate.formed separate.tables
    separate.shared relates.known relates.own storage
  have owned : ∀ table, connection.database.table? pairs = some table → table.Has ownerColumn := by
    intro table' found'
    cases found.symm.trans found'
    exact owners
  obtain ⟨count, middle, dropped, changed⟩ := drop_pairs stocked separate relates storage keys
    (fun owner _ => owner = cell) (hasValue_decides stocked.housed.wide owned cell)
    fun pair inside =>
      agrees_iff_eq (separate.exact type relates.known) (keys pair inside).1 kind
  have cleared : execute (deletePairs pairs ownerColumn cell) connection = (.ok (), middle) := by
    unfold deletePairs
    rw [execute_bind, dropped]
    rfl
  rw [execute_bind, cleared]
  dsimp only
  cases value with
  | none =>
      refine ⟨middle, rfl, changed.trans (.same changed.refilled.housed changed.keys
        fun _ _ => Iff.rfl) fun o t given given' => ?_⟩
      rw [changed.holds o t given given']
      simp [LinkChange.links, and_comm]
  | some value =>
      have linkable' := linkable.changed (storage ▸ changed)
      have valued : value ≠ .null := by
        rintro rfl
        cases kinds _ rfl
      have fresh : ∀ id ∈ [value], ¬Holds middle.database type target
          (.joinTable pairs ownerColumn targetColumn) cell id := by
        intro id member held
        rw [List.mem_singleton.mp member] at held
        exact ((changed.holds cell value given valued).mp held).2 rfl
      obtain ⟨after, done, changed'⟩ := add_pairs linkable'.stocked separate relates storage
        changed.keys kind (fun id member =>
          kinds id (Option.mem_some_iff.mpr (List.mem_singleton.mp member).symm))
        (List.nodup_singleton value) fresh
      refine ⟨after, done, changed.trans changed' fun o t given' given'' => ?_⟩
      rw [changed.holds o t given' given'']
      simp only [LinkChange.links, List.mem_singleton, Option.mem_some_iff, eq_comm (a := value)]
      tauto

theorem setToOne_done (linkable : Linkable schema connection.database type relationship target)
    (toOne : relationship.isToMany = false) {owner : String} {cell : Cell}
    (named : type.Names owner cell)
    (present : ∃ record ∈ connection.database.records (tableName type), record (idName type) = cell)
    {chosen : Option String} {value : Option Cell} (names : Option.Rel target.Names chosen value)
    (presents : ∀ id ∈ value, ∃ record ∈ connection.database.records (tableName target),
      record (idName target) = id) :
    ∃ after, execute (setToOne schema type relationship owner chosen) connection = (.ok (), after) ∧
      Changed schema type target relationship.storage connection.database after.database
        ((LinkChange.set value).links relationship.storage.Single cell
          (Holds connection.database type target relationship.storage)) := by
  have ⟨separate, stocked, relates, keys⟩ := linkable
  have chosenCells : chosen.mapM (idCell target) = .ok value := by
    cases names with
    | none => rfl
    | some one =>
        rw [Option.mapM_some, idCell_names one]
        rfl
  have kinds : ∀ id ∈ value, id.type? = some (keyType target) := by
    intro id member
    cases names with
    | none => cases member
    | some one =>
        cases member
        exact one.kind
  unfold setToOne
  rw [if_neg (by simp [toOne]), execute_bind, execute_ofExcept, relates.found separate.formed]
  dsimp only
  rw [execute_bind, execute_ofExcept, idCell_names named]
  dsimp only
  rw [execute_bind, execute_ofExcept, chosenCells]
  dsimp only
  cases storage : relationship.storage with
  | ownerKey column =>
      rw [storage] at keys
      exact set_ownerKey stocked separate relates storage keys named.kind present kinds
  | targetKey column =>
      exact replace_targetKey linkable storage named.kind named.given kinds presents
  | joinTable pairs ownerColumn targetColumn =>
      exact replace_pairs linkable storage named.kind named.given kinds

theorem mem_pairedTargets (exact : type.identity.type.Exact) {database : Database}
    {pairs ownerColumn targetColumn : String}
    (keys : KeysTyped database type target (.joinTable pairs ownerColumn targetColumn)) {cell id : Cell}
    (kind : cell.type? = some (keyType type)) :
    id ∈ pairedTargets database pairs ownerColumn targetColumn cell ↔
      Holds database type target (.joinTable pairs ownerColumn targetColumn) cell id := by
  unfold pairedTargets Holds
  simp only [List.mem_map, List.mem_filter, and_assoc]
  refine exists_congr fun pair => and_congr_right fun inside => and_congr_left fun _ => ?_
  exact agrees_iff_eq exact (keys pair inside).1 kind

theorem add_fresh {links : Cell → Cell → Prop} {cell : Cell} {cells new : List Cell}
    (fresh : ∀ id, id ∈ new ↔ id ∈ cells ∧ ¬links cell id) (owner other : Cell) :
    links owner other ∨ owner = cell ∧ other ∈ new ↔
      (LinkChange.add cells).links False cell links owner other := by
  have new_iff := fresh other
  simp only [LinkChange.links]
  by_cases owned : owner = cell
  · subst owned
    tauto
  · tauto

theorem append_pairs (linkable : Linkable schema connection.database type relationship target)
    {pairs ownerColumn targetColumn : String}
    (storage : relationship.storage = .joinTable pairs ownerColumn targetColumn) {cell : Cell}
    (kind : cell.type? = some (keyType type)) {cells : List Cell}
    (kinds : ∀ id ∈ cells, id.type? = some (keyType target)) :
    ∃ after, execute (do
        let rows ← selectAll
          { columns := [.column (.ofTable pairs targetColumn)]
            table := pairs
            filters := [hasValue (.ofTable pairs ownerColumn) cell] }
        let linked := rows.flatten.map Cell.literal
        let fresh := freshCells linked cells
        if fresh.isEmpty then return ()
        insertPairs pairs ownerColumn targetColumn (fresh.map fun id => (cell, id))) connection =
          (.ok (), after) ∧
      Changed schema type target (.joinTable pairs ownerColumn targetColumn) connection.database
        after.database ((LinkChange.add cells).links False cell
          (Holds connection.database type target (.joinTable pairs ownerColumn targetColumn))) := by
  have ⟨separate, stocked, relates, keys⟩ := linkable
  rw [storage] at keys
  obtain ⟨table, _, found, _, owners, targets, _⟩ := stocked.housed.pairs separate.formed
    separate.tables separate.shared relates.known relates.own storage
  obtain ⟨reached, selected, unchanged⟩ :=
    selectPairs_done stocked.housed.wide found owners targets cell
  rw [execute_bind, selected]
  dsimp only
  have typed : ∀ id ∈ pairedTargets connection.database pairs ownerColumn targetColumn cell,
      (keyType target).takes id := by
    intro id member
    obtain ⟨pair, kept, rfl⟩ := List.mem_map.mp member
    exact (keys pair (List.mem_filter.mp kept).1).2
  obtain ⟨distinct, fresh⟩ := freshCells_spec (separate.exact target relates.known') typed kinds
  rw [← List.flatMap_def, List.flatMap_singleton']
  generalize freshCells _ cells = new at distinct fresh ⊢
  have unheld : ∀ id, id ∈ new ↔ id ∈ cells ∧ ¬Holds connection.database type target
      (.joinTable pairs ownerColumn targetColumn) cell id := fun id =>
    (fresh id).trans (and_congr_right fun _ =>
      not_congr (mem_pairedTargets (separate.exact type relates.known) keys kind))
  by_cases nothing : new.isEmpty = true
  · rw [if_pos nothing]
    refine ⟨reached, rfl, ?_⟩
    rw [unchanged]
    refine .same stocked.housed keys fun o t => Iff.trans ?_ (add_fresh unheld o t)
    simp [List.isEmpty_iff.mp nothing]
  · rw [if_neg nothing]
    rw [← unchanged] at stocked keys unheld
    obtain ⟨after, done, changed⟩ := add_pairs stocked separate relates storage keys kind
      (fun id member => kinds id ((unheld id).mp member).1) distinct
      fun id member => ((unheld id).mp member).2
    refine ⟨after, done, ?_⟩
    rw [unchanged] at changed unheld
    exact ⟨changed.refilled, changed.keys, fun o t given given' =>
      (changed.holds o t given given').trans (add_fresh unheld o t)⟩

theorem addToMany_done (linkable : Linkable schema connection.database type relationship target)
    (keyed : ∀ column, relationship.storage ≠ .ownerKey column) {owner : String} {cell : Cell}
    (named : type.Names owner cell) {ids : List String} {cells : List Cell}
    (names : List.Forall₂ target.Names ids cells)
    (presents : ∀ id ∈ cells, ∃ record ∈ connection.database.records (tableName target),
      record (idName target) = id) :
    ∃ after, execute (addToMany schema type relationship owner ids) connection = (.ok (), after) ∧
      Changed schema type target relationship.storage connection.database after.database
        ((LinkChange.add cells).links relationship.storage.Single cell
          (Holds connection.database type target relationship.storage)) := by
  have ⟨separate, stocked, relates, keys⟩ := linkable
  have kinds := kinds_of_names names
  unfold addToMany
  rw [execute_bind, execute_ofExcept, relates.found separate.formed]
  dsimp only
  rw [execute_bind, execute_ofExcept, idCell_names named]
  dsimp only
  rw [idCells_names names]
  by_cases none_given : cells.isEmpty = true
  · rw [if_pos none_given]
    refine ⟨connection, rfl, .same stocked.housed keys fun o t => ?_⟩
    rw [List.isEmpty_iff.mp none_given]
    simp only [LinkChange.links, List.not_mem_nil, and_false, not_false_iff, and_true, or_false]
    by_cases owned : o = cell
    · simp [owned]
    · simp [owned]
  · rw [if_neg none_given]
    cases storage : relationship.storage with
    | ownerKey column => exact absurd storage (keyed column)
    | targetKey column =>
        rw [storage] at keys
        have tested := stocked.identities_decides separate relates.known' cells
        exact set_targetKey stocked separate relates storage keys named.kind presents tested
          fun record inside => any_agrees_iff (separate.exact target relates.known')
            (stocked.identity_takes relates.known' record inside) kinds
    | joinTable pairs ownerColumn targetColumn =>
        exact append_pairs linkable storage named.kind kinds

theorem removeFromMany_done
    (linkable : Linkable schema connection.database type relationship target)
    (keyed : ∀ column, relationship.storage ≠ .ownerKey column) {owner : String} {cell : Cell}
    (named : type.Names owner cell) {ids : List String} {cells : List Cell}
    (names : List.Forall₂ target.Names ids cells) :
    ∃ after, execute (removeFromMany schema type relationship owner ids) connection =
        (.ok (), after) ∧
      Changed schema type target relationship.storage connection.database after.database
        ((LinkChange.remove cells).links relationship.storage.Single cell
          (Holds connection.database type target relationship.storage)) := by
  have ⟨separate, stocked, relates, keys⟩ := linkable
  have kinds := kinds_of_names names
  unfold removeFromMany
  rw [execute_bind, execute_ofExcept, relates.found separate.formed]
  dsimp only
  rw [execute_bind, execute_ofExcept, idCell_names named]
  dsimp only
  rw [idCells_names names]
  by_cases none_given : cells.isEmpty = true
  · rw [if_pos none_given]
    refine ⟨connection, rfl, .same stocked.housed keys fun o t => ?_⟩
    rw [List.isEmpty_iff.mp none_given]
    simp [LinkChange.links]
  · rw [if_neg none_given]
    cases storage : relationship.storage with
    | ownerKey column => exact absurd storage (keyed column)
    | targetKey column =>
        rw [storage] at keys
        exact unset_targetKey stocked separate relates storage keys named.kind kinds
    | joinTable pairs ownerColumn targetColumn =>
        rw [storage] at keys
        obtain ⟨table, _, found, wide, owners, targets, _⟩ := stocked.housed.pairs separate.formed
          separate.tables separate.shared relates.known relates.own storage
        have has {column : String} (holds : table.Has column) :
            ∀ table, connection.database.table? pairs = some table → table.Has column := by
          intro table' found'
          cases found.symm.trans found'
          exact holds
        have tested := both_decides
          (hasValue_decides stocked.housed.wide (has owners) cell)
          (oneOf_decides stocked.housed.wide (has targets) cells)
        obtain ⟨count, after, dropped, changed⟩ := drop_pairs stocked separate relates storage keys
          (fun owner other => owner = cell ∧ other ∈ cells) tested fun pair inside => by
            rw [Bool.and_eq_true, agrees_iff_eq (separate.exact type relates.known)
              (keys pair inside).1 named.kind, any_agrees_iff (separate.exact target relates.known')
              (keys pair inside).2 kinds]
        refine ⟨after, ?_, changed⟩
        dsimp only
        rw [execute_bind, dropped]
        rfl

end

end ResourceServer
