import ResourceServer.Proofs.FieldRows
import ResourceServer.Proofs.LinkChanges
import ResourceServer.Proofs.StorageIndependence

/-! What is left when a resource is deleted: all other resources, and the links that are not its own. -/

namespace ResourceServer

open ResourceServer.Store ResourceServer.Mapping

/-- No two stored resources of a type are found by one identity. -/
def IdentifiesOnce (schema : Schema) (database : Database) : Prop :=
  ∀ type ∈ schema.types, ∀ id cell, idCell? type id = some cell →
    ((database.records (tableName type)).countP fun record => (record (idName type)).agrees cell) ≤ 1

/-- A link between two identities is one of the resource of a type that a value identifies. -/
def Touches (removed : EntityType) (cell : Cell) (type target : EntityType) (owner other : Cell) : Prop :=
  type = removed ∧ owner.agrees cell ∨ target = removed ∧ other.agrees cell

instance (removed : EntityType) (cell : Cell) (type target : EntityType) (owner other : Cell) :
    Decidable (Touches removed cell type target owner other) :=
  inferInstanceAs (Decidable (_ ∨ _))

theorem Stocked.identifiesOnce {schema : Schema} {database : Database} (stocked : Stocked schema database)
    (separate : schema.Separate) : IdentifiesOnce schema database := by
  intro type known id cell read
  have single := List.nodup_iff_count_le_one.mp (stocked.distinct type known) cell
  rw [List.count, List.countP_map] at single
  refine (List.countP_mono_left fun record member agrees => ?_).trans single
  have kind := takes_exact (separate.exact type known) (.inr (idCell_kind read))
  exact beq_iff_eq.mpr ((Cell.agrees_exact (identity_exact stocked separate known member) kind).mp agrees).1

def unlinking (schema : Schema) (type : EntityType) (cell : Cell) : MappingAction Unit := do
  type.relationships.forM fun relationship => unlinkOwner schema relationship cell
  schema.types.forM fun owner =>
    (owner.relationships.filter fun relationship => relationship.target = type.name).forM
      fun relationship => unlinkTarget owner relationship cell

section

variable {schema : Schema} {type : EntityType} {cell : Cell}

theorem unlinking_keeps {holds : Connection → Prop} (formed : schema.Formed) (known : type ∈ schema.types)
    (clears : ∀ holder ∈ schema.types, ∀ column, Refers schema (tableName holder) column type →
      Establishes holds (clearKey (tableName holder) column cell) fun _ => holds)
    (drops : ∀ pairs column, Pairs schema pairs → Refers schema pairs column type →
      Establishes holds (deletePairs pairs column cell) fun _ => holds) :
    Establishes holds (unlinking schema type cell) fun _ => holds := by
  refine establishes_bind (establishes_forM fun relationship own => ?_) fun _ =>
    establishes_forM fun owner listed => establishes_forM fun relationship member => ?_
  · obtain ⟨target, known', leads, found, _⟩ := formed.target known own
    unfold unlinkOwner
    cases storage : relationship.storage with
    | ownerKey column => exact establishes_pure fun _ start => start
    | targetKey column =>
        dsimp only
        rw [found]
        exact establishes_given fun _ same => by
          cases same
          exact clears target known' column (.targetKey known own storage leads)
    | joinTable pairs ownerColumn targetColumn =>
        exact drops pairs ownerColumn ⟨type, known, relationship, own, _, _, storage⟩
          (.ownerPair known own storage)
  · obtain ⟨own, aims⟩ := List.mem_filter.mp member
    have leads : schema.type? relationship.target = some type := by
      rw [of_decide_eq_true aims]
      exact find_unique EntityType.name formed.names known
    unfold unlinkTarget
    cases storage : relationship.storage with
    | ownerKey column => exact clears owner listed column (.ownerKey listed own storage leads)
    | targetKey column => exact establishes_pure fun _ start => start
    | joinTable pairs ownerColumn targetColumn =>
        exact drops pairs targetColumn ⟨owner, listed, relationship, own, _, _, storage⟩
          (.targetPair listed own storage leads)

/-! The columns of pairs. -/

theorem recordOf_absent {columns : List ColumnDefinition} {column : String} (row : Row)
    (absent : ∀ definition ∈ columns, definition.name ≠ column) : recordOf columns row column = .null := by
  induction columns generalizing row with
  | nil => rfl
  | cons first rest ih =>
      obtain ⟨apart, absent⟩ := List.forall_mem_cons.mp absent
      cases row with
      | nil => rfl
      | cons cell cells => rw [recordOf_rest apart, ih cells absent]

theorem Housed.two_columns {database : Database} (housed : Housed schema database) (formed : schema.Formed)
    (tables : schema.TablesDistinct) {pairs : String} (used : Pairs schema pairs) :
    ∃ first second, ∀ pair ∈ database.records pairs, ∀ column, pair column ≠ .null →
      column = first ∨ column = second := by
  obtain ⟨plan, planned⟩ := housed.tables
  obtain ⟨owner, known, relationship, own, ownerColumn, targetColumn, storage⟩ := used
  obtain ⟨target, _, _, leads, _⟩ := formed.target known own
  obtain ⟨create, listed⟩ := plan.pairs_planned known own storage leads
  obtain ⟨table, found, _, same, _⟩ := planned _ create listed
  obtain ⟨_, type', _, relationship', _, created⟩ := plan.find_pairs tables
    ⟨owner, known, relationship, own, ownerColumn, targetColumn, storage⟩ listed
  obtain ⟨first, second, _, _, _, columns⟩ := pairTable_ok created
  refine ⟨first, second, fun pair member column held => ?_⟩
  rw [records_of_table found] at member
  obtain ⟨row, _, rfl⟩ := List.mem_map.mp member
  by_contra neither
  obtain ⟨apart, apart'⟩ := not_or.mp neither
  refine held (recordOf_absent row ?_)
  rw [same, columns]
  intro definition member
  rcases List.mem_cons.mp member with rfl | member
  · exact Ne.symm apart
  · rw [List.mem_singleton.mp member]
    exact Ne.symm apart'

theorem Housed.pair_columns {database : Database} (housed : Housed schema database) (formed : schema.Formed)
    (tables : schema.TablesDistinct) {pairs first second : String} (used : Pairs schema pairs)
    (distinct : first ≠ second) {pair : Record} (member : pair ∈ database.records pairs)
    (held : pair first ≠ .null) (held' : pair second ≠ .null) {column : String}
    (other : pair column ≠ .null) : column = first ∨ column = second := by
  obtain ⟨one, two, only⟩ := housed.two_columns formed tables used
  have here := only pair member first held
  have there := only pair member second held'
  have anywhere := only pair member column other
  grind

/-! What unlinking takes away. -/

def Swept (schema : Schema) (type : EntityType) (cell : Cell) (table : String) (record swept : Record) : Prop :=
  ∀ column, swept column = record column ∨
    Refers schema table column type ∧ (record column).agrees cell ∧ swept column = .null

/-- The records of the types' tables are swept, and of the pairs some of those that refer to the resource are gone. -/
structure Purged (schema : Schema) (type : EntityType) (cell : Cell) (before after : Database) : Prop where
  laid : Laid schema after
  entities : ∀ holder ∈ schema.types, List.Forall₂ (Swept schema type cell (tableName holder))
    (before.records (tableName holder)) (after.records (tableName holder))
  pairs : ∀ pairs, Pairs schema pairs → ∃ keeps : Record → Bool,
    after.records pairs = (before.records pairs).filter keeps ∧
      ∀ record, keeps record = false →
        ∃ column, Refers schema pairs column type ∧ (record column).agrees cell

theorem Purged.refl {database : Database} (laid : Laid schema database) :
    Purged schema type cell database database where
  laid := laid
  entities _ _ := List.forall₂_same.mpr fun _ _ _ => .inl rfl
  pairs _ _ := ⟨fun _ => true, (List.filter_eq_self.mpr fun _ _ => rfl).symm, fun _ gone => nomatch gone⟩

theorem Swept.clear {table column : String} {record swept : Record}
    (done : Swept schema type cell table record swept) (refers : Refers schema table column type) :
    Swept schema type cell table record
      (if (swept column).agrees cell then swept.set column .null else swept) := by
  split
  · rename_i agree
    intro other
    by_cases same : other = column
    · subst same
      rw [Record.set_same]
      rcases done other with here | ⟨_, _, empty⟩
      · exact .inr ⟨refers, here ▸ agree, rfl⟩
      · rw [empty] at agree
        exact absurd agree Bool.false_ne_true
    · rw [Record.set_other _ same]
      exact done other
  · exact done

theorem Purged.clear {before mid after : Database} (purged : Purged schema type cell before mid)
    (tables : schema.TablesDistinct) {holder : EntityType} {column : String} (known : holder ∈ schema.types)
    (refers : Refers schema (tableName holder) column type)
    (changed : Rewrites mid after (tableName holder) ((mid.records (tableName holder)).map fun record =>
      if (record column).agrees cell then record.set column .null else record)) :
    Purged schema type cell before after where
  laid := purged.laid.rewrites changed
  entities other known' := by
    have swept := purged.entities other known'
    by_cases same : other = holder
    · subst same
      rw [records_same changed]
      exact List.forall₂_map_right_iff.mpr (swept.imp fun _ _ one => one.clear refers)
    · rwa [records_other changed fun named => same (same_type tables known' known named)]
  pairs pairs used := by
    rw [records_other changed (tables.apart holder known pairs used).symm]
    exact purged.pairs pairs used

theorem Purged.drop {before mid after : Database} (purged : Purged schema type cell before mid)
    (tables : schema.TablesDistinct) {pairs column : String} (used : Pairs schema pairs)
    (refers : Refers schema pairs column type)
    (changed : Rewrites mid after pairs ((mid.records pairs).filter fun record =>
      !(record column).agrees cell)) :
    Purged schema type cell before after where
  laid := purged.laid.rewrites changed
  entities holder known := by
    rw [records_other changed (tables.apart holder known pairs used)]
    exact purged.entities holder known
  pairs other used' := by
    obtain ⟨keeps, kept, gone⟩ := purged.pairs other used'
    by_cases same : other = pairs
    · subst same
      refine ⟨fun record => !(record column).agrees cell && keeps record, ?_, fun record dropped => ?_⟩
      · rw [records_same changed, kept, List.filter_filter]
      · rcases Bool.and_eq_false_iff.mp dropped with agree | dropped
        · exact ⟨column, refers, by simpa using agree⟩
        · exact gone record dropped
    · rw [records_other changed same]
      exact ⟨keeps, kept, gone⟩

theorem unlinking_purges (formed : schema.Formed) (tables : schema.TablesDistinct)
    (known : type ∈ schema.types) (before : Database) :
    Establishes (fun connection : Connection => Purged schema type cell before connection.database)
      (unlinking schema type cell)
      fun _ connection => Purged schema type cell before connection.database :=
  unlinking_keeps formed known
    (fun _ known' _ refers => ⟨fun purged run =>
      purged.clear tables known' refers (clearKey_run purged.laid.wide run)⟩)
    fun _ _ used refers => ⟨fun purged run =>
      purged.drop tables used refers (deletePairs_run purged.laid.wide run)⟩

/-! The links that are left. -/

section

variable {before unlinked after : Database} (purged : Purged schema type cell before unlinked)
  (free : ∀ table column, Refers schema table column type → Freed table column cell unlinked)
include purged free

theorem Purged.held_iff (keys : schema.KeysApart) (agree : schema.KeysAgree) {holder target : EntityType}
    {column : String} (known : holder ∈ schema.types) (refers : Refers schema (tableName holder) column target)
    (one : Cell) {other : Cell} (given : other ≠ .null) :
    HeldIn (unlinked.records (tableName holder)) (idName holder) column one other ↔
      HeldIn (before.records (tableName holder)) (idName holder) column one other ∧
        ¬(target = type ∧ other.agrees cell) := by
  have swept := purged.entities holder known
  have identity {record left : Record} (one : Swept schema type cell (tableName holder) record left) :
      left (idName holder) = record (idName holder) :=
    (one (idName holder)).resolve_right fun ⟨refers, _⟩ =>
      keys _ _ type refers holder known rfl holder.identity List.mem_cons_self rfl
  constructor
  · rintro ⟨left, member, rfl, rfl⟩
    obtain ⟨record, inside, one⟩ := mem_of_forall₂ swept.flip member
    have same : left column = record column := (one column).resolve_right fun ⟨_, _, empty⟩ => given empty
    refine ⟨⟨record, inside, (identity one).symm, same.symm⟩, ?_⟩
    rintro ⟨rfl, agrees⟩
    exact Bool.eq_false_iff.mp (free _ _ refers left member) agrees
  · rintro ⟨⟨record, inside, rfl, rfl⟩, apart⟩
    obtain ⟨left, member, one⟩ := mem_of_forall₂ swept inside
    refine ⟨left, member, identity one, (one column).resolve_right ?_⟩
    rintro ⟨refers', agrees, _⟩
    exact apart ⟨agree _ _ _ _ refers refers', agrees⟩

theorem Purged.pairs_iff (agree : schema.KeysAgree) {pairs ownerColumn targetColumn : String}
    {owner target : EntityType} (used : Pairs schema pairs) (owns : Refers schema pairs ownerColumn owner)
    (targets : Refers schema pairs targetColumn target) (one other : Cell)
    (only : ∀ pair ∈ before.records pairs, pair ownerColumn = one → pair targetColumn = other →
      ∀ column, pair column ≠ .null → column = ownerColumn ∨ column = targetColumn) :
    HeldIn (unlinked.records pairs) ownerColumn targetColumn one other ↔
      HeldIn (before.records pairs) ownerColumn targetColumn one other ∧
        ¬Touches type cell owner target one other := by
  obtain ⟨keeps, kept, gone⟩ := purged.pairs pairs used
  constructor
  · rintro ⟨pair, member, rfl, rfl⟩
    have inside := (List.mem_filter.mp (kept ▸ member)).1
    refine ⟨⟨pair, inside, rfl, rfl⟩, ?_⟩
    rintro (⟨rfl, agrees⟩ | ⟨rfl, agrees⟩)
    · exact Bool.eq_false_iff.mp (free _ _ owns pair member) agrees
    · exact Bool.eq_false_iff.mp (free _ _ targets pair member) agrees
  · rintro ⟨⟨pair, inside, rfl, rfl⟩, apart⟩
    refine ⟨pair, ?_, rfl, rfl⟩
    rw [kept]
    refine List.mem_filter.mpr ⟨inside, ?_⟩
    by_contra dropped
    obtain ⟨column, refers, agrees⟩ := gone pair (Bool.eq_false_iff.mpr dropped)
    have filled : pair column ≠ .null := fun empty =>
      Bool.false_ne_true ((congrArg (Cell.agrees · cell) empty).symm.trans agrees)
    rcases only pair inside rfl rfl column filled with rfl | rfl
    · exact apart (.inl ⟨agree _ _ _ _ owns refers, agrees⟩)
    · exact apart (.inr ⟨agree _ _ _ _ targets refers, agrees⟩)

end

theorem removed_held_iff {unlinked after : Database} (tables : schema.TablesDistinct)
    (known : type ∈ schema.types)
    (changed : Rewrites unlinked after (tableName type) ((unlinked.records (tableName type)).filter
      fun record => !(record (idName type)).agrees cell))
    {holder : EntityType} (known' : holder ∈ schema.types) {column : String} {one other : Cell} :
    HeldIn (after.records (tableName holder)) (idName holder) column one other ↔
      HeldIn (unlinked.records (tableName holder)) (idName holder) column one other ∧
        ¬(holder = type ∧ one.agrees cell) := by
  by_cases same : holder = type
  · subst same
    rw [records_same changed]
    constructor
    · rintro ⟨record, member, rfl, rfl⟩
      obtain ⟨inside, kept⟩ := List.mem_filter.mp member
      exact ⟨⟨record, inside, rfl, rfl⟩, fun both => by simp [both.2] at kept⟩
    · rintro ⟨⟨record, inside, rfl, rfl⟩, apart⟩
      refine ⟨record, List.mem_filter.mpr ⟨inside, ?_⟩, rfl, rfl⟩
      rw [Bool.eq_false_iff.mpr fun agrees => apart ⟨rfl, agrees⟩, Bool.not_false]
  · rw [records_other changed fun named => same (same_type tables known' known named)]
    exact ⟨fun held => ⟨held, fun both => same both.1⟩, fun both => both.1⟩

theorem Purged.links_iff {before unlinked after : Database} (housed : Housed schema before)
    (formed : schema.Formed) (tables : schema.TablesDistinct) (distinct : schema.PairsDistinct)
    (keys : schema.KeysApart) (agree : schema.KeysAgree) (known : type ∈ schema.types)
    (purged : Purged schema type cell before unlinked)
    (free : ∀ table column, Refers schema table column type → Freed table column cell unlinked)
    (changed : Rewrites unlinked after (tableName type) ((unlinked.records (tableName type)).filter
      fun record => !(record (idName type)).agrees cell))
    {holder target : EntityType} {relationship : Relationship}
    (relates : schema.Relates holder relationship target) {owner other : Cell} (given : owner ≠ .null)
    (given' : other ≠ .null) :
    Holds after holder target relationship.storage owner other ↔
      Holds before holder target relationship.storage owner other ∧
        ¬Touches type cell holder target owner other := by
  have ⟨known', own, leads⟩ := relates
  cases storage : relationship.storage with
  | ownerKey column =>
      have held := purged.held_iff free keys agree known' (.ownerKey known' own storage leads) owner given'
      refine (removed_held_iff tables known changed known').trans ((and_congr_left' held).trans ?_)
      rw [and_assoc, Touches, not_or, and_comm (a := ¬(target = type ∧ _))]
      rfl
  | targetKey column =>
      have held := purged.held_iff free keys agree relates.known' (.targetKey known' own storage leads) other given
      refine (removed_held_iff tables known changed relates.known').trans ((and_congr_left' held).trans ?_)
      rw [and_assoc, Touches, not_or]
      rfl
  | joinTable pairs ownerColumn targetColumn =>
      have used : Pairs schema pairs := ⟨holder, known', relationship, own, _, _, storage⟩
      have apart := distinct holder known' relationship own _ _ _ storage
      have kept := purged.pairs_iff free agree used (.ownerPair known' own storage)
        (.targetPair known' own storage leads) owner other
        fun pair member here there column filled => housed.pair_columns formed tables used apart member
          (here ▸ given) (there ▸ given') filled
      rw [← records_other changed (tables.apart type known pairs used).symm] at kept
      exact kept

/-! The deletion as a whole. -/

section

variable {connection after : Connection} {id : String} {found : Bool}

theorem delete_splits (read : idCell? type id = some cell)
    (run : execute (Mapping.delete schema type id) connection = (.ok found, after)) :
    ∃ unlinked count, execute (unlinking schema type cell) connection = (.ok (), unlinked) ∧
      execute (statement (Action.delete
        { table := tableName type, filters := [hasValue (idColumn type (tableName type)) cell] })) unlinked =
          (.ok count, after) ∧ found = decide (0 < count) := by
  unfold Mapping.delete at run
  rw [read] at run
  dsimp only at run
  rw [← bind_assoc] at run
  obtain ⟨⟨⟩, unlinked, first, run⟩ := execute_bind_ok run
  obtain ⟨count, reached, second, run⟩ := execute_bind_ok run
  cases run
  exact ⟨unlinked, count, first, second, rfl⟩

theorem unlinking_run (formed : schema.Formed) (tables : schema.TablesDistinct) (keys : schema.KeysApart)
    (known : type ∈ schema.types) (laid : Laid schema connection.database)
    (run : execute (unlinking schema type cell) connection = (.ok (), after)) :
    Purged schema type cell connection.database after.database ∧
      FieldsAlike schema connection.database after.database ∧
      ∀ table column, Refers schema table column type → Freed table column cell after.database := by
  have invariant : LinkInvariant schema False (FieldsAlike schema connection.database) :=
    fields_invariant formed tables keys fun alike held type known =>
      (alike type known).trans (held type known)
  have start : Ready schema False (FieldsAlike schema connection.database) (fun _ _ => False)
      connection.database := ⟨laid, fun _ _ => rfl, False.elim⟩
  obtain ⟨ready, free⟩ := (unlinks_ready invariant known cell).sound start run
  exact ⟨(unlinking_purges formed tables known connection.database).sound (.refl laid) run,
    ready.held, free⟩

theorem unlinking_idle (formed : schema.Formed) (known : type ∈ schema.types)
    (wide : connection.database.Wide)
    (free : ∀ table column, Refers schema table column type → Freed table column cell connection.database)
    (run : execute (unlinking schema type cell) connection = (.ok (), after)) :
    after.database.table? = connection.database.table? := by
  have wide_still {reached : Connection} (same : reached.database.table? = connection.database.table?) :
      reached.database.Wide := by
    unfold Database.Wide
    rwa [same]
  have free_still {reached : Connection} (same : reached.database.table? = connection.database.table?)
      {table column : String} (refers : Refers schema table column type) :
      ∀ record ∈ reached.database.records table, (record column).agrees cell = false := by
    unfold Database.records
    rw [same]
    exact free table column refers
  have kept : Establishes
      (fun reached : Connection => reached.database.table? = connection.database.table?)
      (unlinking schema type cell)
      fun _ reached => reached.database.table? = connection.database.table? := by
    refine unlinking_keeps formed known (fun holder _ column refers => ⟨fun {reached next value} same run => ?_⟩)
      fun pairs column _ refers => ⟨fun {reached next value} same run => ?_⟩
    · obtain ⟨count, _, one, last⟩ := execute_bind_ok run
      cases last
      exact (update_idle (hasValue_tests (wide_still same) _ column cell) (free_still same refers)
        (execute_update_ok one)).trans same
    · obtain ⟨count, _, one, last⟩ := execute_bind_ok run
      cases last
      exact (delete_idle (hasValue_tests (wide_still same) _ column cell) (free_still same refers)
        (execute_delete_ok one)).trans same
  exact kept.sound rfl run

end

theorem countP_fieldRows (database : Database) (type : EntityType) (cell : Cell) :
    ((fieldRows database type).countP fun row => (row.headD .null).agrees cell) =
      (database.records (tableName type)).countP fun record => (record (idName type)).agrees cell :=
  List.countP_map

theorem split_of_countP {α : Type} {items : List α} {test : α → Bool} (once : items.countP test = 1) :
    ∃ front item back, test item ∧ items = front ++ item :: back ∧
      items.filter (fun item => !test item) = front ++ back := by
  induction items with
  | nil => cases once
  | cons first rest ih =>
      cases passes : test first with
      | true =>
          rw [List.countP_cons_of_pos passes, Nat.add_eq_right, List.countP_eq_zero] at once
          refine ⟨[], first, rest, passes, rfl, ?_⟩
          rw [List.filter_cons_of_neg (by simp [passes]), List.nil_append]
          exact List.filter_eq_self.mpr fun item member => by simp [once item member]
      | false =>
          rw [List.countP_cons_of_neg (by simp [passes])] at once
          obtain ⟨front, item, back, holds, same, left⟩ := ih once
          refine ⟨first :: front, item, back, holds, by rw [same, List.cons_append], ?_⟩
          rw [List.filter_cons_of_pos (by simp [passes]), left, List.cons_append]

theorem foundRecords_freed {database : Database} (free : Freed (tableName type) (idName type) cell database) :
    foundRecords database type [cell] = [] := by
  unfold foundRecords
  rw [List.filter_eq_nil_iff.mpr]
  · rfl
  · intro record member passes
    rw [List.any_cons, List.any_nil, Bool.or_false, free record member] at passes
    exact Bool.false_ne_true passes

end

/-- Where no two resources of a type have one identity, the deletion of a resource takes away its fields and its links
alone: it is not found any more, all other resources are left and no links but those that touched it are gone. Where no
identity is linked that is not stored, the deletion of none leaves all tables as they are. -/
theorem deletion_removes_one_resource {types : List EntityType} {schema : Schema}
    (valid : Schema.ofTypes types = .ok schema) (tables : schema.TablesDistinct)
    (columns : schema.ColumnsDistinct) (pairs : schema.PairsDistinct) (keys : schema.KeysApart)
    (agree : schema.KeysAgree) {connection after : Connection} (housed : Housed schema connection.database)
    (once : IdentifiesOnce schema connection.database) {type : EntityType} (known : type ∈ schema.types)
    {id : String} {found : Bool}
    (run : execute (Mapping.delete schema type id) connection = (.ok found, after)) :
    (found = true → ∃ cell, idCell? type id = some cell ∧
      (execute (Mapping.get type [id]) after).1 = .ok [] ∧
      (∃ front row back, (row.headD .null).agrees cell ∧
        fieldRows connection.database type = front ++ row :: back ∧
        fieldRows after.database type = front ++ back) ∧
      (∀ other ∈ schema.types, other ≠ type →
        fieldRows after.database other = fieldRows connection.database other) ∧
      ∀ {holder target : EntityType} {relationship : Relationship},
        schema.Relates holder relationship target → ∀ owner other, owner ≠ .null → other ≠ .null →
          (Holds after.database holder target relationship.storage owner other ↔
            Holds connection.database holder target relationship.storage owner other ∧
              ¬Touches type cell holder target owner other)) ∧
      (found = false → NoneDangles schema connection.database →
        ∀ name, after.database.table? name = connection.database.table? name) := by
  have formed := ofTypes_formed valid
  have laid := housed.laid tables
  cases read : idCell? type id with
  | none =>
      unfold Mapping.delete at run
      rw [read] at run
      cases run
      exact ⟨nofun, fun _ _ _ => rfl⟩
  | some cell =>
      obtain ⟨unlinked, count, first, second, rfl⟩ := delete_splits read run
      obtain ⟨purged, alike, free⟩ := unlinking_run formed tables keys known laid first
      have tested := idColumn_tests purged.laid.wide type cell
      obtain ⟨changed, counted⟩ := deleteWhere_run purged.laid.wide tested second
      rw [← countP_fieldRows, alike type known, countP_fieldRows] at counted
      refine ⟨fun some => ?_, fun none undangling => ?_⟩
      · have exactly : (fieldRows connection.database type).countP
            (fun row => (row.headD .null).agrees cell) = 1 := by
          have atMost := once type known id cell read
          have positive := of_decide_eq_true some
          rw [countP_fieldRows]
          omega
        obtain ⟨others, own⟩ := (delete_fieldRows formed tables keys known read laid).sound rfl run
        obtain ⟨front, row, back, named, before, left⟩ := split_of_countP exactly
        refine ⟨cell, rfl, ?_, ⟨front, row, back, named, before, own.trans left⟩, others, ?_⟩
        · have gone : Freed (tableName type) (idName type) cell after.database := by
            intro record member
            rw [records_same changed] at member
            simpa using (List.mem_filter.mp member).2
          have cells : idCells type [id] = [cell] := List.filterMap_cons_some read
          rw [execute_findResources ((purged.laid.rewrites changed).tabled known) columns known rfl, cells,
            foundRecords_freed gone]
          rfl
        · intro holder target relationship relates owner other given given'
          exact purged.links_iff housed formed tables pairs keys agree known free changed relates given given'
      · have absent : ∀ record ∈ connection.database.records (tableName type),
            ¬(record (idName type)).agrees cell := by
          have zero : count = 0 := Nat.eq_zero_of_not_pos (of_decide_eq_false none)
          exact List.countP_eq_zero.mp (counted.symm.trans zero)
        have unreferred (table column : String) (refers : Refers schema table column type) :
            Freed table column cell connection.database := by
          intro record member
          refine Bool.eq_false_iff.mpr fun agrees => ?_
          obtain ⟨stored, inside, same⟩ := undangling _ _ _ refers record member id cell read agrees
          exact absent stored inside same
        have idle := unlinking_idle formed known laid.wide unreferred first
        have unmatched : ∀ record ∈ unlinked.database.records (tableName type),
            (record (idName type)).agrees cell = false := by
          unfold Database.records
          rw [idle]
          exact fun record member => Bool.eq_false_iff.mpr (absent record member)
        exact fun name => congrFun ((delete_idle tested unmatched (execute_delete_ok second)).trans idle) name

namespace Shelf

def deletion (id : String) : Except MappingError Bool × Connection :=
  execute (Mapping.delete schema book id) connection

theorem deletion_eq {id : String} {found : Bool} (done : (deletion id).1 = .ok found) :
    execute (Mapping.delete schema book id) connection = (.ok found, (deletion id).2) :=
  Prod.ext done rfl

end Shelf

theorem dawn_is_deleted :
    Schema.ofTypes [Shelf.author, Shelf.book] = .ok Shelf.schema ∧ Shelf.schema.TablesDistinct ∧
      Shelf.schema.ColumnsDistinct ∧ Shelf.schema.PairsDistinct ∧ Shelf.schema.KeysApart ∧
      Shelf.schema.KeysAgree ∧ Housed Shelf.schema Shelf.connection.database ∧
      IdentifiesOnce Shelf.schema Shelf.connection.database ∧ Shelf.book ∈ Shelf.schema.types ∧
      NoneDangles Shelf.schema Shelf.connection.database ∧
      (Shelf.deletion "1").1 = .ok true ∧
      (execute (Mapping.get Shelf.book ["1"]) (Shelf.deletion "1").2).1 = .ok [] ∧
      ¬Holds (Shelf.deletion "1").2.database Shelf.author Shelf.book Shelf.books.storage
        (.integer 1) (.integer 1) ∧
      Holds (Shelf.deletion "1").2.database Shelf.author Shelf.book Shelf.books.storage
        (.integer 1) (.integer 3) ∧
      (Shelf.deletion "9").1 = .ok false ∧
      ∀ name, (Shelf.deletion "9").2.database.table? name = Shelf.connection.database.table? name := by
  have valid : Schema.ofTypes [Shelf.author, Shelf.book] = .ok Shelf.schema := rfl
  have agree : Shelf.schema.KeysAgree := by decide +kernel
  have once := Shelf.stocked.identifiesOnce Shelf.separate
  have known : Shelf.book ∈ Shelf.schema.types := List.mem_cons_of_mem _ List.mem_cons_self
  have undangling : NoneDangles Shelf.schema Shelf.connection.database :=
    noneDangles_of_stored (by decide +kernel)
  have found : (Shelf.deletion "1").1 = .ok true := by decide +kernel
  have missed : (Shelf.deletion "9").1 = .ok false := by decide +kernel
  have held : Holds Shelf.connection.database Shelf.author Shelf.book Shelf.books.storage
      (.integer 1) (.integer 3) := by decide +kernel
  obtain ⟨removes, _⟩ := deletion_removes_one_resource valid Shelf.tablesDistinct Shelf.columnsDistinct
    Shelf.separate.pairs Shelf.keysApart agree Shelf.stocked.housed once known (Shelf.deletion_eq found)
  obtain ⟨_, idle⟩ := deletion_removes_one_resource valid Shelf.tablesDistinct Shelf.columnsDistinct
    Shelf.separate.pairs Shelf.keysApart agree Shelf.stocked.housed once known (Shelf.deletion_eq missed)
  obtain ⟨cell, read, absent, _, _, links⟩ := removes rfl
  have one : idCell? Shelf.book "1" = some (.integer 1) := by decide +kernel
  cases one.symm.trans read
  refine ⟨valid, Shelf.tablesDistinct, Shelf.columnsDistinct, Shelf.separate.pairs, Shelf.keysApart, agree,
    Shelf.stocked.housed, once, known, undangling, found, absent, ?_, ?_, missed, idle rfl undangling⟩
  · rw [links Shelf.relates (.integer 1) (.integer 1) nofun nofun]
    exact fun left => left.2 (.inr ⟨rfl, rfl⟩)
  · rw [links Shelf.relates (.integer 1) (.integer 3) nofun nofun]
    exact ⟨held, by decide +kernel⟩

end ResourceServer
