import ResourceServer.Proofs.Preservation
import ResourceServer.Proofs.Ties

/-! Operations on links and on resources that leave a resource linked. -/

namespace ResourceServer

open ResourceServer.Store ResourceServer.Mapping

/-- A schema that is accepted, whose tables and columns are told apart and whose key columns agree on what they
refer to. -/
structure Schema.Orderly (schema : Schema) : Prop where
  formed : schema.Formed
  tables : schema.TablesDistinct
  shared : schema.PairsShared
  apart : schema.PairsDistinct
  columns : schema.ColumnsDistinct
  keys : schema.KeysApart
  agree : schema.KeysAgree

theorem orderly_of_decided {schema : Schema} (types : List EntityType) (valid : Schema.ofTypes types = .ok schema)
    (decided : schema.TablesDistinct ∧ schema.PairsShared ∧ schema.PairsDistinct ∧ schema.ColumnsDistinct ∧
      schema.KeysApart ∧ schema.KeysAgree) : schema.Orderly :=
  have ⟨tables, shared, apart, columns, keys, agree⟩ := decided
  ⟨ofTypes_formed valid, tables, shared, apart, columns, keys, agree⟩

def HasPartner (type target : EntityType) (storage : Storage) (owner : Cell) (partner : Cell → Prop)
    (database : Database) : Prop :=
  ∃ other, partner other ∧ Tied database type target storage owner other

/-- A laid out database in which a resource is linked. -/
structure Attached (schema : Schema) (type target : EntityType) (storage : Storage) (owner : Cell)
    (partner : Cell → Prop) (database : Database) : Prop where
  laid : Laid schema database
  partner : HasPartner type target storage owner partner database

theorem Attached.weaken {schema : Schema} {type target : EntityType} {storage : Storage}
    {owner : Cell} {partner partner' : Cell → Prop} {database : Database}
    (attached : Attached schema type target storage owner partner database)
    (more : ∀ other, partner other → partner' other) :
    Attached schema type target storage owner partner' database :=
  ⟨attached.laid, attached.partner.imp fun _ both => ⟨more _ both.1, both.2⟩⟩

section

variable {schema : Schema} {type target : EntityType} {relationship : Relationship} {owner : Cell}
  {partner : Cell → Prop} (orderly : schema.Orderly) (relates : schema.Relates type relationship target)
include orderly relates

theorem setColumn_attached (ambient : Database → Prop) {holder kind : EntityType} {column : String}
    (known : holder ∈ schema.types) (refers : Refers schema (tableName holder) column kind)
    {cell : Cell} {filter : Clause} {meets : Record → Bool}
    (tested : ∀ database : Database, database.Wide → Tests database [filter] (tableName holder) meets)
    (safe : ∀ database, ambient database → ∀ other, partner other →
      ∀ record ∈ database.records (tableName holder),
        CarriedBy type target relationship.storage owner other (tableName holder) column record →
          meets record = false) :
    Yields
      (fun database => Attached schema type target relationship.storage owner partner database ∧
        ambient database)
      (setColumn (tableName holder) column cell filter)
      (Attached schema type target relationship.storage owner partner) := by
  refine ⟨fun {connection after value} ⟨⟨laid, other, allowed, tied⟩, start⟩ run => ?_⟩
  have changed := setColumn_run laid.wide (tested _ laid.wide) run
  exact ⟨laid.rewrites changed, other, allowed, tied.set orderly.tables orderly.keys relates known
    refers (safe _ start other allowed) changed⟩

theorem deleteWhere_attached (ambient : Database → Prop) {name : String} (used : Pairs schema name)
    {filter : Clause} {meets : Record → Bool}
    (tested : ∀ database : Database, database.Wide → Tests database [filter] name meets)
    (safe : ∀ database, ambient database → ∀ other, partner other → ∀ ownerColumn targetColumn,
      relationship.storage = .joinTable name ownerColumn targetColumn →
        ∀ pair ∈ database.records name, (pair targetColumn).agrees other = true →
          (pair ownerColumn).agrees owner = true → meets pair = false) :
    Yields
      (fun database => Attached schema type target relationship.storage owner partner database ∧
        ambient database)
      (statement (Action.delete { table := name, filters := [filter] }))
      (Attached schema type target relationship.storage owner partner) := by
  refine ⟨fun {connection after value} ⟨⟨laid, other, allowed, tied⟩, start⟩ run => ?_⟩
  have changed := (deleteWhere_run laid.wide (tested _ laid.wide) run).1
  refine ⟨laid.rewrites changed, other, allowed, tied.drop orderly.tables relates used ?_ changed⟩
  intro ownerColumn targetColumn storage pair member one two
  rw [safe _ start other allowed ownerColumn targetColumn storage pair member one two]
  rfl

omit orderly relates in
theorem insertPairs_attached {storage : Storage} {name ownerColumn targetColumn : String}
    (used : Pairs schema name) (pairs : List (Cell × Cell)) :
    Maintains (Attached schema type target storage owner partner)
      (insertPairs name ownerColumn targetColumn pairs) := by
  refine ⟨fun {connection after value} ⟨laid, other, allowed, tied⟩ run => ?_⟩
  have changed := insertPairs_run (laid.plain name used) run
  exact ⟨laid.rewrites changed, other, allowed, tied.append changed⟩

omit relates in
theorem addToMany_pairs {storage : Storage} {holder aim : EntityType} {via : Relationship}
    (relates' : schema.Relates holder via aim) {pairs ownerColumn targetColumn : String}
    (paired : via.storage = .joinTable pairs ownerColumn targetColumn) (id : String)
    (texts : List String) :
    Maintains (Attached schema type target storage owner partner)
      (addToMany schema holder via id texts) := by
  have used : Pairs schema pairs := ⟨holder, relates'.known, via, relates'.own, _, _, paired⟩
  unfold addToMany
  rw [relates'.found orderly.formed, paired]
  refine establishes_given fun pair same => ?_
  cases same
  refine establishes_given fun ownerCell _ => ?_
  dsimp only
  split
  · exact maintains_of_keeps (keeps_pure _)
  refine establishes_bind (maintains_of_keeps (selectAll_keeps _)) fun rows => ?_
  split
  · exact maintains_of_keeps (keeps_pure _)
  · exact insertPairs_attached used _

/-! Links that are kept elsewhere. -/

section

variable {holder aim : EntityType} {via : Relationship} (relates' : schema.Relates holder via aim)
  (elsewhere : via.storage.place holder aim ≠ relationship.storage.place type target)
include relates' elsewhere

omit relates' in
theorem setColumn_elsewhere {entity kind : EntityType} {column : String}
    (known : entity ∈ schema.types) (refers : Refers schema (tableName entity) column kind)
    (here : via.storage.place holder aim = .column (tableName entity) column) {cell : Cell}
    {filter : Clause} {meets : Record → Bool}
    (tested : ∀ database : Database, database.Wide → Tests database [filter] (tableName entity) meets) :
    Maintains (Attached schema type target relationship.storage owner partner)
      (setColumn (tableName entity) column cell filter) := by
  refine establishes_weaken (setColumn_attached orderly relates (fun _ => True) known
    refers tested fun _ _ other _ record _ carried => ?_) (fun _ attached => ⟨attached, trivial⟩)
    fun _ _ attached => attached
  rw [here] at elsewhere
  exact absurd (carried_here carried).symm elsewhere

theorem deleteWhere_elsewhere {name ownerColumn targetColumn : String}
    (storage : via.storage = .joinTable name ownerColumn targetColumn) {filter : Clause}
    {meets : Record → Bool}
    (tested : ∀ database : Database, database.Wide → Tests database [filter] name meets) :
    Maintains (Attached schema type target relationship.storage owner partner)
      (statement (Action.delete { table := name, filters := [filter] })) := by
  have used : Pairs schema name := ⟨holder, relates'.known, via, relates'.own, _, _, storage⟩
  refine establishes_weaken (deleteWhere_attached orderly relates (fun _ => True) used
    tested fun _ _ other _ _ _ storage' => ?_) (fun _ attached => ⟨attached, trivial⟩)
    fun _ _ attached => attached
  rw [storage, storage'] at elsewhere
  exact absurd rfl elsewhere

theorem setToOne_elsewhere (id : String) (linked : Option String) :
    Maintains (Attached schema type target relationship.storage owner partner)
      (setToOne schema holder via id linked) := by
  unfold setToOne
  refine establishes_guard fun _ => ?_
  rw [relates'.found orderly.formed]
  refine establishes_given fun pair same => ?_
  cases same
  refine establishes_given fun ownerCell _ => establishes_given fun targetCell _ => ?_
  split
  · rename_i column storage
    exact setColumn_elsewhere orderly relates elsewhere relates'.known
      (.ownerKey relates'.known relates'.own storage relates'.leads) (by rw [storage]; rfl)
      fun database wide => idColumn_tests wide holder ownerCell
  · rename_i column storage
    have refers := Refers.targetKey relates'.known relates'.own storage relates'.leads
    have here : via.storage.place holder aim = .column (tableName aim) column := by
      rw [storage]
      rfl
    refine establishes_bind (setColumn_elsewhere orderly relates elsewhere relates'.known'
      refers here fun database wide => hasValue_tests wide (tableName aim) column ownerCell)
      fun _ => ?_
    split
    · rename_i cell _
      exact setColumn_elsewhere orderly relates elsewhere relates'.known' refers here
        fun database wide => idColumn_tests wide aim cell
    · exact maintains_of_keeps (keeps_pure _)
  · rename_i pairs ownerColumn targetColumn storage
    have used : Pairs schema pairs := ⟨holder, relates'.known, via, relates'.own, _, _, storage⟩
    refine establishes_bind (establishes_bind (deleteWhere_elsewhere orderly relates relates'
      elsewhere storage fun database wide => hasValue_tests wide pairs ownerColumn ownerCell)
      fun _ => maintains_of_keeps (keeps_pure _)) fun _ => ?_
    split
    · exact insertPairs_attached used _
    · exact maintains_of_keeps (keeps_pure _)

theorem addToMany_elsewhere (id : String) (texts : List String) :
    Maintains (Attached schema type target relationship.storage owner partner)
      (addToMany schema holder via id texts) := by
  cases storage : via.storage with
  | joinTable pairs ownerColumn targetColumn =>
      exact addToMany_pairs orderly relates' storage id texts
  | ownerKey column =>
      unfold addToMany
      rw [relates'.found orderly.formed, storage]
      refine establishes_given fun pair same => establishes_given fun ownerCell _ => ?_
      dsimp only
      split
      · exact maintains_of_keeps (keeps_pure _)
      · exact establishes_throw _
  | targetKey column =>
      unfold addToMany
      rw [relates'.found orderly.formed, storage]
      refine establishes_given fun pair same => ?_
      cases same
      refine establishes_given fun ownerCell _ => ?_
      dsimp only
      split
      · exact maintains_of_keeps (keeps_pure _)
      · exact setColumn_elsewhere orderly relates elsewhere relates'.known'
          (.targetKey relates'.known relates'.own storage relates'.leads) (by rw [storage]; rfl)
          fun database wide => oneOf_tests wide (tableName aim) (idName aim) _

theorem removeFromMany_elsewhere (id : String) (targets : List String) :
    Maintains (Attached schema type target relationship.storage owner partner)
      (removeFromMany schema holder via id targets) := by
  unfold removeFromMany
  rw [relates'.found orderly.formed]
  refine establishes_given fun pair same => ?_
  cases same
  refine establishes_given fun ownerCell _ => ?_
  dsimp only
  split
  · exact maintains_of_keeps (keeps_pure _)
  split
  · rename_i column storage
    exact setColumn_elsewhere orderly relates elsewhere relates'.known'
      (.targetKey relates'.known relates'.own storage relates'.leads) (by rw [storage]; rfl)
      fun database wide => both_tests (oneOf_tests wide (tableName aim) (idName aim) _)
        (hasValue_tests wide (tableName aim) column ownerCell)
  · rename_i pairs ownerColumn targetColumn storage
    exact establishes_bind (deleteWhere_elsewhere orderly relates relates' elsewhere storage
      fun database wide => both_tests (hasValue_tests wide pairs ownerColumn ownerCell)
        (oneOf_tests wide pairs targetColumn _)) fun _ => maintains_of_keeps (keeps_pure _)
  · exact establishes_throw _

end

/-! Links that are written through the relationship itself. -/

omit orderly relates in
theorem differs_of_agrees {kind : ColumnType} {key held cell : Cell} (taken : kind.takes held)
    (given : cell.type? = some kind) (agree : key.agrees held = true)
    (apart : key.agrees cell = false) : held.agrees cell = false := by
  by_contra agree'
  have agree' : held.agrees cell = true := by simpa using agree'
  have kinds : held.type? = cell.type? := (agreeing_kind taken agree').trans given.symm
  rw [Cell.agrees_trans agree agree' kinds] at apart
  cases apart

theorem setToOne_attaches (id linked : String) (owner other : Cell)
    (mine : ∀ cell, idCell? type id = some cell → owner.agrees cell = true)
    (theirs : ∀ cell, idCell? target linked = some cell → other.agrees cell = true) :
    Yields
      (fun database => Laid schema database ∧ Standing database type owner ∧
        Standing database target other)
      (setToOne schema type relationship id (some linked))
      (fun database => Laid schema database ∧
        Tied database type target relationship.storage owner other) := by
  unfold setToOne
  refine establishes_guard fun _ => ?_
  rw [relates.found orderly.formed]
  refine establishes_given fun pair same => ?_
  cases same
  refine establishes_given fun ownerCell ownerRead => establishes_given fun targetCell targetRead => ?_
  obtain ⟨asked, read, same⟩ := map_ok targetRead
  subst same
  have own := mine ownerCell (idCell_ok ownerRead)
  have aimed := theirs asked (idCell_ok read)
  refine ⟨fun {connection after value} ⟨laid, standing, standing'⟩ run => ?_⟩
  cases storage : relationship.storage with
  | ownerKey column =>
      rw [storage] at run
      have refers := Refers.ownerKey relates.known relates.own storage relates.leads
      have changed := setColumn_run laid.wide (idColumn_tests laid.wide type ownerCell) run
      refine ⟨laid.rewrites changed, tied_of_ownerKey ?_
        (standing'.set orderly.keys refers relates.known' changed)⟩
      obtain ⟨record, member, same⟩ := standing
      rw [records_same changed]
      refine ⟨_, List.mem_map_of_mem member, ?_, ?_⟩
      · exact (set_identity orderly.keys refers relates.known rfl
          (fun record => (record (idName type)).agrees ownerCell) _ record).trans same
      · rw [if_pos (same ▸ own), Record.set_same]
        exact aimed
  | targetKey column =>
      rw [storage] at run
      have refers := Refers.targetKey relates.known relates.own storage relates.leads
      obtain ⟨⟨⟩, middle, cleared, run⟩ := execute_bind_ok run
      have emptied := clearKey_run laid.wide cleared
      have laid' := laid.rewrites emptied
      have changed := setColumn_run laid'.wide (idColumn_tests laid'.wide target asked) run
      refine ⟨laid'.rewrites changed, tied_of_targetKey ((standing.set orderly.keys refers
        relates.known emptied).set orderly.keys refers relates.known changed) ?_⟩
      obtain ⟨record, member, same⟩ := standing'.set orderly.keys refers relates.known' emptied
      rw [records_same changed]
      refine ⟨_, List.mem_map_of_mem member, ?_, ?_⟩
      · exact (set_identity orderly.keys refers relates.known' rfl
          (fun record => (record (idName target)).agrees asked) _ record).trans same
      · rw [if_pos (same ▸ aimed), Record.set_same]
        exact Cell.agrees_symm own
  | joinTable pairs ownerColumn targetColumn =>
      rw [storage] at run
      have used : Pairs schema pairs :=
        ⟨type, relates.known, relationship, relates.own, _, _, storage⟩
      have apart := orderly.apart type relates.known relationship relates.own _ _ _ storage
      obtain ⟨⟨⟩, middle, deleted, run⟩ := execute_bind_ok run
      have emptied := deletePairs_run laid.wide deleted
      have laid' := laid.rewrites emptied
      have changed := insertPairs_run (laid'.plain pairs used) run
      refine ⟨laid'.rewrites changed, tied_of_joinTable
        (exists_append changed (standing.drop orderly.tables relates.known used emptied))
        (exists_append changed (standing'.drop orderly.tables relates.known' used emptied)) ?_⟩
      rw [records_same changed]
      refine ⟨pairRecord ownerColumn targetColumn (ownerCell, asked),
        List.mem_append_right _ (List.mem_singleton_self _), ?_, ?_⟩
      · rw [pairRecord_target]
        exact Cell.agrees_symm aimed
      · rw [pairRecord_owner apart]
        exact Cell.agrees_symm own

theorem setToOne_spares {id linked : String}
    (strange : ∀ cell, idCell? type id = some cell → owner.agrees cell = false)
    (untaken : ∀ column, relationship.storage = .targetKey column →
      ∀ cell, idCell? target linked = some cell → ∀ other, partner other →
        other.agrees cell = false) :
    Yields
      (fun database => Attached schema type target relationship.storage owner partner database ∧
        ReferencesTyped schema database)
      (setToOne schema type relationship id (some linked))
      (Attached schema type target relationship.storage owner partner) := by
  unfold setToOne
  refine establishes_guard fun _ => ?_
  rw [relates.found orderly.formed]
  refine establishes_given fun pair same => ?_
  cases same
  refine establishes_given fun ownerCell ownerRead => establishes_given fun targetCell targetRead => ?_
  obtain ⟨asked, read, same⟩ := map_ok targetRead
  subst same
  have apart := strange ownerCell (idCell_ok ownerRead)
  have kind := idCell_kind (idCell_ok ownerRead)
  split
  · rename_i column storage
    refine setColumn_attached orderly relates _ relates.known
      (.ownerKey relates.known relates.own storage relates.leads)
      (fun database wide => idColumn_tests wide type ownerCell)
      fun database _ other _ record _ carried => ?_
    rw [storage] at carried
    obtain ⟨_, _, same, _⟩ := carried
    rw [same]
    exact apart
  · rename_i column storage
    have refers := Refers.targetKey relates.known relates.own storage relates.leads
    refine establishes_bind (setColumn_attached orderly relates _ relates.known' refers
      (fun database wide => hasValue_tests wide (tableName target) column ownerCell)
      fun database typed other _ record member carried => ?_) fun _ => ?_
    · rw [storage] at carried
      obtain ⟨_, _, _, held⟩ := carried
      exact differs_of_agrees (typed _ _ _ refers record member) kind (Cell.agrees_symm held) apart
    · refine establishes_weaken (setColumn_attached orderly relates (fun _ => True)
        relates.known' refers (fun database wide => idColumn_tests wide target asked)
        fun database _ other allowed record member carried => ?_)
        (fun _ attached => ⟨attached, trivial⟩) fun _ _ attached => attached
      rw [storage] at carried
      obtain ⟨_, _, same, _⟩ := carried
      rw [same]
      exact untaken column storage asked (idCell_ok read) other allowed
  · rename_i pairs ownerColumn targetColumn storage
    have used : Pairs schema pairs :=
      ⟨type, relates.known, relationship, relates.own, _, _, storage⟩
    refine establishes_bind (establishes_bind (deleteWhere_attached orderly relates _ used
      (fun database wide => hasValue_tests wide pairs ownerColumn ownerCell)
      fun database typed other _ ownerColumn' targetColumn' storage' pair member _ held => ?_)
      fun _ => maintains_of_keeps (keeps_pure _)) fun _ => insertPairs_attached used _
    cases storage.symm.trans storage'
    exact differs_of_agrees (typed _ _ _ (.ownerPair relates.known relates.own storage) pair member)
      kind (Cell.agrees_symm held) apart

theorem setColumn_joins {column : String} (storage : relationship.storage = .ownerKey column)
    {cell : Cell} {filter : Clause} {meets : Record → Bool}
    (tested : ∀ database : Database, database.Wide → Tests database [filter] (tableName type) meets) :
    Yields
      (fun database => Attached schema type target relationship.storage owner partner database ∧
        Present database target cell)
      (setColumn (tableName type) column cell filter)
      (Attached schema type target relationship.storage owner fun _ => True) := by
  refine ⟨fun {connection after value} ⟨⟨laid, other, _, tied⟩, chosen, stored, agrees⟩ run => ?_⟩
  have refers := Refers.ownerKey relates.known relates.own storage relates.leads
  have changed := setColumn_run laid.wide (tested _ laid.wide) run
  obtain ⟨record, member, same, held⟩ := tied.owners
  have kept := set_identity orderly.keys refers relates.known rfl meets cell record
  have linked : ∃ partner, Standing connection.database target partner ∧
      partner.agrees ((if meets record then record.set column cell else record) column) = true := by
    split
    · refine ⟨chosen (idName target), ⟨chosen, stored, rfl⟩, ?_⟩
      rw [Record.set_same]
      exact Cell.agrees_symm agrees
    · exact ⟨other, tied.targets.imp fun _ both => ⟨both.1, both.2.1⟩, held column storage⟩
  obtain ⟨partner, standing, agreed⟩ := linked
  rw [storage]
  refine ⟨laid.rewrites changed, partner, trivial, tied_of_ownerKey ?_
    (standing.set orderly.keys refers relates.known' changed)⟩
  rw [records_same changed]
  exact ⟨_, List.mem_map_of_mem member, kept.trans same, agreed⟩

/-- Linking resources to an owner through another relationship leaves them linked, if they are not linked in keys of
their targets. -/
theorem addToMany_joins {holder aim : EntityType} {via : Relationship}
    (relates' : schema.Relates holder via aim)
    (here : via.storage.place holder aim = relationship.storage.place type target)
    (free : ∀ column, relationship.storage ≠ .targetKey column) (id : String) (texts : List String) :
    Yields
      (fun database => Attached schema type target relationship.storage owner partner database ∧
        ∀ cell, idCell? holder id = some cell → Present database holder cell)
      (addToMany schema holder via id texts)
      (Attached schema type target relationship.storage owner fun _ => True) := by
  cases storage : via.storage with
  | joinTable pairs ownerColumn targetColumn =>
      exact establishes_weaken (addToMany_pairs orderly relates' storage id texts)
        (fun _ both => both.1)
        fun _ connection (attached : Attached schema type target relationship.storage owner partner
          connection.database) => attached.weaken fun _ _ => trivial
  | ownerKey column =>
      unfold addToMany
      rw [relates'.found orderly.formed, storage]
      refine establishes_given fun pair same => establishes_given fun ownerCell _ => ?_
      dsimp only
      split
      · exact establishes_pure fun _ both => both.1.weaken fun _ _ => trivial
      · exact establishes_throw _
  | targetKey column =>
      obtain ⟨key, storage'⟩ : ∃ key, relationship.storage = .ownerKey key := by
        cases storage' : relationship.storage with
        | ownerKey key => exact ⟨key, rfl⟩
        | targetKey key => exact absurd storage' (free key)
        | joinTable _ _ _ =>
            rw [storage, storage'] at here
            cases here
      rw [storage, storage'] at here
      obtain ⟨table, rfl⟩ := Place.column.inj here
      obtain rfl := same_type orderly.tables relates'.known' relates.known table
      obtain rfl := orderly.agree _ _ _ _
        (.targetKey relates'.known relates'.own storage relates'.leads)
        (.ownerKey relates.known relates.own storage' relates.leads)
      unfold addToMany
      rw [relates'.found orderly.formed, storage]
      refine establishes_given fun pair same => ?_
      cases same
      refine establishes_given fun ownerCell read => ?_
      dsimp only
      split
      · exact establishes_pure fun _ both => both.1.weaken fun _ _ => trivial
      · exact establishes_weaken (setColumn_joins orderly relates storage'
          fun database wide => oneOf_tests wide (tableName aim) (idName aim) (idCells aim texts))
          (fun _ both => ⟨both.1, both.2 ownerCell (idCell_ok read)⟩) fun _ _ attached => attached

end

end ResourceServer
