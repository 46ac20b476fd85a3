import ResourceServer.Proofs.Changes
import ResourceServer.Proofs.Housing
import ResourceServer.Proofs.Selection

/-! Which links are loaded: the rows that a relationship's storage ties to some owners. -/

namespace ResourceServer

open ResourceServer.Store ResourceServer.Mapping

section

variable {α β : Type}

theorem insertBack_map (compare : β → β → Ordering) (place : α → β) (item : α) (items : List α) :
    insertBack compare (place item) (items.map place) =
      (insertBack (fun left right => compare (place left) (place right)) item items).map place := by
  induction items with
  | nil => rfl
  | cons last rest ih =>
      rw [List.map_cons, insertBack, insertBack]
      split
      · rw [ih, List.map_cons]
      · rfl

theorem stableSort_map (compare : β → β → Ordering) (place : α → β) (items : List α) :
    stableSort compare (items.map place) =
      (stableSort (fun left right => compare (place left) (place right)) items).map place := by
  have inserted (sorted : List α) :
      (items.map place).foldl (fun sorted item => insertBack compare item sorted) (sorted.map place) =
        (items.foldl (fun sorted item =>
          insertBack (fun left right => compare (place left) (place right)) item sorted) sorted).map
            place := by
    induction items generalizing sorted with
    | nil => rfl
    | cons item rest ih => rw [List.map_cons, List.foldl_cons, insertBack_map, ih, List.foldl_cons]
  have all := inserted []
  rw [List.map_nil] at all
  unfold stableSort
  rw [all, List.map_reverse]

end

namespace Store

theorem oneOf_meets {database : Database} {scope : Scope} {column : Column} {value : Cell}
    (found : scope.get column = .ok value) (cells : List Cell) :
    Clause.meetsAll database [.condition (.oneOf column cells)] scope =
      .ok (cells.any value.agrees) := by
  have evaluated : ∃ truth, Clause.eval database (.condition (.oneOf column cells)) scope = .ok truth := by
    unfold Clause.eval Condition.eval
    simp only [found, bind, Except.bind, pure, Except.pure]
    split
    · exact ⟨_, rfl⟩
    · split
      · exact ⟨_, rfl⟩
      · exact ⟨_, rfl⟩
  obtain ⟨truth, evaluated⟩ := evaluated
  obtain ⟨value', here, same⟩ := oneOf_ok evaluated
  cases found.symm.trans here
  unfold Clause.meetsAll
  rw [evaluated]
  cases agrees : cells.any value.agrees with
  | true =>
      rw [same.mpr agrees]
      rfl
  | false =>
      have other : truth ≠ .yes := fun yes => by simp [same.mp yes] at agrees
      cases truth <;> first | rfl | exact absurd rfl other

theorem compareKeys_single (column : Column) (left right : Cell) :
    Select.compareKeys [⟨column, false⟩] [left] [right] = Select.compareKey false left right :=
  Ordering.then_eq

theorem sorted_single {α : Type} {column : Column} {items : List α} {place : α → Scope}
    {key : α → Cell} (keyed : ∀ item ∈ items, (place item).get column = .ok (key item)) :
    Select.sorted [⟨column, false⟩] (items.map place) =
      .ok ((stableSort (fun left right => Select.compareKey false (key left) (key right)) items).map
        place) := by
  have all : (items.map place).mapM (fun scope => do
        return (← Select.sortKey [⟨column, false⟩] scope, scope) : Scope → Except StoreError _) =
      .ok (items.map fun item => ([key item], place item)) := by
    rw [List.mapM_map]
    refine mapM_ok _ fun item member => ?_
    have one : Select.sortKey [⟨column, false⟩] (place item) = .ok [key item] := by
      unfold Select.sortKey
      rw [List.mapM_cons, keyed item member]
      rfl
    rw [Function.comp_apply, one]
    rfl
  have empty : ([⟨column, false⟩] : List SortColumn).isEmpty = false := rfl
  unfold Select.sorted
  rw [empty]
  refine bind_of_ok all ?_
  rw [stableSort_map, List.map_map]
  simp only [compareKeys_single]
  rfl

theorem select_run {α : Type} {database : Database} {select : Select} {items : List α}
    {place : α → Scope} {tested sort : Column} {cells : List Cell} {value key : α → Cell}
    {row : α → Row}
    (scanned : database.scan select.table select.table select.joins = .ok (items.map place))
    (filters : select.filters = [.condition (.oneOf tested cells)])
    (order : select.order = [⟨sort, false⟩]) (first : select.offset = 0) (all : select.limit = none)
    (several : select.columns ≠ [.count])
    (valued : ∀ item ∈ items, (place item).get tested = .ok (value item))
    (keyed : ∀ item ∈ items, (place item).get sort = .ok (key item))
    (projected : ∀ item ∈ items, Select.project (place item) [] select.columns = .ok (row item)) :
    select.run database =
      .ok (((stableSort (fun left right => Select.compareKey false (key left) (key right))
        (items.filter fun item => cells.any (value item).agrees)).map row).map .ok) := by
  let kept := items.filter fun item => cells.any (value item).agrees
  let ordered := stableSort (fun left right => Select.compareKey false (key left) (key right)) kept
  have inside {item : α} (member : item ∈ kept) : item ∈ items := (List.mem_filter.mp member).1
  have matched : select.matching database = .ok (kept.map place) := by
    unfold Select.matching
    rw [filters]
    exact bind_of_ok scanned (filterM_map_ok _ fun item member => oneOf_meets (valued item member) cells)
  have sorted : Select.sorted select.order (kept.map place) = .ok (ordered.map place) := by
    rw [order]
    exact sorted_single fun item member => keyed item (inside member)
  have rows : ∀ item ∈ ordered, Select.project (place item) [] select.columns = .ok (row item) :=
    fun item member => projected item (inside ((stableSort_perm _ kept).mem_iff.mp member))
  unfold Select.run
  refine bind_of_ok matched ?_
  rw [if_neg several, all, first]
  refine bind_of_ok sorted ?_
  rw [List.drop_zero]
  dsimp only
  rw [List.map_map, List.map_map]
  exact congrArg Except.ok (List.map_congr_left rows)

end Store

def fieldRow (type : EntityType) (record : Record) : Row :=
  type.fields.map fun field => record (columnName field.name)

/-- The identities of owners that are stored for a record of a relationship's target. -/
def ownerCells (database : Database) (type target : EntityType) (storage : Storage)
    (other : Record) : List Cell :=
  match storage with
  | .ownerKey column =>
    ((database.records (tableName type)).filter fun owner =>
      (owner column).agrees (other (idName target))).map fun owner => owner (idName type)
  | .targetKey column => [other column]
  | .joinTable pairs ownerColumn targetColumn =>
    ((database.records pairs).filter fun pair =>
      (pair targetColumn).agrees (other (idName target))).map fun pair => pair ownerColumn

/-- The links of a relationship: an owner's identity, followed by the fields of a target. -/
def linkRows (database : Database) (type target : EntityType) (storage : Storage) : List Row :=
  (database.records (tableName target)).flatMap fun other =>
    (ownerCells database type target storage other).map fun cell => cell :: fieldRow target other

def loadedRows (database : Database) (type target : EntityType) (storage : Storage)
    (owners : List Cell) : List Row :=
  stableSort (fun left right => Select.compareKey false (left.getD 1 .null) (right.getD 1 .null))
    ((linkRows database type target storage).filter fun row => owners.any (row.headD .null).agrees)

def linkSelect (type target : EntityType) (storage : Storage) (owners : List Cell) : Select :=
  let (owner, joins) := ownerColumn type target storage
  { columns := .column owner :: fieldColumns target (tableName target)
    table := tableName target
    joins := joins
    filters := [.condition (.oneOf owner owners)]
    order := [⟨idColumn target (tableName target), false⟩] }

section

variable {α : Type} {database : Database} {type target : EntityType} {storage : Storage}

theorem linkSelect_run {table : Table} {items : List α} {place : α → Scope} {own : α → Cell}
    {other : α → Record} (owners : List Cell)
    (present : ∀ field ∈ target.fields, table.Has (columnName field.name))
    (scanned : database.scan (tableName target) (tableName target)
      (ownerColumn type target storage).2 = .ok (items.map place))
    (owned : ∀ item ∈ items, (place item).get (ownerColumn type target storage).1 = .ok (own item))
    (bound : ∀ item ∈ items, (place item).Binds (tableName target) table (other item)) :
    (linkSelect type target storage owners).run database =
      .ok ((stableSort
        (fun left right => Select.compareKey false (left.getD 1 .null) (right.getD 1 .null))
        ((items.map fun item => own item :: fieldRow target (other item)).filter fun row =>
          owners.any (row.headD .null).agrees)).map .ok) := by
  let row := fun item => own item :: fieldRow target (other item)
  have several : (linkSelect type target storage owners).columns ≠ [.count] := by
    intro same
    cases same
  have keyed : ∀ item ∈ items, (place item).get (idColumn target (tableName target)) =
      .ok (other item (idName target)) := fun item member =>
    bound item member _ (present target.identity List.mem_cons_self)
  have projected : ∀ item ∈ items, Select.project (place item) []
      (linkSelect type target storage owners).columns = .ok (row item) := fun item member =>
    bind_of_ok (owned item member) (project_fields (bound item member) present [own item])
  have rows : (items.map row).filter (fun row => owners.any (row.headD .null).agrees) =
      (items.filter fun item => owners.any (own item).agrees).map row := by
    rw [List.filter_map]
    rfl
  rw [rows, stableSort_map]
  exact select_run scanned rfl rfl rfl rfl several owned keyed projected

end

section

variable {schema : Schema} {database : Database} {type target : EntityType}
  {relationship : Relationship}

theorem joined_run {joined links : Table} {link tied held : String} {storage : Storage}
    (owners : List Cell) (reached : database.table? (tableName target) = some joined)
    (other : database.table? links.name = some links) (wide : joined.Wide) (narrow : links.Wide)
    (present : ∀ field ∈ target.fields, joined.Has (columnName field.name))
    (ties : links.Has tied) (holds : links.Has held) (apart : link ≠ tableName target)
    (plan : ownerColumn type target storage = (.ofTable link held,
      [⟨.inner, links.name, link, .ofTable link tied, "=", idColumn target (tableName target)⟩]))
    (cells : ∀ record, ownerCells database type target storage record =
      (links.records.filter fun pair => (pair tied).agrees (record (idName target))).map
        fun pair => pair held) :
    (linkSelect type target storage owners).run database =
      .ok ((loadedRows database type target storage owners).map .ok) := by
  let items : List (Row × Row) := joined.rows.flatMap fun other =>
    (links.rows.filter fun pair =>
      (links.record pair tied).agrees (joined.record other (idName target))).map fun pair =>
        (other, pair)
  let place (item : Row × Row) : Scope :=
    joined.scope (tableName target) item.1 ++ links.scope link item.2
  have inside {item : Row × Row} (member : item ∈ items) :
      item.1 ∈ joined.rows ∧ item.2 ∈ links.rows := by
    obtain ⟨other, among, member⟩ := List.mem_flatMap.mp member
    obtain ⟨pair, kept, rfl⟩ := List.mem_map.mp member
    exact ⟨among, (List.mem_filter.mp kept).1⟩
  have front {row pair : Row} (among : row ∈ joined.rows) :
      Scope.Binds (joined.scope (tableName target) row ++ links.scope link pair) (tableName target)
        joined (joined.record row) :=
    scope_binds joined (tableName target) row _ (wide row among)
  have back {row pair : Row} (among : pair ∈ links.rows) :
      Scope.Binds (joined.scope (tableName target) row ++ links.scope link pair) link links
        (links.record pair) := by
    have bound := scope_binds links link pair [] (narrow pair among)
    rw [List.append_nil] at bound
    exact binds_behind joined row bound apart
  have scanned : database.scan (tableName target) (tableName target)
      (ownerColumn type target storage).2 = .ok (items.map place) := by
    have rows := scan_join (tableName target)
      ⟨.inner, links.name, link, .ofTable link tied, "=", idColumn target (tableName target)⟩
      reached other rfl rfl (fun _ pair => links.record pair tied)
      (fun row _ => joined.record row (idName target))
      (fun row _ pair member => back member _ ties)
      (fun row member pair _ => front member _ (present target.identity List.mem_cons_self))
    rw [plan, rows, List.map_flatMap]
    simp only [List.map_map, Function.comp_def, place]
  have owned : ∀ item ∈ items, (place item).get (ownerColumn type target storage).1 =
      .ok (links.record item.2 held) := by
    intro item member
    rw [plan]
    exact back (inside member).2 _ holds
  rw [linkSelect_run owners present scanned owned fun item member => front (inside member).1]
  have rows : items.map (fun item => links.record item.2 held ::
      fieldRow target (joined.record item.1)) = linkRows database type target storage := by
    unfold linkRows items
    rw [records_of_table reached, Table.records, List.map_flatMap, List.flatMap_map]
    refine List.flatMap_congr fun row _ => ?_
    rw [cells, Table.records, List.filter_map, List.map_map, List.map_map, List.map_map]
    rfl
  rw [rows]
  rfl

theorem linkSelect_rows (shaped : Shaped schema database)
    (apart : tableName target ≠ "rel_owner" ∧ tableName target ≠ "rel_link")
    (known : type ∈ schema.types) (own : relationship ∈ type.relationships)
    (found : Mapping.findRelationship schema type relationship.name = .ok (relationship, target))
    (owners : List Cell) :
    (linkSelect type target relationship.storage owners).run database =
      .ok ((loadedRows database type target relationship.storage owners).map .ok) := by
  obtain ⟨_, leads, known', same⟩ := findRelationship_ok found
  obtain ⟨joined, reached, laid', wide⟩ := shaped.entities target known'
  obtain ⟨table, here, laid, narrow⟩ := shaped.entities type known
  have present : ∀ field ∈ target.fields, joined.Has (columnName field.name) := fun _ member =>
    field_named laid' member
  have named := Database.table?_name here
  cases storage : relationship.storage with
  | ownerKey column =>
      refine joined_run owners reached (named.symm ▸ here) wide narrow present
        (ownerKey_column laid own storage leads) (field_named laid List.mem_cons_self) apart.1.symm ?_ ?_
      · rw [named]
        rfl
      · intro record
        rw [← records_of_table here]
        rfl
  | targetKey column =>
      have holds : joined.Has column := targetKey_column laid' known own storage same
      have rows : joined.rows.map (fun row => joined.record row column ::
          fieldRow target (joined.record row)) =
          linkRows database type target (.targetKey column) := by
        unfold linkRows
        rw [records_of_table reached, Table.records, List.flatMap_map]
        exact List.map_eq_flatMap
      have bound : ∀ row ∈ joined.rows, Scope.Binds (joined.scope (tableName target) row)
          (tableName target) joined (joined.record row) := by
        intro row member
        have bound := scope_binds joined (tableName target) row [] (wide row member)
        rwa [List.append_nil] at bound
      have scanned : database.scan (tableName target) (tableName target)
          (ownerColumn type target (.targetKey column)).2 =
            .ok (joined.rows.map (joined.scope (tableName target))) :=
        scan_alone (tableName target) reached
      rw [linkSelect_run owners present scanned
        (fun row member => bound row member column holds) bound, rows]
      rfl
  | joinTable pairs ownerColumn targetColumn =>
      obtain ⟨links, paired, owns, targets, thin⟩ := shaped.pairs type known relationship own _ _ _ storage
      have named' := Database.table?_name paired
      refine joined_run owners reached (named'.symm ▸ paired) wide thin present targets owns
        apart.2.symm ?_ ?_
      · rw [named']
        rfl
      · intro record
        rw [← records_of_table paired]
        rfl

/-- What is loaded are the links of the storage. -/
theorem execute_loadRelation (shaped : Shaped schema database)
    (apart : tableName target ≠ "rel_owner" ∧ tableName target ≠ "rel_link")
    (known : type ∈ schema.types) (own : relationship ∈ type.relationships)
    (found : Mapping.findRelationship schema type relationship.name = .ok (relationship, target))
    {connection : Connection} (here : connection.database = database) (owners : List String) :
    (execute (loadRelation schema type relationship owners) connection).1 =
      (loadedRows database type target relationship.storage (idCells type owners)).mapM
        (readLink type target) := by
  subst here
  unfold loadRelation
  rw [execute_bind, execute_ofExcept, found]
  dsimp only
  split
  · rename_i empty
    rw [List.isEmpty_iff.mp empty]
    unfold loadedRows
    simp only [List.any_nil, List.filter_false]
    rfl
  · have rows := execute_selectAll (linkSelect_rows shaped apart known own found
      (idCells type owners))
    rw [execute_bind]
    unfold linkSelect at rows
    rcases outcome : execute (selectAll _) connection with ⟨result, after⟩
    rw [outcome] at rows
    cases rows
    exact congrArg Prod.fst (execute_ofExcept _ after)

def foundRecords (database : Database) (type : EntityType) (cells : List Cell) : List Record :=
  stableSort (fun left right => Select.compareKey false (left (idName type)) (right (idName type)))
    ((database.records (tableName type)).filter fun record =>
      cells.any (record (idName type)).agrees)

/-- What is found by some identities are the records that have one of them. -/
theorem execute_findResources (tabled : Tabled schema database type) (distinct : schema.ColumnsDistinct)
    (known : type ∈ schema.types) {connection : Connection} (here : connection.database = database)
    (ids : List String) :
    (execute (Mapping.get type ids) connection).1 =
      (foundRecords database type (idCells type ids)).mapM (readRecord type) := by
  subst here
  obtain ⟨table, reached, laid, wide⟩ := tabled
  have present : ∀ field ∈ type.fields, table.Has (columnName field.name) := fun field member =>
    ⟨_, field_column laid (distinct type known) member, rfl⟩
  have bound : ∀ row ∈ table.rows, Scope.Binds (table.scope (tableName type) row)
      (tableName type) table (table.record row) := by
    intro row member
    have bound := scope_binds table (tableName type) row [] (wide row member)
    rwa [List.append_nil] at bound
  unfold Mapping.get
  dsimp only
  split
  · rename_i empty
    rw [List.isEmpty_iff.mp empty]
    unfold foundRecords
    simp only [List.any_nil, List.filter_false]
    rfl
  · let select : Select :=
      { columns := fieldColumns type (tableName type)
        table := tableName type
        filters := [.condition (.oneOf (idColumn type (tableName type)) (idCells type ids))]
        order := [⟨idColumn type (tableName type), false⟩] }
    have identity : ∀ row ∈ table.rows, (table.scope (tableName type) row).get
        (idColumn type (tableName type)) = .ok (table.record row (idName type)) :=
      fun row member => bound row member _ (present type.identity List.mem_cons_self)
    have several : select.columns ≠ [.count] := by
      intro same
      cases same
    have ran : select.run connection.database =
        .ok (((foundRecords connection.database type (idCells type ids)).map (fieldRow type)).map .ok) := by
      have rows : (foundRecords connection.database type (idCells type ids)).map (fieldRow type) =
          (stableSort (fun left right => Select.compareKey false (table.record left (idName type))
            (table.record right (idName type))) (table.rows.filter fun row =>
              (idCells type ids).any (table.record row (idName type)).agrees)).map
                fun row => fieldRow type (table.record row) := by
        unfold foundRecords
        rw [records_of_table reached, Table.records, List.filter_map, stableSort_map, List.map_map]
        rfl
      rw [rows]
      exact select_run (scan_alone (tableName type) reached) rfl rfl rfl rfl several identity identity
        fun row member => project_fields (bound row member) present []
    have rows := execute_selectAll ran
    rw [execute_bind]
    rcases outcome : execute (selectAll select) connection with ⟨result, after⟩
    rw [outcome] at rows
    cases rows
    refine (congrArg Prod.fst (execute_ofExcept _ after)).trans ?_
    rw [List.mapM_map]
    rfl

end

end ResourceServer
