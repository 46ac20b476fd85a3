import ResourceServer.Proofs.Filtering
import ResourceServer.Proofs.KeyOrder
import ResourceServer.Proofs.PartialLoading

/-! The links of several owners, loaded together, are the links of each of them, loaded alone. -/

namespace ResourceServer

open ResourceServer.Store ResourceServer.Mapping

theorem mapM_filter {ε α β : Type} {step : α → Except ε β} {items : List α} {values : List β}
    (keep : α → Bool) (keep' : β → Bool) (all : items.mapM step = .ok values)
    (same : ∀ item ∈ items, ∀ value, step item = .ok value → keep item = keep' value) :
    (items.filter keep).mapM step = .ok (values.filter keep') := by
  induction items generalizing values with
  | nil =>
      cases all
      rfl
  | cons item rest ih =>
      obtain ⟨value, others, one, later, rfl⟩ := mapM_cons_ok all
      have alike := same item List.mem_cons_self value one
      have tail := ih later fun other member => same other (List.mem_cons_of_mem item member)
      cases kept : keep item with
      | true =>
          rw [List.filter_cons_of_pos kept, List.filter_cons_of_pos (alike ▸ kept), List.mapM_cons,
            one, tail]
          rfl
      | false => simpa [kept, ← alike] using tail

theorem admits_of_takes {type : ColumnType} {cell : Cell} (taken : type.takes cell)
    (whole : cell.type? ≠ some .decimal) : type.admits cell := by
  rcases taken with rfl | kind
  · cases type <;> rfl
  · cases cell <;> cases kind <;> first | rfl | exact absurd rfl whole

/-! The rows of links. -/

/-- Integer identities of owners are not kept in the column of a decimal field of the target. -/
def OwnersWhole (type target : EntityType) (storage : Storage) : Prop :=
  ∀ column, storage = .targetKey column → type.identity.type = .integer →
    ∀ field ∈ target.fields, columnName field.name = column → field.type ≠ .decimal

theorem Store.Cell.agrees_whole {left right : Cell} (agree : left.agrees right = true)
    (exact : right.type? ≠ some .decimal)
    (whole : left.type? = some .decimal → right.type? ≠ some .integer) : left = right := by
  rcases Cell.agrees_iff.mp agree with ⟨same, _, _⟩ | ⟨decimal | decimal, rank, _, ranked⟩
  · exact same
  · cases right with
    | integer value => exact absurd rfl (whole decimal)
    | decimal value => exact absurd rfl exact
    | _ => cases ranked
  · exact absurd decimal exact

theorem integer_of_column {type : FieldType} (kind : columnType type = .integer) : type = .integer := by
  cases type <;> first | rfl | cases kind

theorem decimal_of_column {type : FieldType} (kind : columnType type = .decimal) : type = .decimal := by
  cases type <;> first | rfl | cases kind

/-- Where an owner that is stored for a target is the identity that it agrees with, a row that is loaded for some owners
starts with the identity of one of them and can be read. -/
theorem loaded_identity {schema : Schema} {database : Database} {type target : EntityType}
    {relationship : Relationship} (typed : FieldsTyped schema database)
    (relates : schema.Relates type relationship target)
    (same : ∀ other ∈ database.records (tableName target),
      ∀ stored ∈ ownerCells database type target relationship.storage other,
        ∀ cell : Cell, cell.type? = some (keyType type) → stored.agrees cell = true → stored = cell)
    {owners : List String} {row : Row}
    (member : row ∈ loadedRows database type target relationship.storage (idCells type owners)) :
    ∃ owner ∈ owners, ∃ id, type.readId? owner = some id ∧ row.headD .null = cellOf id ∧
      ∃ resource, readLink type target row = .ok (id.text, resource) := by
  obtain ⟨other, inside, stored, among, rfl, agrees⟩ := mem_loadedRows.mp member
  obtain ⟨cell, asked, agree⟩ := List.any_eq_true.mp agrees
  obtain ⟨owner, given, spelled⟩ := List.mem_filterMap.mp asked
  obtain ⟨id, read, rfl⟩ := Option.map_eq_some_iff.mp spelled
  obtain ⟨kind, valued⟩ := FieldType.read_stored read
  obtain rfl := same other inside stored among (cellOf id) kind agree
  obtain ⟨resource, reads⟩ := readRecord_ok (typed target relates.known' other inside)
  exact ⟨owner, given, id, read, rfl, resource, readLink_ok valued reads⟩

section

variable {schema : Schema} {database : Database} {type target : EntityType}
  {relationship : Relationship} (accessible : Accessible schema database)
  (filled : Filled schema database) (distinct : schema.TablesDistinct)
  (exact : ∀ type ∈ schema.types, type.identity.type.Exact)
  (relates : schema.Relates type relationship target)
  (whole : OwnersWhole type target relationship.storage)
include accessible filled exact relates

section

include distinct whole

theorem owner_eq {other : Record} (member : other ∈ database.records (tableName target))
    {stored cell : Cell} (among : stored ∈ ownerCells database type target relationship.storage other)
    (kind : cell.type? = some (keyType type)) (agree : stored.agrees cell = true) :
    stored = cell := by
  have shaped := accessible.shaped
  have asked : cell.type? ≠ some .decimal := takes_exact (exact type relates.known) (.inr kind)
  have plain {other : EntityType} (known : other ∈ schema.types)
      (taken : (keyType other).takes stored) : stored = cell :=
    Cell.agrees_whole agree asked fun decimal =>
      absurd decimal (takes_exact (exact other known) taken)
  cases storage : relationship.storage with
  | ownerKey column =>
      rw [storage] at among
      obtain ⟨owner, kept, rfl⟩ := List.mem_map.mp among
      exact plain relates.known ((filled.fields shaped accessible.columns).identities relates.known
        owner (List.mem_filter.mp kept).1)
  | targetKey column =>
      rw [storage] at among
      obtain rfl := List.mem_singleton.mp among
      obtain ⟨_, _, _, same⟩ := findRelationship_ok (relates.found accessible.formed)
      obtain ⟨table, found, laid, _⟩ := shaped.entities target relates.known'
      have present := targetKey_column laid relates.known relates.own storage same
      rcases filled.column accessible.formed shaped relates.known' member found present with
        ⟨field, own, named, taken⟩ | ⟨other, refers, taken⟩
      · -- only the column of a decimal field could hold a number that is not the identity itself
        apply Cell.agrees_whole agree asked
        intro decimal integer
        have number : type.identity.type = .integer :=
          integer_of_column (Option.some.inj (kind.symm.trans integer))
        rcases taken with empty | held
        · rw [empty] at decimal
          cases decimal
        · exact whole column storage number field own named
            (decimal_of_column (Option.some.inj (held.symm.trans decimal)))
      · exact plain refers.known taken
  | joinTable pairs ownerColumn targetColumn =>
      rw [storage] at among
      obtain ⟨pair, kept, rfl⟩ := List.mem_map.mp among
      obtain ⟨table, found, owners, _, _⟩ := shaped.pairs type relates.known relationship
        relates.own _ _ _ storage
      obtain ⟨other, refers, taken⟩ := filled.pairs distinct
        ⟨type, relates.known, relationship, relates.own, ownerColumn, targetColumn, storage⟩ found
        (List.mem_filter.mp kept).1 owners
      exact plain refers.known taken

theorem loaded_row {owners : List String} {row : Row}
    (member : row ∈ loadedRows database type target relationship.storage (idCells type owners)) :
    ∃ owner ∈ owners, ∃ id, type.readId? owner = some id ∧ row.headD .null = cellOf id ∧
      ∃ resource, readLink type target row = .ok (id.text, resource) :=
  loaded_identity (filled.fields accessible.shaped accessible.columns) relates
    (fun _ inside _ among _ kind agree =>
      owner_eq accessible filled distinct exact relates whole inside among kind agree) member

end

theorem loadedRows_filter {cells : List Cell} {cell : Cell} (asked : cell ∈ cells) :
    (loadedRows database type target relationship.storage cells).filter
        (fun row => (row.headD .null).agrees cell) =
      loadedRows database type target relationship.storage [cell] := by
  have orders : Orders (fun left right : Row =>
        Select.compareKey false (left.getD 1 .null) (right.getD 1 .null))
      fun row => (keyType target).admits (row.getD 1 .null) :=
    (column_ordered (keyType target) false).onto (fun row => row.getD 1 .null) (fun _ fit => fit)
      fun _ _ _ _ => rfl
  rw [loadedRows, stableSort_filter orders, List.filter_filter, loadedRows]
  · congr 2
    funext row
    rw [List.any_cons, List.any_nil, Bool.or_false, Bool.and_eq_left_iff_imp]
    intro agree
    exact List.any_eq_true.mpr ⟨cell, asked, agree⟩
  · intro row member
    obtain ⟨other, inside, within⟩ := List.mem_flatMap.mp (List.mem_filter.mp member).1
    obtain ⟨stored, _, rfl⟩ := List.mem_map.mp within
    have taken := (filled.fields accessible.shaped accessible.columns).identities relates.known'
      other inside
    exact admits_of_takes taken (takes_exact (exact target relates.known') taken)

end

theorem agrees_iff_text {type : EntityType} (exact : type.identity.type.Exact) {text text' : String}
    {id id' : Value} (read : type.readId? text = some id) (read' : type.readId? text' = some id') :
    (cellOf id).agrees (cellOf id') = true ↔ id.text = id'.text := by
  obtain ⟨kind, valued⟩ := FieldType.read_stored read
  obtain ⟨kind', valued'⟩ := FieldType.read_stored read'
  have agree := Cell.agrees_exact (takes_exact exact (.inr kind)) (takes_exact exact (.inr kind'))
  rw [agree]
  constructor
  · rintro ⟨same, _⟩
    rw [same, valued'] at valued
    cases valued
    rfl
  · intro same
    have again := FieldType.read_text exact.notDuration read
    rw [same, FieldType.read_text exact.notDuration read'] at again
    cases again
    refine ⟨rfl, fun empty => ?_⟩
    rw [empty] at kind
    cases kind

section

variable {schema : Schema} {types : List EntityType} {type target : EntityType}
  {relationship : Relationship} {connection : Connection}

/-- Loading the links of some owners, repeated ones and such as are not stored among them, finds under the text
of each one's identity what loading the links of that owner alone finds, in the same order, and nothing under
other texts. A text that spells no identity has no links. -/
theorem batch_links (valid : Schema.ofTypes types = .ok schema) (tables : schema.TablesDistinct)
    (shared : schema.PairsShared) (columns : schema.ColumnsDistinct)
    (reserved : ∀ type ∈ schema.types, tableName type ≠ "rel_owner" ∧ tableName type ≠ "rel_link")
    (exact : ∀ type ∈ schema.types, type.identity.type.Exact)
    (filled : Filled schema connection.database) (relates : schema.Relates type relationship target)
    (whole : OwnersWhole type target relationship.storage) (owners : List String) :
    ∃ links,
      (execute (loadRelation schema type relationship owners) connection).1 = .ok links ∧
      (∀ owner ∈ owners, ∀ id, type.readId? owner = some id →
        (execute (loadRelation schema type relationship [owner]) connection).1 =
          .ok (links.filter fun link => link.1 = id.text)) ∧
      (∀ owner ∈ owners, type.readId? owner = none →
        (execute (loadRelation schema type relationship [owner]) connection).1 = .ok []) ∧
      ∀ link ∈ links, ∃ owner ∈ owners, ∃ id, type.readId? owner = some id ∧ id.text = link.1 := by
  have formed := ofTypes_formed valid
  have accessible : Accessible schema connection.database :=
    ⟨formed, columns, reserved, filled.shaped formed tables shared⟩
  have row {owners : List String} {row : Row} (member : row ∈ loadedRows connection.database type
      target relationship.storage (idCells type owners)) :=
    loaded_row accessible filled tables exact relates whole member
  obtain ⟨links, read⟩ : ∃ links, (loadedRows connection.database type target relationship.storage
      (idCells type owners)).mapM (readLink type target) = .ok links := by
    apply mapM_succeeds
    intro one member
    obtain ⟨_, _, _, _, _, resource, reads⟩ := row member
    exact ⟨_, reads⟩
  simp only [loadRelation_rows accessible relates]
  refine ⟨links, read, fun owner given id spelled => ?_, fun owner _ unspelled => ?_,
    fun link member => ?_⟩
  · have alone : idCells type [owner] = [cellOf id] := by simp [idCells, idCell?, spelled]
    have asked : cellOf id ∈ idCells type owners :=
      List.mem_filterMap.mpr ⟨owner, given, by simp [idCell?, spelled]⟩
    rw [alone, ← loadedRows_filter accessible filled exact relates asked]
    apply mapM_filter _ _ read
    intro one member value reads
    obtain ⟨owner', _, id', spelled', head, resource, reads'⟩ := row member
    cases reads'.symm.trans reads
    rw [head, Bool.eq_iff_iff, agrees_iff_text (exact type relates.known) spelled' spelled]
    simp
  · have alone : idCells type [owner] = [] := by simp [idCells, idCell?, unspelled]
    rw [alone, loadedRows]
    simp only [List.any_nil, List.filter_false]
    rfl
  · obtain ⟨one, member, reads⟩ := mem_of_forall₂ (mapM_forall₂ read).flip member
    obtain ⟨owner, given, id, spelled, _, resource, reads'⟩ := row member
    cases reads'.symm.trans reads
    exact ⟨owner, given, id, spelled, rfl⟩

end

/-! Books of authors, who are asked for by one identity in two spellings, an unknown one and no identity. -/

namespace Shelf

def booksOf (owners : List String) : Except MappingError Links :=
  (execute (loadRelation api.schema author ⟨"books", .toMany, "book", true, .targetKey "author_id"⟩
    owners) ⟨tables, none, []⟩).1

theorem tables_filled : Filled api.schema tables where
  registered := ⟨registeredTables api, registers, form?_same (by decide +kernel)⟩
  typed := by decide

end Shelf

theorem books_loaded_together : Filled Shelf.api.schema Shelf.tables ∧
    ∃ links, Shelf.booksOf ["1", "01", "7", "x"] = .ok links ∧ links.length = 2 ∧
      Shelf.booksOf ["01"] = .ok (links.filter fun link => link.1 = "1") ∧
      Shelf.booksOf ["x"] = .ok [] := by
  have relates : Shelf.api.schema.Relates Shelf.author
      ⟨"books", .toMany, "book", true, .targetKey "author_id"⟩ Shelf.book :=
    ⟨List.mem_cons_self, List.mem_cons_self, rfl⟩
  have registered : Schema.ofTypes [Shelf.author, Shelf.book] = .ok Shelf.api.schema := rfl
  have filled : Filled Shelf.api.schema (Connection.mk Shelf.tables none []).database :=
    Shelf.tables_filled
  have plain : ∀ field ∈ Shelf.book.fields, field.type ≠ .decimal := by decide
  have whole : OwnersWhole Shelf.author Shelf.book (.targetKey "author_id") :=
    fun _ _ _ field member _ => plain field member
  obtain ⟨links, loaded, alone, unspelled, _⟩ :=
    batch_links registered
      Shelf.tablesDistinct Shelf.pairsShared Shelf.columnsDistinct (by decide) (by decide)
      filled relates whole ["1", "01", "7", "x"]
  have two : (Shelf.booksOf ["1", "01", "7", "x"]).map List.length = .ok 2 := by decide +kernel
  obtain ⟨links', loaded', two⟩ := map_ok two
  cases loaded.symm.trans loaded'
  exact ⟨Shelf.tables_filled, links, loaded, two,
    alone "01" (by decide) (.integer 1) (by decide), unspelled "x" (by decide) (by decide)⟩

/-! Shelves whose books are found by their prices. -/

namespace Prices

def books : Relationship :=
  ⟨"books", .toMany, "book", true, .targetKey "price"⟩

def shelf : EntityType :=
  ⟨"shelf", none, ⟨"id", .integer, false⟩, [], [books], []⟩

def book : EntityType :=
  ⟨"book", none, ⟨"id", .integer, false⟩, [⟨"price", .decimal, false⟩], [], []⟩

def api : Api :=
  Api.ofSchema ⟨[book, shelf]⟩ {}

def stocked : Database :=
  ⟨[⟨"book", [⟨"id", .serial⟩, ⟨"price", .decimal⟩], [[0]],
      [[.integer 1, .decimal (.ofInt 1)]], 2⟩,
    ⟨"shelf", [⟨"id", .serial⟩], [[0]], [[.integer 1], [.integer 2]], 3⟩]⟩

def booksOf (owners : List String) : Except MappingError Links :=
  (execute (loadRelation api.schema shelf books owners) ⟨stocked, none, []⟩).1

theorem stocked_filled : Filled api.schema stocked where
  registered := ⟨registeredTables api, registered_of_done (by decide +kernel),
    form?_same (by decide +kernel)⟩
  typed := by decide

end Prices

/-- Where identities are looked for among decimals, a shelf without books can not be loaded together with one
whose identity is a price. -/
theorem prices_fail_batch : Schema.ofTypes [Prices.shelf, Prices.book] = .ok Prices.api.schema ∧
    Prices.api.schema.TablesDistinct ∧ Prices.api.schema.PairsShared ∧
    Prices.api.schema.ColumnsDistinct ∧
    (∀ type ∈ Prices.api.schema.types,
      tableName type ≠ "rel_owner" ∧ tableName type ≠ "rel_link") ∧
    (∀ type ∈ Prices.api.schema.types, type.identity.type.Exact) ∧
    Filled Prices.api.schema Prices.stocked ∧
    Prices.booksOf ["2"] = .ok [] ∧
    Prices.booksOf ["1", "2"] = .error (.unconvertible (.decimal (.ofInt 1)) .integer) :=
  ⟨rfl, by decide +kernel, by decide, by decide +kernel, by decide +kernel, by decide,
    Prices.stocked_filled, by decide +kernel⟩

end ResourceServer
