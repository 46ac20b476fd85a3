import ResourceServer.Proofs.RoundTrips
import ResourceServer.Proofs.Sheltering

/-! Changing one field of a resource: the resource reads back with the new value of this field, and all else
reads as before. -/

namespace ResourceServer

open ResourceServer.Store ResourceServer.Mapping

def Instance.changed (resource : Instance) (name : String) (value : Value) : Instance :=
  ⟨resource.identifier,
    resource.values.map fun entry => if entry.1 = name then (name, value) else entry⟩

/-- Sessions that some operations have led to, after the tables of a schema have been created. -/
def Store.Sessions.Reached (schema : Schema) (sessions : Sessions) : Prop :=
  ∃ start operations, Sessions.Opened schema start ∧ sessions = start.afterOperations schema operations

section

variable {schema : Schema} {type : EntityType} {field : Field} {value : Value}

theorem Store.Sessions.Reached.laid {sessions : Sessions} (reached : sessions.Reached schema)
    (tables : schema.TablesDistinct) : Laid schema sessions.database := by
  obtain ⟨start, operations, opened, rfl⟩ := reached
  obtain ⟨connection, done, rfl⟩ := opened.registered
  have laid := registered_laid tables done
  have begun : Sessions.Uphold (Layout.Fits connection.database.columns?) ⟨connection.database, []⟩ :=
    ⟨⟨rfl, laid.wide⟩, List.forall_mem_nil _⟩
  have fits := (begun.afterOperations (fits_lasting _) schema operations).database
  exact laid.of_columns fits.columns fits.wide

/-! What the update does to the tables. -/

theorem update_elsewhere {statement : Update} {before after : Database} {count : Nat}
    (run : statement.run before = .ok (count, after)) {name : String} (apart : name ≠ statement.table) :
    after.table? name = before.table? name := by
  obtain ⟨table, here, run⟩ := bind_ok run
  obtain ⟨_, _, run⟩ := bind_ok run
  obtain ⟨_, _, run⟩ := bind_ok run
  obtain ⟨_, _, run⟩ := bind_ok run
  cases run
  have found := table_found here
  have named := Database.table?_name found
  have lookup rows := table?_replace { table with rows := rows } found named name
  exact (lookup _).trans (if_neg apart)

theorem update_sets {id : String} {connection after : Connection} (wide : connection.database.Wide)
    (run : execute (Mapping.update type id [(field.name, value)]) connection = (.ok true, after)) :
    ∃ cell, idCell? type id = some cell ∧
      Rewrites connection.database after.database (tableName type)
        ((connection.database.records (tableName type)).map fun record =>
          if (record (idName type)).agrees cell then record.set (columnName field.name) (cellOf value)
          else record) ∧
      (∃ record ∈ connection.database.records (tableName type), (record (idName type)).agrees cell) ∧
      ∀ name, name ≠ tableName type → after.database.table? name = connection.database.table? name := by
  unfold Mapping.update at run
  obtain ⟨⟨⟩, checked, fine, run⟩ := execute_bind_ok run
  rw [execute_ofExcept] at fine
  obtain rfl := congrArg Prod.snd fine
  rw [if_neg (by simp)] at run
  split at run
  · cases run
  · rename_i cell read
    obtain ⟨count, reached, changed, run⟩ := execute_bind_ok run
    obtain ⟨found, same⟩ := Prod.mk.inj run
    cases same
    have done := execute_update_ok changed
    obtain ⟨rewritten, counted⟩ := update_run wide (idColumn_tests wide type cell) done
    refine ⟨cell, read, rewritten, ?_, fun name apart => update_elsewhere done apart⟩
    have some : 0 < count := of_decide_eq_true (Except.ok.inj found)
    rw [counted, List.countP_pos_iff] at some
    exact some

/-! What is read of a record once a field is set. -/

theorem readFields_changed {fields : List Field} {record : Record} {values : Keyed Value}
    (fits : valueOf field.type (cellOf value) = .ok value)
    (only : ∀ other ∈ fields, columnName other.name = columnName field.name → other = field)
    (read : readFields fields (fields.map fun field => record (columnName field.name)) = .ok values) :
    readFields fields (fields.map fun other =>
        (record.set (columnName field.name) (cellOf value)) (columnName other.name)) =
      .ok (values.map fun entry => if entry.1 = field.name then (field.name, value) else entry) := by
  induction fields generalizing values with
  | nil =>
      cases read
      rfl
  | cons first rest ih =>
      obtain ⟨one, valued, read⟩ := bind_ok read
      obtain ⟨others, later, same⟩ := bind_ok read
      cases same
      obtain ⟨here, behind⟩ := List.forall_mem_cons.mp only
      have remaining := ih behind later
      by_cases same : columnName first.name = columnName field.name
      · obtain rfl := here same
        have now : valueOf first.type ((record.set (columnName first.name) (cellOf value))
            (columnName first.name)) = .ok value := by
          rw [Record.set_same]
          exact fits
        refine bind_of_ok now (bind_of_ok remaining ?_)
        rw [List.map_cons, if_pos rfl]
      · have apart : first.name ≠ field.name := fun named => same (congrArg columnName named)
        have now : valueOf first.type ((record.set (columnName field.name) (cellOf value))
            (columnName first.name)) = .ok one := by
          rw [Record.set_other (cellOf value) same]
          exact valued
        refine bind_of_ok now (bind_of_ok remaining ?_)
        rw [List.map_cons, if_neg apart]

section

variable (columns : schema.ColumnsDistinct) (known : type ∈ schema.types) (own : field ∈ type.attributes)
include columns known own

theorem readRecord_changed (fits : valueOf field.type (cellOf value) = .ok value) {record : Record}
    {resource : Instance} (read : readRecord type record = .ok resource) :
    readRecord type (record.set (columnName field.name) (cellOf value)) =
      .ok (resource.changed field.name value) := by
  have apart := attribute_apart columns known own
  obtain ⟨values, fields, rfl⟩ := map_ok read
  have again := readFields_changed fits (fun other member same =>
    same_field columns known member (List.mem_cons_of_mem _ own) same) fields
  refine (congrArg (Except.map (Instance.ofValues type)) again).trans ?_
  obtain ⟨one, _, fields⟩ := bind_ok fields
  obtain ⟨rest, _, same⟩ := bind_ok fields
  cases same
  have named : type.identity.name ≠ field.name := fun same => apart (congrArg columnName same).symm
  unfold Instance.ofValues Instance.changed Keyed.get?
  simp only [Except.map, List.map_cons, if_neg named, List.lookup_cons_self]

theorem readRecord_value (fits : valueOf field.type (cellOf value) = .ok value) {record : Record}
    {resource : Instance}
    (read : readRecord type (record.set (columnName field.name) (cellOf value)) = .ok resource) :
    resource.get? field.name = some value := by
  obtain ⟨values, fields, rfl⟩ := map_ok read
  have names : (type.fields.map Field.name).Nodup := by
    refine List.Nodup.of_map columnName ?_
    rw [List.map_map]
    exact columns type known
  obtain ⟨held, valued, found⟩ := readFields_get names fields (List.mem_cons_of_mem _ own)
  rw [Record.set_same, fits] at valued
  cases valued
  exact found

end

/-! What is found once records are changed that keep their identities. -/

theorem mapM_map_changed {α β ε : Type} {step : α → Except ε β} {items : List α} {values : List β}
    {change : α → α} {changed : β → β} (run : items.mapM step = .ok values)
    (each : ∀ item ∈ items, ∀ value, step item = .ok value → step (change item) = .ok (changed value)) :
    (items.map change).mapM step = .ok (values.map changed) := by
  induction items generalizing values with
  | nil =>
      cases run
      rfl
  | cons first rest ih =>
      obtain ⟨value, others, one, later, rfl⟩ := mapM_cons_ok run
      obtain ⟨here, behind⟩ := List.forall_mem_cons.mp each
      rw [List.map_cons, List.mapM_cons]
      exact bind_of_ok (here value one) (bind_of_ok (ih later behind) rfl)

theorem foundRecords_changed {before after : Database} {change : Record → Record}
    (records : after.records (tableName type) = (before.records (tableName type)).map change)
    (kept : ∀ record, change record (idName type) = record (idName type)) (cells : List Cell) :
    foundRecords after type cells = (foundRecords before type cells).map change := by
  unfold foundRecords
  rw [records, List.filter_map, stableSort_map]
  simp only [Function.comp_def, kept]

theorem foundRecords_ne_nil {database : Database} {cell : Cell}
    (present : ∃ record ∈ database.records (tableName type), (record (idName type)).agrees cell) :
    foundRecords database type [cell] ≠ [] := by
  obtain ⟨record, member, agree⟩ := present
  have passes : [cell].any (record (idName type)).agrees := by
    rw [List.any_cons, agree, Bool.true_or]
  exact List.ne_nil_of_mem ((stableSort_perm _ _).mem_iff.mpr (List.mem_filter.mpr ⟨member, passes⟩))

theorem found_agree {database : Database} {cell : Cell} {record : Record}
    (found : record ∈ foundRecords database type [cell]) : (record (idName type)).agrees cell := by
  have passed := (List.mem_filter.mp ((stableSort_perm _ _).mem_iff.mp found)).2
  rwa [List.any_cons, List.any_nil, Bool.or_false] at passed

theorem Instance.changed_other (resource : Instance) (value : Value) {name other : String}
    (apart : other ≠ name) : (resource.changed name value).get? other = resource.get? other := by
  unfold Instance.changed Instance.get? Keyed.get?
  induction resource.values with
  | nil => rfl
  | cons entry rest ih =>
      rw [List.map_cons, List.lookup_cons, List.lookup_cons, ih]
      by_cases same : entry.1 = name
      · rw [if_pos same, beq_eq_false_iff_ne.mpr apart, beq_eq_false_iff_ne.mpr (same ▸ apart)]
      · rw [if_neg same]

theorem Store.Sessions.Reached.updated {before after : Sessions} (reached : before.Reached schema)
    {number : Nat} {id : String} {values : Keyed Value} {result : Except MappingError Bool}
    {log : List String}
    (run : before.run number (Mapping.update type id values) = ((result, log), after)) :
    after.Reached schema := by
  obtain ⟨start, operations, opened, rfl⟩ := reached
  refine ⟨start, operations ++ [(number, .update type id values)], opened, ?_⟩
  have kept connection : (execute ((SessionOperation.update type id values).action schema) connection).2 =
      (execute (Mapping.update type id values) connection).2 := by
    unfold SessionOperation.action
    dsimp only
    rw [execute_bind]
    rcases execute (Mapping.update type id values) connection with ⟨_ | _, _⟩ <;> rfl
  have same := congrArg Prod.snd run
  unfold Sessions.afterOperations at same ⊢
  rw [List.foldl_append, List.foldl_cons, List.foldl_nil, (Sessions.operate_eq _ _ _ _).2]
  rw [Sessions.run_eq] at same ⊢
  dsimp only at same ⊢
  rw [kept]
  exact same.symm

theorem Store.Sessions.Reached.reads {sessions : Sessions} (reached : sessions.Reached schema)
    (tables : schema.TablesDistinct) (columns : schema.ColumnsDistinct) (known : type ∈ schema.types)
    (reader : Nat) (ids : List String) :
    (sessions.run reader (Mapping.get type ids)).1.1 =
      (foundRecords sessions.database type (idCells type ids)).mapM (readRecord type) := by
  rw [Sessions.run_eq]
  exact execute_findResources ((reached.laid tables).tabled known) columns known rfl ids

/-- Where no two types share a table and no two fields of a type a column, an update that gives one field of a
resource a value of its type leads to a database in which every session reads the resource with the new value and all
else as before, and the resources of the other types as before. -/
theorem update_changes_one_field {schema : Schema} (tables : schema.TablesDistinct)
    (columns : schema.ColumnsDistinct) {before after : Sessions} (reached : before.Reached schema)
    {type : EntityType} (known : type ∈ schema.types) {field : Field} (own : field ∈ type.attributes)
    {value : Value} (fits : valueOf field.type (cellOf value) = .ok value) {number : Nat} {id : String}
    {log : List String}
    (run : before.run number (Mapping.update type id [(field.name, value)]) = ((.ok true, log), after)) :
    (∀ reader resources, (before.run reader (Mapping.get type [id])).1.1 = .ok resources →
      resources ≠ [] ∧
        (after.run reader (Mapping.get type [id])).1.1 =
          .ok (resources.map (·.changed field.name value)) ∧
        ∀ resource ∈ resources, (resource.changed field.name value).get? field.name = some value ∧
          ∀ name ≠ field.name, (resource.changed field.name value).get? name = resource.get? name) ∧
      (∀ reader resources, (after.run reader (Mapping.get type [id])).1.1 = .ok resources →
        resources ≠ [] ∧ ∀ resource ∈ resources, resource.get? field.name = some value) ∧
      ∀ other ∈ schema.types, other ≠ type →
        after.database.table? (tableName other) = before.database.table? (tableName other) ∧
          ∀ reader ids, (after.run reader (Mapping.get other ids)).1.1 =
            (before.run reader (Mapping.get other ids)).1.1 := by
  have next := reached.updated run
  have database : (execute (Mapping.update type id [(field.name, value)])
      (before.connection number)).2.database = after.database := by
    have same := congrArg (fun outcome => outcome.2.database) run
    rwa [Sessions.run_eq] at same
  have done : execute (Mapping.update type id [(field.name, value)]) (before.connection number) =
      (.ok true, (execute (Mapping.update type id [(field.name, value)]) (before.connection number)).2) := by
    have same := congrArg (fun outcome => outcome.1.1) run
    rw [Sessions.run_eq] at same
    exact Prod.ext same rfl
  obtain ⟨cell, read, rewritten, present, elsewhere⟩ := update_sets (reached.laid tables).wide done
  rw [database] at rewritten elsewhere
  let change (record : Record) : Record :=
    if (record (idName type)).agrees cell then record.set (columnName field.name) (cellOf value)
    else record
  have kept record : change record (idName type) = record (idName type) := by
    unfold change
    split
    · exact Record.set_other _ (attribute_apart columns known own).symm
    · rfl
  have cells : idCells type [id] = [cell] := by
    unfold idCells
    rw [List.filterMap_cons_some read, List.filterMap_nil]
  have changed : foundRecords after.database type [cell] =
      (foundRecords before.database type [cell]).map
        (·.set (columnName field.name) (cellOf value)) := by
    refine (foundRecords_changed (records_same rewritten) kept [cell]).trans ?_
    exact List.map_congr_left fun record found => if_pos (found_agree found)
  have holds resources (after_read : (foundRecords after.database type [cell]).mapM (readRecord type) =
      .ok resources) : resources ≠ [] ∧ ∀ resource ∈ resources, resource.get? field.name = some value := by
    rw [changed] at after_read
    have each := mapM_forall₂ after_read
    constructor
    · rintro rfl
      exact foundRecords_ne_nil present (List.map_eq_nil_iff.mp (List.forall₂_nil_right_iff.mp each))
    · intro resource member
      obtain ⟨record, found, one⟩ := mem_of_forall₂ each.flip member
      obtain ⟨_, _, rfl⟩ := List.mem_map.mp found
      exact readRecord_value columns known own fits one
  refine ⟨fun reader resources before_read => ?_, fun reader resources after_read => ?_,
    fun other known' apart => ?_⟩
  · rw [reached.reads tables columns known, cells] at before_read
    rw [next.reads tables columns known, cells]
    have after_read : (foundRecords after.database type [cell]).mapM (readRecord type) =
        .ok (resources.map (·.changed field.name value)) := by
      rw [changed]
      exact mapM_map_changed before_read fun record _ resource one =>
        readRecord_changed columns known own fits one
    obtain ⟨some, valued⟩ := holds _ after_read
    refine ⟨fun none => some (List.map_eq_nil_iff.mpr none), after_read, fun resource member => ⟨?_, ?_⟩⟩
    · exact valued _ (List.mem_map_of_mem member)
    · exact fun name apart => resource.changed_other value apart
  · rw [next.reads tables columns known, cells] at after_read
    exact holds resources after_read
  · have apart : tableName other ≠ tableName type := fun same =>
      apart (same_type tables known' known same)
    refine ⟨elsewhere _ apart, fun reader ids => ?_⟩
    rw [reached.reads tables columns known', next.reads tables columns known']
    unfold foundRecords
    rw [records_other rewritten apart]
    rfl

end

namespace Shelf

def stockedSessions : Sessions :=
  opened.afterOperations schema stocking

def retitling : (Except MappingError Bool × List String) × Sessions :=
  stockedSessions.run 3 (Mapping.update book "1" [("title", .string "Dusk")])

end Shelf

theorem book_is_retitled :
    Shelf.schema.TablesDistinct ∧ Shelf.schema.ColumnsDistinct ∧
      Shelf.stockedSessions.Reached Shelf.schema ∧ Shelf.book ∈ Shelf.schema.types ∧
      ⟨"title", .string, false⟩ ∈ Shelf.book.attributes ∧
      valueOf .string (cellOf (.string "Dusk")) = .ok (.string "Dusk") ∧
      Shelf.retitling.1.1 = .ok true ∧
      (Shelf.stockedSessions.run 2 (Mapping.get Shelf.book ["1"])).1.1 =
        .ok [⟨⟨"book", "1"⟩, [("id", .integer 1), ("title", .string "Dawn")]⟩] ∧
      (Shelf.retitling.2.run 2 (Mapping.get Shelf.book ["1"])).1.1 =
        .ok [⟨⟨"book", "1"⟩, [("id", .integer 1), ("title", .string "Dusk")]⟩] := by
  have reached : Shelf.stockedSessions.Reached Shelf.schema :=
    ⟨Shelf.opened, Shelf.stocking, Shelf.opened_by_registration, rfl⟩
  have own : ⟨"title", .string, false⟩ ∈ Shelf.book.attributes := List.mem_cons_self
  have known : Shelf.book ∈ Shelf.schema.types := List.mem_cons_of_mem _ List.mem_cons_self
  have found : Shelf.retitling.1.1 = .ok true := by decide +kernel
  have run : Shelf.stockedSessions.run 3 (Mapping.update Shelf.book "1" [("title", .string "Dusk")]) =
      ((.ok true, Shelf.retitling.1.2), Shelf.retitling.2) := by
    unfold Shelf.retitling at found ⊢
    rw [← found]
  have dawn : (Shelf.stockedSessions.run 2 (Mapping.get Shelf.book ["1"])).1.1 =
      .ok [⟨⟨"book", "1"⟩, [("id", .integer 1), ("title", .string "Dawn")]⟩] := by decide +kernel
  obtain ⟨reads, _⟩ := update_changes_one_field Shelf.tablesDistinct Shelf.columnsDistinct reached known
    own rfl run
  exact ⟨Shelf.tablesDistinct, Shelf.columnsDistinct, reached, known, own, rfl, found, dawn,
    (reads 2 _ dawn).2.1⟩

/-! Two types, and two fields of the one, whose names differ only as written. -/

namespace Journal

def post : EntityType :=
  ⟨"BlogPost", none, ⟨"id", .string, false⟩,
    [⟨"fooBar", .string, false⟩, ⟨"foo_bar", .string, false⟩], [], []⟩

def entry : EntityType :=
  ⟨"blog_post", none, ⟨"id", .string, false⟩, [⟨"foo_bar", .string, false⟩], [], []⟩

def schema : Schema := ⟨[post, entry]⟩

def opened : Sessions :=
  (Sessions.fresh.run 0 (register schema)).2

def stocked : Sessions :=
  opened.afterOperations schema [(0, .insert post [("id", .string "p"), ("foo_bar", .string "old")])]

def updating : (Except MappingError Bool × List String) × Sessions :=
  stocked.run 0 (Mapping.update post "p" [("fooBar", .string "new")])

theorem stocked_reached : stocked.Reached schema := by
  have done : (Sessions.fresh.run 0 (register schema)).1.1 = .ok () := by decide +kernel
  refine ⟨opened, _, ⟨0, (Sessions.fresh.run 0 (register schema)).1.2, ?_⟩, rfl⟩
  unfold opened
  rw [← done]

end Journal

/-- Names that differ only as written are those of one table and one column: an update of one field shows in another
field of the resource, and in a resource of another type. -/
theorem respelled_names_change_together :
    Schema.ofTypes [Journal.post, Journal.entry] = .ok Journal.schema ∧
      Journal.stocked.Reached Journal.schema ∧ Journal.updating.1.1 = .ok true ∧
      (Journal.stocked.run 0 (Mapping.get Journal.post ["p"])).1.1 = .ok [⟨⟨"BlogPost", "p"⟩,
        [("id", .string "p"), ("fooBar", .string "old"), ("foo_bar", .string "old")]⟩] ∧
      (Journal.updating.2.run 0 (Mapping.get Journal.post ["p"])).1.1 = .ok [⟨⟨"BlogPost", "p"⟩,
        [("id", .string "p"), ("fooBar", .string "new"), ("foo_bar", .string "new")]⟩] ∧
      (Journal.stocked.run 0 (Mapping.get Journal.entry ["p"])).1.1 =
        .ok [⟨⟨"blog_post", "p"⟩, [("id", .string "p"), ("foo_bar", .string "old")]⟩] ∧
      (Journal.updating.2.run 0 (Mapping.get Journal.entry ["p"])).1.1 =
        .ok [⟨⟨"blog_post", "p"⟩, [("id", .string "p"), ("foo_bar", .string "new")]⟩] :=
  ⟨rfl, Journal.stocked_reached, by decide +kernel⟩

end ResourceServer
