import ResourceServer.Proofs.IdleLinkage
import ResourceServer.Proofs.Respelling

/-! Changing the attributes of a resource, under any text that spells its identity. Done again, it leaves the resource
as it is. -/

namespace ResourceServer

open ResourceServer.Store ResourceServer.Mapping ResourceServer.Api

/-! What assigning does to a record. -/

namespace Store.Record

variable {assignments : List (String × Cell)} {column : String}

theorem assign_held {record : Record} (held : ∀ assignment ∈ assignments, assignment.2 = record assignment.1) :
    record.assign assignments = record := by
  induction assignments with
  | nil => rfl
  | cons first rest ih =>
      have same : record.set first.1 first.2 = record := by
        funext column
        unfold Record.set
        split
        · next named => rw [named, held first List.mem_cons_self]
        · rfl
      unfold Record.assign
      rw [List.foldl_cons, same]
      exact ih fun assignment member => held assignment (List.mem_cons_of_mem _ member)

theorem assign_column (named : ∃ assignment ∈ assignments, assignment.1 = column) (record other : Record) :
    record.assign assignments column = other.assign assignments column := by
  induction assignments generalizing record other with
  | nil =>
      obtain ⟨_, none, _⟩ := named
      cases none
  | cons first rest ih =>
      by_cases later : ∃ assignment ∈ rest, assignment.1 = column
      · exact ih later _ _
      · have here : first.1 = column := by
          obtain ⟨assignment, member, same⟩ := named
          rcases List.mem_cons.mp member with rfl | inside
          · exact same
          · exact absurd ⟨assignment, inside, same⟩ later
        have kept (record : Record) : (record.set first.1 first.2).assign rest column = first.2 := by
          rw [assign_other _ fun assignment inside same => later ⟨assignment, inside, same⟩, ← here, set_same]
        exact (kept record).trans (kept other).symm

def Holds (record : Record) (assignments : List (String × Cell)) : Prop :=
  ∀ assignment ∈ assignments, record assignment.1 = blank.assign assignments assignment.1

theorem holds_assigned (record : Record) : (record.assign assignments).Holds assignments :=
  fun assignment member => assign_column ⟨assignment, member, rfl⟩ record blank

theorem Holds.assign_eq {record : Record} (holds : record.Holds assignments) :
    record.assign assignments = record := by
  funext column
  by_cases named : ∃ assignment ∈ assignments, assignment.1 = column
  · rw [assign_column named record blank]
    obtain ⟨assignment, member, rfl⟩ := named
    exact (holds assignment member).symm
  · exact assign_other record fun assignment member same => named ⟨assignment, member, same⟩

end Store.Record

/-! Resources under any text that spells their identity. -/

/-- A text spells the identity of a stored resource, though it may not be written so. -/
structure SpellsStored (database : Database) (type : EntityType) (text : String) (cell : Cell) : Prop where
  spelled : idCell? type text = some cell
  present : ∃ record ∈ database.records (tableName type), record (idName type) = cell

section

variable {schema : Schema} {connection after : Connection} {type : EntityType} {id : String} {cell : Cell}

theorem SpellsStored.written {database : Database} (spells : SpellsStored database type id cell)
    (stocked : Stocked schema database) (separate : schema.Separate) (known : type ∈ schema.types) :
    ∃ text value, type.Names text cell ∧ type.readId? id = some value ∧ type.readId? text = some value := by
  obtain ⟨record, inside, rfl⟩ := spells.present
  obtain ⟨resource, read⟩ := stocked.readable known inside
  have named := stocked.names separate known inside read
  obtain ⟨value, reads, same⟩ := Option.map_eq_some_iff.mp spells.spelled
  obtain ⟨value', reads', same'⟩ := Option.map_eq_some_iff.mp named.spelled
  have valued := (FieldType.read_stored reads).2
  have valued' := (FieldType.read_stored reads').2
  rw [same] at valued
  rw [same'] at valued'
  cases valued.symm.trans valued'
  exact ⟨resource.id, value, named, reads, reads'⟩

theorem SpellsStored.found (spells : SpellsStored connection.database type id cell)
    (stocked : Stocked schema connection.database) (separate : schema.Separate) (known : type ∈ schema.types) :
    ∃ resources after, execute (Mapping.get type [id]) connection = (.ok resources, after) ∧ resources ≠ [] ∧
      after.database = connection.database := by
  obtain ⟨text, value, named, read, read'⟩ := spells.written stocked separate known
  obtain ⟨resources, after, done, kept, found⟩ := find_done separate stocked known [text]
  obtain ⟨record, inside, same⟩ := spells.present
  have stored := (stocked.isStored_iff separate known).mpr ⟨record, inside, same ▸ named⟩
  refine ⟨resources, after, ?_, ?_, congrArg Prod.fst kept⟩
  · rw [get_respelled read read', done]
  · rintro rfl
    exact absurd ((found text List.mem_cons_self).mpr stored) List.not_mem_nil

theorem SpellsStored.required (spells : SpellsStored connection.database type id cell)
    (stocked : Stocked schema connection.database) (separate : schema.Separate) (known : type ∈ schema.types) :
    ∃ resource after, execute (requireResource type id) connection = (.ok resource, after) ∧
      after.database = connection.database := by
  obtain ⟨resources, after, done, found, same⟩ := spells.found stocked separate known
  have read : execute (SourceAction.reading (Mapping.get type [id])) connection = (.ok resources, after) := by
    unfold SourceAction.reading
    rw [execute_mapError, done]
    rfl
  refine ⟨resources.getLast found, after, ?_, same⟩
  unfold requireResource
  rw [execute_bind, read]
  dsimp only
  rw [List.getLast?_eq_some_getLast found]
  rfl

theorem Stocked.spells (stocked : Stocked schema connection.database) (separate : schema.Separate)
    (known : type ∈ schema.types) (spelled : idCell? type id = some cell)
    (present : Present connection.database type cell) : SpellsStored connection.database type id cell := by
  obtain ⟨record, inside, agrees⟩ := present
  exact ⟨spelled, record, inside, (agrees_iff_eq (separate.exact type known)
    (stocked.identity_takes known record inside) (idCell_kind spelled)).mp (Cell.agrees_symm agrees)⟩

theorem required_spells {resource : Instance} (separate : schema.Separate)
    (stocked : Stocked schema connection.database) (known : type ∈ schema.types)
    (run : execute (requireResource type id) connection = (.ok resource, after)) :
    ∃ cell, SpellsStored connection.database type id cell ∧ after.database = connection.database := by
  obtain ⟨same, present⟩ := requireResource_run stocked.housed.wide run
  obtain ⟨resources, middle, read, last⟩ := execute_bind_ok run
  have found : resources ≠ [] := by
    rintro rfl
    cases last
  obtain ⟨cell, spelled⟩ := get_spelled found (reading_ok read)
  exact ⟨cell, stocked.spells separate known spelled (present cell spelled), same⟩

end

/-! Changes of attributes. -/

section

variable {schema : Schema} {connection after : Connection} {type : EntityType} {id : String}
  {values : Keyed Value}

theorem update_ok (wide : connection.database.Wide)
    (run : execute (Mapping.update type id values) connection = (.ok true, after)) :
    ∃ cell, idCell? type id = some cell ∧ Present connection.database type cell ∧
      Refills connection.database after.database ∧
        Rewrites connection.database after.database (tableName type)
          ((connection.database.records (tableName type)).map fun record =>
            if (record (idName type)).agrees cell then record.assign (assignments values) else record) := by
  unfold Mapping.update at run
  obtain ⟨⟨⟩, checked, fine, run⟩ := execute_bind_ok run
  rw [execute_ofExcept] at fine
  obtain rfl := congrArg Prod.snd fine
  split at run
  · rename_i empty
    obtain ⟨resources, reached, found, run⟩ := execute_bind_ok run
    obtain ⟨resource, member⟩ : ∃ resource, resource ∈ resources := by
      apply List.exists_mem_of_ne_nil
      rintro rfl
      cases run
    cases congrArg Prod.snd run
    obtain ⟨cell, spelled⟩ := get_spelled (List.ne_nil_of_mem member) found
    refine ⟨cell, spelled, get_present wide found member cell spelled, ?_, ?_⟩
    · rw [get_same found]
      exact .refl _
    · rw [get_same found, List.isEmpty_iff.mp empty]
      refine ⟨fun wide => wide, rfl, ?_⟩
      have same (record : Record) : record.assign (assignments []) = record := rfl
      simp only [same, ite_self, List.map_id', Function.update_eq_self]
  · split at run
    · cases run
    · rename_i cell read
      obtain ⟨count, reached, changed, run⟩ := execute_bind_ok run
      obtain ⟨found, same⟩ := Prod.mk.inj run
      cases same
      have done := execute_update_ok changed
      obtain ⟨rewritten, counted⟩ := update_run wide (idColumn_tests wide type cell) done
      refine ⟨cell, read, ?_, update_refills done, rewritten⟩
      have some : 0 < count := of_decide_eq_true (Except.ok.inj found)
      rw [counted, List.countP_pos_iff] at some
      obtain ⟨record, inside, agrees⟩ := some
      exact ⟨record, inside, Cell.agrees_symm agrees⟩

theorem checkFields_own
    (own : ∀ entry ∈ values, ∃ field ∈ type.fields, field.name = entry.1) : checkFields type values = .ok () := by
  have none : values.find? (fun entry => (type.field? entry.1).isNone) = none := by
    refine List.find?_eq_none.mpr fun entry member => ?_
    obtain ⟨field, inside, named⟩ := own entry member
    have present : (type.field? entry.1).isSome := List.find?_isSome.mpr ⟨field, inside, decide_eq_true named⟩
    simp [Option.isSome_iff_ne_none.mp present]
  unfold checkFields
  rw [none]

/-- Where a resource holds the values of attributes that are set, it and all others stay as they are. -/
theorem update_same (separate : schema.Separate) (stocked : Stocked schema connection.database)
    (known : type ∈ schema.types) (own : ∀ entry ∈ values, ∃ field ∈ type.attributes, field.name = entry.1)
    {cell : Cell} (spells : SpellsStored connection.database type id cell)
    (held : ∀ record ∈ connection.database.records (tableName type), record (idName type) = cell →
      record.assign (assignments values) = record) :
    ∃ after, execute (Mapping.update type id values) connection = (.ok true, after) ∧
      Housed schema after.database ∧ ∀ name, after.database.records name = connection.database.records name := by
  have housed := stocked.housed
  unfold Mapping.update
  rw [checkFields_own fun entry member =>
    (own entry member).imp fun _ ⟨inside, named⟩ => ⟨List.mem_cons_of_mem _ inside, named⟩]
  by_cases empty : values.isEmpty
  · obtain ⟨resources, after, done, found, same⟩ := spells.found stocked separate known
    refine ⟨after, ?_, same ▸ housed, fun _ => same ▸ rfl⟩
    rw [if_pos empty, execute_bind, execute_ofExcept]
    dsimp only
    rw [execute_bind, done]
    dsimp only
    rw [List.isEmpty_eq_false_iff.mpr found]
    rfl
  · obtain ⟨table, keys, found, wide, laid, unique, _⟩ :=
      housed.entity separate.tables separate.keyed known
    have has (field : Field) (own : field ∈ type.fields) : table.Has (columnName field.name) :=
      ⟨_, field_column laid (separate.columns type known) own, rfl⟩
    have exact {record : Record} (inside : record ∈ connection.database.records (tableName type)) :
        (record (idName type)).agrees cell = true ↔ record (idName type) = cell :=
      agrees_iff_eq (separate.exact type known) (stocked.identity_takes known record inside)
        (idCell_kind spells.spelled)
    let statement : Update :=
      { table := tableName type
        assignments := values.map fun entry => (columnName entry.1, cellOf entry.2)
        filters := [hasValue (idColumn type (tableName type)) cell] }
    have decides : Decides connection.database statement.filters statement.table
        fun other => (other (idName type)).agrees cell := by
      refine hasValue_decides housed.wide (fun table' found' => ?_) _
      cases found.symm.trans found'
      exact has type.identity List.mem_cons_self
    have same : (connection.database.records (tableName type)).map (fun other =>
        if (other (idName type)).agrees cell then other.assign statement.assignments
        else other) = connection.database.records (tableName type) := by
      refine (List.map_congr_left fun other inside => ?_).trans (List.map_id' _)
      split
      · next agrees => exact held other inside ((exact inside).mp agrees)
      · rfl
    have written : ∀ assignment ∈ statement.assignments, table.Has assignment.1 := by
      intro assignment assigned
      obtain ⟨entry, given, rfl⟩ := List.mem_map.mp assigned
      obtain ⟨field, own, named⟩ := own entry given
      exact named ▸ has field (List.mem_cons_of_mem _ own)
    obtain ⟨count, database, run⟩ : ∃ count after, statement.run connection.database = .ok (count, after) := by
      refine update_succeeds housed.wide found written decides unique ?_
      rw [← records_of_table found, same, records_of_table found]
      exact (checkUnique_records unique).mp (housed.obeyed _ table found)
    have ⟨changed, counted⟩ := update_run housed.wide decides.tests run
    rw [same] at changed
    obtain ⟨after, done, rfl⟩ := execute_update_done run
    have some : 0 < count := by
      obtain ⟨record, member, itself⟩ := spells.present
      rw [counted, List.countP_pos_iff]
      exact ⟨record, member, (exact member).mpr itself⟩
    refine ⟨after, ?_, housed.refills (update_refills run) changed, fun name => ?_⟩
    · rw [if_neg empty, spells.spelled, execute_bind, execute_ofExcept]
      dsimp only
      rw [execute_bind, done]
      dsimp only
      rw [decide_eq_true some]
      rfl
    · rw [changed.records, Function.update_eq_self]

end

end ResourceServer
