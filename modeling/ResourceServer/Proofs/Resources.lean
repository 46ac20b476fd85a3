import ResourceServer.Proofs.Targets

/-! Creating and changing resources keeps what changes preserve. -/

namespace ResourceServer

open ResourceServer.Store ResourceServer.Mapping ResourceServer.Api

def Fills (fields : List Field) (values : Keyed Value) : Prop :=
  ∀ entry ∈ values, ∃ field ∈ fields, field.name = entry.1 ∧ field.type.stores (cellOf entry.2)

theorem readAttributes_fills {type : EntityType} {data : Json} {values : Keyed Value}
    (read : readAttributes type data = .ok values) : Fills type.attributes values := by
  obtain ⟨members, _, read⟩ := bind_ok read
  intro entry member
  obtain ⟨given, _, one⟩ := mem_of_forall₂ (mapM_forall₂ read).flip member
  unfold readAttribute at one
  dsimp only at one
  split at one
  · cases one
  · rename_i field found
    split at one
    · rename_i value fits
      cases one
      exact ⟨field, List.mem_of_find?_eq_some found, by simpa using List.find?_some found,
        FieldType.ofJson_stores fits⟩
    · cases one

theorem addClientId_fills {type : EntityType} {allowed : Bool} {data : Json}
    {values complete : Keyed Value} (filled : Fills type.attributes values)
    (added : addClientId type allowed data values = .ok complete) : Fills type.fields complete := by
  have before : Fills type.fields values := fun entry member =>
    let ⟨field, own, rest⟩ := filled entry member
    ⟨field, List.mem_cons_of_mem _ own, rest⟩
  unfold addClientId at added
  split at added
  · cases added
    exact before
  · split at added
    · cases added
    · split at added
      · rename_i json _ _ id read
        cases added
        intro entry member
        rcases Keyed.mem_put member with rfl | inside
        · obtain ⟨text, _, read⟩ := Option.bind_eq_some_iff.mp read
          exact ⟨type.identity, List.mem_cons_self, rfl, FieldType.read_stores read⟩
        · exact before entry inside
      · cases added

theorem readRelationships_own {type : EntityType} {data : Json}
    {linkages : List (Relationship × Linkage)}
    (read : readRelationships type data = .ok linkages) :
    ∀ entry ∈ linkages, entry.1 ∈ type.relationships := by
  obtain ⟨members, _, read⟩ := bind_ok read
  intro entry member
  obtain ⟨given, _, one⟩ := mem_of_forall₂ (mapM_forall₂ read).flip member
  unfold readRelationship at one
  dsimp only at one
  split at one
  · cases one
  · rename_i relationship found
    split at one
    · cases one
    · obtain ⟨linkage, _, rfl⟩ := map_ok one
      exact List.mem_of_find?_eq_some found

/-- What a request says of a new resource fills fields of its type, and its links are ones of the type. -/
theorem readCreation_fills {endpoint : Endpoint} {request : Request} {values : Keyed Value}
    {linkages : List (Relationship × Linkage)}
    (read : readCreation endpoint request = .ok (values, linkages)) :
    Fills endpoint.type.fields values ∧
      ∀ entry ∈ linkages, entry.1 ∈ endpoint.type.relationships := by
  obtain ⟨data, _, read⟩ := bind_ok read
  obtain ⟨⟨⟩, _, read⟩ := bind_ok read
  obtain ⟨attributes, given, read⟩ := bind_ok read
  obtain ⟨complete, added, read⟩ := bind_ok read
  obtain ⟨links, linked, read⟩ := bind_ok read
  cases read
  exact ⟨addClientId_fills (readAttributes_fills given) added, readRelationships_own linked⟩

/-- What a request says of an existing resource fills attributes, and its links are ones of the type. -/
theorem readChange_fills {endpoint : Endpoint} {request : Request} {id : String}
    {values : Keyed Value} {linkages : List (Relationship × Linkage)}
    (read : readChange endpoint request id = .ok (values, linkages)) :
    Fills endpoint.type.attributes values ∧
      ∀ entry ∈ linkages, entry.1 ∈ endpoint.type.relationships := by
  obtain ⟨data, _, read⟩ := bind_ok read
  obtain ⟨⟨⟩, _, read⟩ := bind_ok read
  obtain ⟨⟨⟩, _, read⟩ := bind_ok read
  obtain ⟨attributes, given, read⟩ := bind_ok read
  obtain ⟨links, linked, read⟩ := bind_ok read
  cases read
  exact ⟨readAttributes_fills given, readRelationships_own linked⟩

section

variable {schema : Schema} {sound : Prop} {holds : Database → Prop} {before after : Database}
  {type : EntityType} {values : Keyed Value}

def assignments (values : Keyed Value) : List (String × Cell) :=
  values.map fun entry => (columnName entry.1, cellOf entry.2)

theorem zip_assignments (values : Keyed Value) :
    (values.map fun entry => columnName entry.1).zip (values.map fun entry => cellOf entry.2) =
      assignments values :=
  List.zip_map'

theorem assignments_store {fields : List Field} (filled : Fills fields values) :
    ∀ assignment ∈ assignments values, ∃ field ∈ fields,
      assignment.1 = columnName field.name ∧ field.type.stores assignment.2 := by
  intro assignment member
  obtain ⟨entry, given, rfl⟩ := List.mem_map.mp member
  obtain ⟨field, own, named, stored⟩ := filled entry given
  exact ⟨field, own, by rw [named], stored⟩

theorem assignments_fill {fields : List Field} (filled : Fills fields values) :
    ∀ assignment ∈ assignments values, ∃ field ∈ fields,
      assignment.1 = columnName field.name ∧ (columnType field.type).takes assignment.2 := by
  intro assignment member
  obtain ⟨field, own, named, stored⟩ := assignments_store filled assignment member
  exact ⟨field, own, named, FieldType.stores_takes stored⟩

theorem insert_changes (columns : schema.ColumnsDistinct) (known : type ∈ schema.types)
    (laid : Laid schema before) (filled : Fills type.fields values) {returning : Option String}
    {returned : List Cell}
    (run : Insert.run before
      { table := tableName type
        columns := values.map fun entry => columnName entry.1
        rows := [values.map fun entry => cellOf entry.2]
        returning := returning } = .ok (returned, after)) :
    Changes schema sound before after := by
  obtain ⟨definitions, added, found, changed, numbered, _⟩ := insert_run run
  obtain ⟨record, _, one, last, rfl⟩ := List.forall₂_cons_left_iff.mp numbered
  cases last
  dsimp only at one
  rw [zip_assignments] at one
  obtain ⟨definitions', found', laid⟩ := laid.entities type known
  cases found.symm.trans found'
  have serial : ∀ column, (∃ definition ∈ definitions, definition.name = column ∧
      definition.type = .serial) → ∃ field ∈ type.fields,
        columnName field.name = column ∧ field.type = .integer := by
    rintro column ⟨definition, member, rfl, numbers⟩
    obtain ⟨field, own, named, _, whole⟩ := serial_column laid member numbers
    exact ⟨field, own, named, whole⟩
  refine .create known (fun field own => ?_) (fun column apart => ?_) changed
  · rcases one (columnName field.name) with same | ⟨_, ⟨number, same⟩, numbers⟩
    · rw [same]
      refine Record.assign_cases _ (.inl rfl) fun assignment given named => ?_
      obtain ⟨field', own', named', taken⟩ := assignments_fill filled assignment given
      obtain rfl := same_field columns known own own' (named.symm.trans named')
      exact taken
    · obtain ⟨field', own', named', whole⟩ := serial _ numbers
      obtain rfl := same_field columns known own own' named'.symm
      rw [same, whole]
      exact .inr rfl
  · rcases one column with same | ⟨_, _, numbers⟩
    · rw [same]
      refine Record.assign_other _ fun assignment given named => ?_
      obtain ⟨field, own, named', _⟩ := assignments_fill filled assignment given
      exact apart field own (named'.symm.trans named)
    · obtain ⟨field, own, named, _⟩ := serial column numbers
      exact absurd named (apart field own)

/-- The text of a value spells a value that reads back from its own text. -/
def EntityType.Settles (type : EntityType) (value : Value) : Prop :=
  ∀ given, type.readId? value.text = some given → type.readId? given.text = some given

theorem readBack_same {text : String} {resource : Instance} {connection reached : Connection}
    (run : execute (readBack type text) connection = (.ok resource, reached)) :
    reached.database = connection.database := by
  obtain ⟨resources, middle, found, run⟩ := execute_bind_ok run
  cases resources with
  | nil => cases run
  | cons first rest =>
      cases run
      exact get_same found

theorem readBack_present {text : String} {resource : Instance} {connection reached : Connection}
    (wide : connection.database.Wide)
    (settled : type.identity.type = .duration →
      ∀ given, type.readId? text = some given → type.readId? given.text = some given)
    (run : execute (readBack type text) connection = (.ok resource, reached)) :
    ∀ cell, idCell? type resource.id = some cell → Present connection.database type cell := by
  obtain ⟨resources, middle, found, run⟩ := execute_bind_ok run
  cases resources with
  | nil => cases run
  | cons first rest =>
      cases run
      intro cell reread
      obtain ⟨record, identified, agrees⟩ := get_run wide found resource List.mem_cons_self
      exact present_settled settled identified agrees reread

variable (invariant : Invariant schema sound holds) (known : type ∈ schema.types)
include invariant known

theorem insert_ready (named : Prop) (filled : Fills type.fields values)
    (settles : sound → named → type.identity.type = .duration →
      ∀ value, values.get? type.identity.name = some value → type.Settles value) :
    Establishes (fun connection => Ready schema sound holds (fun _ _ => False) connection.database)
      (Mapping.insert type values)
      fun resource connection =>
        Ready schema sound holds
          (fun other cell => named ∧ other = type ∧ idCell? type resource.id = some cell)
          connection.database := by
  refine ⟨fun {connection after resource} ready run => ?_⟩
  unfold Mapping.insert at run
  obtain ⟨⟨⟩, checked, fine, run⟩ := execute_bind_ok run
  rw [execute_ofExcept] at fine
  obtain rfl := congrArg Prod.snd fine
  dsimp only at run
  split at run
  · cases run
  · rename_i identified
    obtain ⟨returned, written, inserted, run⟩ := execute_bind_ok run
    have made : Ready schema sound holds (fun _ _ => False) written.database :=
      ready.changes invariant (insert_changes invariant.columns known ready.laid
        (fun entry member => filled entry (List.mem_filter.mp member).1)
        (execute_insert_ok inserted)) (insert_refills (execute_insert_ok inserted))
    have finish : ∀ text : String, (sound → named → type.identity.type = .duration →
        ∀ given, type.readId? text = some given → type.readId? given.text = some given) →
          execute (readBack type text) written = (.ok resource, after) →
          Ready schema sound holds
            (fun other cell => named ∧ other = type ∧ idCell? type resource.id = some cell)
            after.database := by
      intro text settled run
      have same := readBack_same run
      rw [same]
      refine ⟨made.laid, made.held, ?_⟩
      rintro holds other _ cell ⟨named, rfl, reread⟩
      exact readBack_present made.laid.wide (settled holds named) run cell reread
    split at run
    · rename_i value given
      obtain ⟨found, _⟩ := Option.filter_eq_some_iff.mp given
      exact finish value.text (fun sound named temporal =>
        settles sound named temporal value found) run
    · rename_i cell rest none
      have whole : type.identity.type = .integer := by
        by_contra other
        exact identified ⟨by rw [none]; rfl, other⟩
      obtain ⟨text, middle, read, run⟩ := execute_bind_ok run
      rw [map_eq_pure_bind] at read
      obtain ⟨value, reached, valued, read⟩ := execute_bind_ok read
      rw [execute_ofExcept] at valued
      cases read
      obtain rfl := congrArg Prod.snd valued
      exact finish value.text (fun _ _ temporal => by rw [whole] at temporal; cases temporal) run
    · cases run

theorem assign_present {cell : Cell} (filled : Fills type.attributes values)
    (changed : Rewrites before after (tableName type)
      ((before.records (tableName type)).map fun record =>
        if (record (idName type)).agrees cell then record.assign (assignments values) else record))
    (found : 0 < (before.records (tableName type)).countP fun record =>
      (record (idName type)).agrees cell) : Present after type cell := by
  obtain ⟨record, member, agrees⟩ := List.countP_pos_iff.mp found
  have kept : record.assign (assignments values) (idName type) = record (idName type) := by
    apply Record.assign_other
    intro assignment given named
    obtain ⟨field, own, named', _⟩ := assignments_fill filled assignment given
    exact attribute_apart invariant.columns known own (named'.symm.trans named)
  refine ⟨record.assign (assignments values), ?_, ?_⟩
  · rw [records_same changed]
    exact List.mem_map.mpr ⟨record, member, if_pos agrees⟩
  · rw [kept]
    exact Cell.agrees_symm agrees

/-- A changed resource is present under the text that names it. -/
theorem update_ready {id : String} (filled : Fills type.attributes values) :
    Establishes (fun connection => Ready schema sound holds (fun _ _ => False) connection.database)
      (Mapping.update type id values)
      fun existed connection => existed →
        Ready schema sound holds (fun other cell => other = type ∧ idCell? type id = some cell)
          connection.database := by
  refine ⟨fun {connection after existed} ready run existing => ?_⟩
  unfold Mapping.update at run
  obtain ⟨⟨⟩, checked, fine, run⟩ := execute_bind_ok run
  rw [execute_ofExcept] at fine
  obtain rfl := congrArg Prod.snd fine
  split at run
  · obtain ⟨resources, reached, found, run⟩ := execute_bind_ok run
    cases run
    obtain ⟨resource, member⟩ : ∃ resource, resource ∈ resources := by
      apply List.exists_mem_of_ne_nil
      rintro rfl
      cases existing
    rw [get_same found]
    refine ⟨ready.laid, ready.held, ?_⟩
    rintro _ other _ cell ⟨rfl, read⟩
    exact get_present ready.laid.wide found member cell read
  · split at run
    · cases run
      cases existing
    · rename_i cell read
      obtain ⟨count, reached, changed, run⟩ := execute_bind_ok run
      cases run
      have filling := update_refills (execute_update_ok changed)
      obtain ⟨changed, counted⟩ := update_run ready.laid.wide
        (idColumn_tests ready.laid.wide type cell) (execute_update_ok changed)
      have found : 0 < count := of_decide_eq_true existing
      rw [counted] at found
      have made := ready.changes invariant (.assign known (assignments_fill filled) changed)
        filling
      refine ⟨made.laid, made.held, ?_⟩
      rintro _ other _ cell' ⟨rfl, read'⟩
      cases read.symm.trans read'
      exact assign_present invariant known filled changed found

end

end ResourceServer
