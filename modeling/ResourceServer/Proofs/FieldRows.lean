import ResourceServer.Proofs.Loading
import ResourceServer.Proofs.TieRequests

/-! The values of the fields of stored resources: changes of links leave them as they are, and other changes touch
those of the resources that they name. -/

namespace ResourceServer

open ResourceServer.Store ResourceServer.Mapping ResourceServer.Api

/-- The values of a type's fields in all its stored resources, in the order of storage. -/
def fieldRows (database : Database) (type : EntityType) : List Row :=
  (database.records (tableName type)).map (fieldRow type)

def FieldsAlike (schema : Schema) (before after : Database) : Prop :=
  ∀ type ∈ schema.types, fieldRows after type = fieldRows before type

section

variable {schema : Schema} {before after : Database} {type : EntityType}

theorem fieldRow_set {column : String} (cell : Cell) (record : Record)
    (apart : ∀ field ∈ type.fields, columnName field.name ≠ column) :
    fieldRow type (record.set column cell) = fieldRow type record :=
  List.map_congr_left fun field own => Record.set_other cell (apart field own)

theorem fieldRows_other {records : List Record} {other : EntityType}
    (changed : Rewrites before after (tableName type) records) (tables : schema.TablesDistinct)
    (known : type ∈ schema.types) (known' : other ∈ schema.types) (apart : other ≠ type) :
    fieldRows after other = fieldRows before other := by
  unfold fieldRows
  rw [records_other changed fun same => apart (same_type tables known' known same)]

theorem Relinks.fieldsAlike {sound : Prop} (links : Relinks schema sound before after)
    (tables : schema.TablesDistinct) (keys : schema.KeysApart) : FieldsAlike schema before after := by
  intro type known
  unfold fieldRows
  cases links with
  | @set table column target meets cell refers _ _ changed =>
      by_cases same : tableName type = table
      · subst same
        rw [records_same changed, List.map_map]
        refine List.map_congr_left fun record _ => ?_
        simp only [Function.comp_apply]
        split
        · exact fieldRow_set cell record (keys _ _ target refers type known rfl)
        · rfl
      · rw [records_other changed same]
  | drop used changed => rw [records_other changed (tables.apart type known _ used)]
  | pair used _ _ changed => rw [records_other changed (tables.apart type known _ used)]

theorem fields_invariant (formed : schema.Formed) (tables : schema.TablesDistinct)
    (keys : schema.KeysApart) {holds : Database → Prop}
    (respects : ∀ {before after : Database}, FieldsAlike schema before after → holds before →
      holds after) :
    LinkInvariant schema False holds where
  formed := formed
  tables := tables
  keys := False.elim
  kept _ links _ held := respects (links.fieldsAlike tables keys) held

end

section

variable {schema : Schema} {type : EntityType} {id : String}

theorem fieldRows_assigned {before after : Database} {cell : Cell} {change : Record → Record}
    (changed : Rewrites before after (tableName type) ((before.records (tableName type)).map
      fun record => if (record (idName type)).agrees cell then change record else record)) :
    fieldRows after type = (before.records (tableName type)).map fun record =>
      if (record (idName type)).agrees cell then fieldRow type (change record)
      else fieldRow type record := by
  unfold fieldRows
  rw [records_same changed, List.map_map]
  refine List.map_congr_left fun record _ => ?_
  exact apply_ite (fieldRow type) _ _ _

/-- Deleting a resource leaves out its own fields only. -/
theorem delete_fieldRows (formed : schema.Formed) (tables : schema.TablesDistinct)
    (keys : schema.KeysApart) (known : type ∈ schema.types) {cell : Cell}
    (read : idCell? type id = some cell) {start : Database} (laid : Laid schema start) :
    Yields (· = start) (Mapping.delete schema type id) fun after =>
      (∀ other ∈ schema.types, other ≠ type → fieldRows after other = fieldRows start other) ∧
        fieldRows after type = (fieldRows start type).filter fun row =>
          !(row.headD .null).agrees cell := by
  have invariant : LinkInvariant schema False (FieldsAlike schema start) :=
    fields_invariant formed tables keys fun alike held type known =>
      (alike type known).trans (held type known)
  refine establishes_weaken (delete_leaves invariant known read) ?_ ?_
  · rintro _ rfl
    exact ⟨laid, fun _ _ => rfl, False.elim⟩
  · rintro _ _ ⟨unlinked, _, alike, changed⟩
    refine ⟨fun other known' apart => ?_, ?_⟩
    · rw [fieldRows_other changed tables known known' apart, alike other known']
    · rw [← alike type known]
      unfold fieldRows
      rw [records_same changed, List.filter_map]
      rfl

end

end ResourceServer
