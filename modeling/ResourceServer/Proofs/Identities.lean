import ResourceServer.Mapping.Link
import ResourceServer.Proofs.Loading
import ResourceServer.Proofs.Spelling

/-! Identities that are told apart by their texts, and databases of resources with such identities. -/

namespace ResourceServer

open ResourceServer.Number ResourceServer.Calendar ResourceServer.Store ResourceServer.Mapping

/-- The types whose values agree only if they are equal, and which read back from their texts. -/
structure FieldType.Exact (type : FieldType) : Prop where
  notDecimal : type ≠ .decimal
  notDuration : type ≠ .duration

instance : DecidablePred FieldType.Exact := fun type =>
  decidable_of_iff (type ≠ .decimal ∧ type ≠ .duration)
    ⟨fun both => ⟨both.1, both.2⟩, fun exact => ⟨exact.notDecimal, exact.notDuration⟩⟩

theorem Store.Cell.agrees_exact {left right : Cell} (one : left.type? ≠ some .decimal)
    (other : right.type? ≠ some .decimal) :
    left.agrees right = true ↔ left = right ∧ left ≠ .null := by
  rw [Cell.agrees_iff]
  constructor
  · rintro (⟨same, given, _⟩ | ⟨decimal, _⟩)
    · exact ⟨same, given⟩
    · exact absurd decimal (not_or.mpr ⟨one, other⟩)
  · rintro ⟨same, given⟩
    exact .inl ⟨same, given, one⟩

theorem takes_whole {type : FieldType} (whole : type ≠ .decimal) {cell : Cell}
    (taken : (columnType type).takes cell) : cell.type? ≠ some .decimal := by
  rcases taken with rfl | kind
  · nofun
  · rw [kind]
    intro decimal
    cases type with
    | decimal => exact whole rfl
    | _ => cases decimal

theorem takes_exact {type : FieldType} (exact : type.Exact) {cell : Cell}
    (taken : (columnType type).takes cell) : cell.type? ≠ some .decimal :=
  takes_whole exact.notDecimal taken

theorem FieldType.stores_reread {type : FieldType} (exact : type.Exact) {cell : Cell}
    (stored : type.stores cell) (given : cell ≠ .null) {value : Value}
    (valued : valueOf type cell = .ok value) :
    type.read? value.text = some value ∧ cellOf value = cell := by
  cases cell with
  | null => exact absurd rfl given
  | text label =>
      cases type with
      | string =>
          cases valued
          exact ⟨rfl, rfl⟩
      | labels allowed =>
          cases valued
          exact ⟨if_pos stored, rfl⟩
      | _ => cases stored
  | integer number =>
      cases type with
      | integer =>
          cases valued
          have storable : isStorable number := stored
          refine ⟨?_, rfl⟩
          unfold FieldType.read? Value.text
          rw [readInteger_text storable, Option.map_some]
      | _ => cases stored
  | bool value =>
      cases type with
      | bool =>
          cases valued
          cases value <;> exact ⟨rfl, rfl⟩
      | _ => cases stored
  | date date =>
      cases type with
      | date =>
          cases valued
          refine ⟨?_, rfl⟩
          unfold FieldType.read? Value.text
          rw [readDate_text, Option.map_some]
      | _ => cases stored
  | timestamp timestamp =>
      cases type with
      | timestamp =>
          cases valued
          refine ⟨?_, rfl⟩
          unfold FieldType.read? Value.text
          rw [readTimestamp_text, Option.map_some]
      | _ => cases stored
  | time time =>
      cases type with
      | time =>
          cases valued
          refine ⟨?_, rfl⟩
          unfold FieldType.read? Value.text
          rw [readTime_text, Option.map_some]
      | _ => cases stored
  | decimal number =>
      cases type with
      | decimal => exact absurd rfl exact.notDecimal
      | _ => cases stored
  | interval duration =>
      cases type with
      | duration => exact absurd rfl exact.notDuration
      | _ => cases stored

/-- A text is how the identity of a type is written that a column holds as a value. -/
structure EntityType.Names (type : EntityType) (text : String) (cell : Cell) : Prop where
  spelled : idCell? type text = some cell
  valued : ∃ value, valueOf type.identity.type cell = .ok value ∧ value.text = text

namespace EntityType.Names

variable {type : EntityType} {text text' : String} {cell cell' : Cell}

theorem cell_eq (one : type.Names text cell) (other : type.Names text cell') : cell = cell' :=
  Option.some.inj (one.spelled.symm.trans other.spelled)

theorem text_eq (one : type.Names text cell) (other : type.Names text' cell) : text = text' := by
  obtain ⟨value, valued, rfl⟩ := one.valued
  obtain ⟨value', valued', rfl⟩ := other.valued
  cases valued.symm.trans valued'
  rfl

theorem kind (named : type.Names text cell) : cell.type? = some (keyType type) := by
  obtain ⟨value, read, rfl⟩ := Option.map_eq_some_iff.mp named.spelled
  exact (FieldType.read_stored read).1

theorem given (named : type.Names text cell) : cell ≠ .null := by
  rintro rfl
  cases named.kind

theorem of_stored (exact : type.identity.type.Exact) (stored : type.identity.type.stores cell)
    (given : cell ≠ .null) {value : Value} (valued : valueOf type.identity.type cell = .ok value) :
    type.Names value.text cell := by
  obtain ⟨reread, same⟩ := FieldType.stores_reread exact stored given valued
  refine ⟨?_, value, valued, rfl⟩
  unfold idCell? EntityType.readId?
  rw [reread, Option.map_some, same]

end EntityType.Names

/-! Literals tell the values of an exact type apart, so a value is fresh if its literal is. -/

theorem quoted_injective {left right : String} (same : "'" ++ left ++ "'" = "'" ++ right ++ "'") :
    left = right := by
  have inner := (String.append_left_inj _).mp same
  exact (String.append_right_inj _).mp inner

theorem minus_ne_numeral (left right : Nat) : "-" ++ left.repr ≠ right.repr := by
  intro same
  have first : '-' ∈ right.repr.toList := by
    rw [← same, String.toList_append]
    exact List.mem_append_left _ (by decide)
  rw [Nat.toList_repr] at first
  exact absurd rfl (digit_marks (digits_isDigit _ '-' first)).1

theorem null_ne_integer (value : Int) : "NULL" ≠ toString value := by
  intro same
  have letter : 'N' ∈ (toString value).toList := by
    rw [← same]
    decide
  have digit {number : Nat} (member : 'N' ∈ number.repr.toList) : False := by
    rw [Nat.toList_repr] at member
    exact absurd (digits_isDigit _ 'N' member) (by decide)
  cases value with
  | ofNat number => exact digit letter
  | negSucc number =>
      change 'N' ∈ ("-" ++ (number + 1).repr).toList at letter
      rw [String.toList_append, List.mem_append] at letter
      exact letter.elim (by decide) digit

theorem null_ne_quoted (text : String) : "NULL" ≠ "'" ++ text ++ "'" := by
  intro same
  have first := congrArg (fun text => text.toList.head?) same
  simp at first

theorem integer_text_injective {left right : Int} (same : toString left = toString right) :
    left = right := by
  cases left with
  | ofNat number =>
      cases right with
      | ofNat number' => exact congrArg Int.ofNat (numeral_injective same)
      | negSucc number' => exact absurd same.symm (minus_ne_numeral _ _)
  | negSucc number =>
      cases right with
      | ofNat number' => exact absurd same (minus_ne_numeral _ _)
      | negSucc number' =>
          have digits : toString (number + 1) = toString (number' + 1) :=
            (String.append_right_inj _).mp same
          have equal := numeral_injective digits
          exact congrArg Int.negSucc (Nat.succ_injective equal)

theorem Calendar.Date.text_injective {left right : Date} (same : left.text = right.text) :
    left = right := by
  have read := readDate_text left
  rw [same, readDate_text] at read
  exact (Option.some.inj read).symm

theorem Calendar.Time.text_injective {left right : Time} (same : left.text = right.text) :
    left = right := by
  have read := readTime_text left
  rw [same, readTime_text] at read
  exact (Option.some.inj read).symm

theorem Calendar.Timestamp.text_injective {separator : String} {left right : Timestamp}
    (same : left.text separator = right.text separator) : left = right := by
  have spans (timestamp : Timestamp) : spanDate? (timestamp.text separator).toList =
      some (timestamp.date, (separator ++ timestamp.time.text).toList) := by
    rw [← spanDate_text timestamp.date, Timestamp.text, String.append_assoc, String.toList_append]
  have here := spans left
  rw [same, spans right] at here
  obtain ⟨date, rest⟩ := Prod.mk.inj (Option.some.inj here)
  have time := Time.text_injective ((String.append_right_inj _).mp (String.toList_inj.mp rest))
  cases left
  cases right
  cases date
  cases time
  rfl

theorem literal_injective {type : FieldType} (exact : type.Exact) {left right : Cell}
    (one : left.type? = some (columnType type)) (other : right.type? = some (columnType type))
    (same : left.literal = right.literal) : left = right := by
  have kinds : left.type? = right.type? := one.trans other.symm
  cases left with
  | null => cases one
  | bool value =>
      cases right with
      | bool value' =>
          cases value <;> cases value' <;> first | rfl | exact absurd same (by decide)
      | _ => cases kinds
  | integer value =>
      cases right with
      | integer value' => exact congrArg Cell.integer (integer_text_injective same)
      | _ => cases kinds
  | text value =>
      cases right with
      | text value' => exact congrArg Cell.text (quoted_injective same)
      | _ => cases kinds
  | date value =>
      cases right with
      | date value' => exact congrArg Cell.date (Date.text_injective (quoted_injective same))
      | _ => cases kinds
  | timestamp value =>
      cases right with
      | timestamp value' =>
          exact congrArg Cell.timestamp (Timestamp.text_injective (quoted_injective same))
      | _ => cases kinds
  | time value =>
      cases right with
      | time value' => exact congrArg Cell.time (Time.text_injective (quoted_injective same))
      | _ => cases kinds
  | decimal value =>
      cases type with
      | decimal => exact absurd rfl exact.notDecimal
      | _ => cases one
  | interval value =>
      cases type with
      | duration => exact absurd rfl exact.notDuration
      | _ => cases one

theorem null_literal {type : FieldType} (exact : type.Exact) {cell : Cell}
    (kind : cell.type? = some (columnType type)) : Cell.null.literal ≠ cell.literal := by
  cases cell with
  | null => cases kind
  | bool value => cases value <;> decide
  | integer value => exact null_ne_integer value
  | decimal value =>
      cases type with
      | decimal => exact absurd rfl exact.notDecimal
      | _ => cases kind
  | _ => exact null_ne_quoted _

/-- Fresh values are those given that are not linked yet, each once. -/
theorem freshCells_spec {type : FieldType} (exact : type.Exact) {linked cells : List Cell}
    (one : ∀ cell ∈ linked, (columnType type).takes cell)
    (other : ∀ cell ∈ cells, cell.type? = some (columnType type)) :
    (freshCells (linked.map Cell.literal) cells).Nodup ∧
      ∀ cell, cell ∈ freshCells (linked.map Cell.literal) cells ↔ cell ∈ cells ∧ cell ∉ linked := by
  induction cells generalizing linked with
  | nil => simp [freshCells]
  | cons first rest ih =>
      have kind := other first List.mem_cons_self
      have others : ∀ cell ∈ rest, cell.type? = some (columnType type) := fun cell member =>
        other cell (List.mem_cons_of_mem _ member)
      have known : (linked.map Cell.literal).contains first.literal = true ↔ first ∈ linked := by
        rw [List.contains_iff_mem]
        constructor
        · intro member
          obtain ⟨cell, inside, same⟩ := List.mem_map.mp member
          rcases one cell inside with rfl | kind'
          · exact absurd same (null_literal exact kind)
          · exact literal_injective exact kind' kind same ▸ inside
        · exact List.mem_map_of_mem
      unfold freshCells
      by_cases old : first ∈ linked
      · rw [if_pos (known.mpr old)]
        obtain ⟨distinct, members⟩ := ih one others
        refine ⟨distinct, fun cell => ?_⟩
        rw [members, List.mem_cons]
        constructor
        · rintro ⟨inside, fresh⟩
          exact ⟨.inr inside, fresh⟩
        · rintro ⟨rfl | inside, fresh⟩
          · exact absurd old fresh
          · exact ⟨inside, fresh⟩
      · rw [if_neg (mt known.mp old)]
        have more : ∀ cell ∈ first :: linked, (columnType type).takes cell := by
          intro cell member
          rcases List.mem_cons.mp member with rfl | inside
          · exact .inr kind
          · exact one cell inside
        obtain ⟨distinct, members⟩ := ih more others
        rw [List.map_cons] at distinct members
        refine ⟨List.nodup_cons.mpr ⟨fun again => ?_, distinct⟩, fun cell => ?_⟩
        · exact ((members first).mp again).2 List.mem_cons_self
        · rw [List.mem_cons, members, List.mem_cons, List.mem_cons, not_or]
          constructor
          · rintro (rfl | ⟨inside, _, fresh⟩)
            · exact ⟨.inl rfl, old⟩
            · exact ⟨.inr inside, fresh⟩
          · rintro ⟨rfl | inside, fresh⟩
            · exact .inl rfl
            · by_cases same : cell = first
              · exact .inl same
              · exact .inr ⟨inside, same, fresh⟩

end ResourceServer
