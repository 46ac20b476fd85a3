import ResourceServer.Proofs.Agreement
import ResourceServer.Proofs.CalendarTexts
import ResourceServer.Proofs.Typing
import ResourceServer.Mapping.Layout

/-! Values of fields, their texts and their JSON forms. Only durations may read back from their texts as others. -/

namespace ResourceServer

open ResourceServer.Number ResourceServer.Calendar ResourceServer.Store ResourceServer.Mapping

namespace Number.Binary64

theorem magnitudeOfFraction_le (numerator denominator : Nat) :
    magnitudeOfFraction numerator denominator ≤ infinity := by
  unfold magnitudeOfFraction
  split
  · exact Nat.zero_le _
  · exact Nat.min_le_right _ _

theorem ofDecimal_inUse (negative : Bool) (digits : Nat) (power : Int) :
    (ofDecimal negative digits power).InUse := by
  unfold ofDecimal
  dsimp only
  split
  · exact Nat.zero_le _
  · split
    · exact Nat.le_refl infinity
    · split
      · exact Nat.zero_le _
      · split
        · exact magnitudeOfFraction_le _ _
        · exact magnitudeOfFraction_le _ _

end Number.Binary64

theorem readDigits_inUse {negative : Bool} {whole places rest : List Char} {value : Binary64}
    (read : (if whole.isEmpty && places.isEmpty then none
      else if rest.isEmpty then
        some (Binary64.ofDecimal negative (numeral 0 (whole ++ places)) (-(places.length : Int)))
      else match readExponent? rest with
        | some (exponent, []) =>
          some (Binary64.ofDecimal negative (numeral 0 (whole ++ places)) (exponent - places.length))
        | _ => none) = some value) : value.InUse := by
  split at read
  · cases read
  · split at read
    · cases read
      exact Binary64.ofDecimal_inUse _ _ _
    · split at read
      · cases read
        exact Binary64.ofDecimal_inUse _ _ _
      · cases read

theorem readDecimal_inUse {text : String} {value : Binary64}
    (read : readDecimal? text = some value) : value.InUse := by
  unfold readDecimal? at read
  dsimp only at read
  split at read
  · cases read
    exact Nat.le_refl Binary64.infinity
  · split at read
    · cases read
      trivial
    · split at read
      · exact readDigits_inUse read
      · exact readDigits_inUse read

theorem readInteger_storable {text : String} {value : Int}
    (read : readInteger? text = some value) : isStorable value := by
  unfold readInteger? at read
  dsimp only at read
  split at read
  · cases read
  · generalize (if (spanSign text.toList).1 = true then _ else _ : Int) = number at read
    split at read
    · rename_i storable
      cases read
      exact storable
    · cases read

theorem FieldType.read_bool {text : String} {value : Value}
    (read : FieldType.bool.read? text = some value) : value = .bool true ∨ value = .bool false := by
  unfold FieldType.read? at read
  dsimp only at read
  split at read
  · exact .inl (Option.some.inj read).symm
  · split at read
    · exact .inr (Option.some.inj read).symm
    · cases read

theorem FieldType.read_labels {allowed : List String} {text : String} {value : Value}
    (read : (FieldType.labels allowed).read? text = some value) :
    allowed.contains text ∧ value = .label text := by
  unfold FieldType.read? at read
  dsimp only at read
  split at read
  · rename_i among
    exact ⟨among, (Option.some.inj read).symm⟩
  · cases read

theorem FieldType.read_text {type : FieldType} (whole : type ≠ .duration) {text : String}
    {value : Value} (read : type.read? text = some value) : type.read? value.text = some value := by
  cases type with
  | string =>
      cases read
      rfl
  | integer =>
      obtain ⟨number, found, rfl⟩ := Option.map_eq_some_iff.mp read
      unfold FieldType.read? Value.text
      rw [readInteger_text (readInteger_storable found), Option.map_some]
  | decimal =>
      obtain ⟨number, found, rfl⟩ := Option.map_eq_some_iff.mp read
      unfold FieldType.read? Value.text
      rw [Binary64.readDecimal_text (readDecimal_inUse found), Option.map_some]
  | bool =>
      rcases FieldType.read_bool read with rfl | rfl <;> rfl
  | date =>
      obtain ⟨date, _, rfl⟩ := Option.map_eq_some_iff.mp read
      unfold FieldType.read? Value.text
      rw [readDate_text, Option.map_some]
  | timestamp =>
      obtain ⟨timestamp, _, rfl⟩ := Option.map_eq_some_iff.mp read
      unfold FieldType.read? Value.text
      rw [readTimestamp_text, Option.map_some]
  | time =>
      obtain ⟨time, _, rfl⟩ := Option.map_eq_some_iff.mp read
      unfold FieldType.read? Value.text
      rw [readTime_text, Option.map_some]
  | duration => exact absurd rfl whole
  | labels allowed =>
      obtain ⟨among, rfl⟩ := FieldType.read_labels read
      exact if_pos among

/-- A value that is read of a text is stored as one of its type, and is the value of what is stored. -/
theorem FieldType.read_stored {type : FieldType} {text : String} {value : Value}
    (read : type.read? text = some value) :
    (cellOf value).type? = some (columnType type) ∧ valueOf type (cellOf value) = .ok value := by
  cases type with
  | string =>
      cases read
      exact ⟨rfl, rfl⟩
  | bool =>
      rcases FieldType.read_bool read with rfl | rfl <;> exact ⟨rfl, rfl⟩
  | labels allowed =>
      obtain ⟨_, rfl⟩ := FieldType.read_labels read
      exact ⟨rfl, rfl⟩
  | _ =>
      obtain ⟨given, _, rfl⟩ := Option.map_eq_some_iff.mp read
      exact ⟨rfl, rfl⟩

def FieldType.stores : FieldType → Cell → Bool
  | _, .null => true
  | .string, .text _ => true
  | .labels allowed, .text label => allowed.contains label
  | .integer, .integer value => isStorable value
  | .decimal, .decimal _ => true
  | .bool, .bool _ => true
  | .date, .date _ => true
  | .timestamp, .timestamp _ => true
  | .time, .time _ => true
  | .duration, .interval _ => true
  | _, _ => false

theorem FieldType.stores_takes {type : FieldType} {cell : Cell} (stored : type.stores cell) :
    (columnType type).takes cell := by
  cases type <;> cases cell <;> first | exact .inl rfl | exact .inr rfl | cases stored

theorem FieldType.read_stores {type : FieldType} {text : String} {value : Value}
    (read : type.read? text = some value) : type.stores (cellOf value) := by
  cases type with
  | string =>
      cases read
      rfl
  | bool =>
      rcases FieldType.read_bool read with rfl | rfl <;> rfl
  | labels allowed =>
      obtain ⟨among, rfl⟩ := FieldType.read_labels read
      exact among
  | integer =>
      obtain ⟨number, spelled, rfl⟩ := Option.map_eq_some_iff.mp read
      exact readInteger_storable spelled
  | _ =>
      obtain ⟨given, _, rfl⟩ := Option.map_eq_some_iff.mp read
      rfl

theorem FieldType.ofJson_stores {type : FieldType} {json : Json} {value : Value}
    (given : type.ofJson? json = some value) : type.stores (cellOf value) := by
  unfold FieldType.ofJson? at given
  split at given
  · cases given
    cases type <;> rfl
  · cases given
    rfl
  · cases given
    rfl
  · obtain ⟨number, found, rfl⟩ := Option.map_eq_some_iff.mp given
    unfold Json.integer? at found
    split at found
    · split at found
      · rename_i storable
        cases found
        exact storable
      · cases found
    · cases found
  · obtain ⟨number, _, rfl⟩ := Option.map_eq_some_iff.mp given
    rfl
  · obtain ⟨number, _, rfl⟩ := Option.map_eq_some_iff.mp given
    rfl
  · exact FieldType.read_stores given
  · exact FieldType.read_stores given
  · exact FieldType.read_stores given
  · exact FieldType.read_stores given
  · cases given

theorem Number.Binary64.inUse_of_rank {left right : Binary64} {rank : Int}
    (one : left.rank? = some rank) (other : right.rank? = some rank) (used : right.InUse) :
    left.InUse := by
  have place {value : Binary64} (found : value.rank? = some rank) :
      value.InUse ↔ rank.natAbs ≤ infinity := by
    cases value with
    | nan => cases found
    | signed negative magnitude =>
        cases negative with
        | true =>
            cases found
            rw [Int.natAbs_neg, Int.natAbs_natCast]
            rfl
        | false =>
            cases found
            rw [Int.natAbs_natCast]
            rfl
  exact (place one).mpr ((place other).mp used)

theorem agrees_reread {type : FieldType} (whole : type ≠ .duration) {text : String} {cell : Cell}
    {given value again : Value} (read : type.read? text = some given)
    (agrees : cell.agrees (cellOf given)) (valued : valueOf type cell = .ok value)
    (reread : type.read? value.text = some again) : cell.agrees (cellOf again) := by
  have back := FieldType.read_text whole read
  obtain ⟨kind, stored⟩ := FieldType.read_stored read
  rcases Cell.agrees_iff.mp agrees with ⟨rfl, _, _⟩ | ⟨decimal, rank, one, other⟩
  · cases stored.symm.trans valued
    cases back.symm.trans reread
    exact agrees
  · cases type with
    | decimal =>
        obtain ⟨number, found, rfl⟩ := Option.map_eq_some_iff.mp read
        have used := readDecimal_inUse found
        have same {double : Binary64} (shared : double.rank? = some rank)
            (reread : FieldType.decimal.read? (Value.decimal double).text = some again) :
            cell.agrees (cellOf again) := by
          unfold FieldType.read? Value.text at reread
          rw [Binary64.readDecimal_text (Binary64.inUse_of_rank shared other used)] at reread
          cases reread
          exact Cell.agrees_iff.mpr (.inr ⟨.inr rfl, rank, one, shared⟩)
        cases cell with
        | integer number =>
            cases valued
            exact same one reread
        | decimal double =>
            cases valued
            exact same one reread
        | _ => cases one
    | integer =>
        cases cell with
        | integer number =>
            rcases decimal with here | there
            · cases here
            · cases kind.symm.trans there
        | decimal double => cases valued
        | _ => cases one
    | _ => cases given <;> first | (cases kind; done) | cases other

/-! JSON forms. -/

def FieldType.isTextual : FieldType → Bool
  | .string | .date | .timestamp | .time | .labels _ => true
  | .integer | .decimal | .bool | .duration => false

section

variable {type : FieldType} {text : String} {value : Value}

theorem FieldType.ofJson_string (textual : type.isTextual) (text : String) :
    type.ofJson? (.string text) = type.read? text := by
  cases type <;> first | rfl | cases textual

theorem FieldType.toJson_text (textual : type.isTextual) (read : type.read? text = some value) :
    value.toJson? = some (.string value.text) := by
  cases type with
  | string =>
      cases read
      rfl
  | labels allowed =>
      obtain ⟨_, rfl⟩ := FieldType.read_labels read
      rfl
  | integer => cases textual
  | decimal => cases textual
  | bool => cases textual
  | duration => cases textual
  | _ =>
      obtain ⟨given, _, rfl⟩ := Option.map_eq_some_iff.mp read
      rfl

theorem FieldType.read_toJson (plain : type ≠ .decimal) (whole : type ≠ .duration)
    (read : type.read? text = some value) : value.toJson?.bind type.ofJson? = some value := by
  by_cases textual : type.isTextual
  · rw [FieldType.toJson_text textual read, Option.bind_some, FieldType.ofJson_string textual]
    exact FieldType.read_text whole read
  · cases type with
    | integer =>
        obtain ⟨number, found, rfl⟩ := Option.map_eq_some_iff.mp read
        have kept : (Json.integer number).integer? = some number := if_pos (readInteger_storable found)
        have given : FieldType.integer.ofJson? (.integer number) =
            (Json.integer number).integer?.map .integer := rfl
        rw [Value.toJson?, Option.bind_some, given, kept, Option.map_some]
    | bool =>
        rcases FieldType.read_bool read with rfl | rfl <;> rfl
    | decimal => exact absurd rfl plain
    | duration => exact absurd rfl whole
    | _ => exact absurd rfl textual

/-- A value that is read of some text reads back from the text that is written for it, and from its JSON form, unless it
is a decimal or a duration. -/
theorem printed_value_reads_back (plain : type ≠ .decimal) (whole : type ≠ .duration)
    (read : type.read? text = some value) :
    type.read? value.text = some value ∧ value.toJson?.bind type.ofJson? = some value :=
  ⟨FieldType.read_text whole read, FieldType.read_toJson plain whole read⟩

end

def leapSecond : Timestamp :=
  ⟨⟨12016, 12, 31, by decide⟩, ⟨23, 59, 60, 250000000, by decide⟩⟩

/-- It is read of a text with a blank and written with the mark of a time. -/
theorem leap_second_reads_back :
    FieldType.timestamp ≠ .decimal ∧ FieldType.timestamp ≠ .duration ∧
      FieldType.timestamp.read? "+12016-12-31 23:59:60.25" = some (.timestamp leapSecond) ∧
      (Value.timestamp leapSecond).text = "+12016-12-31T23:59:60.250" ∧
      FieldType.timestamp.read? (Value.timestamp leapSecond).text = some (.timestamp leapSecond) ∧
      (Value.timestamp leapSecond).toJson?.bind FieldType.timestamp.ofJson? = some (.timestamp leapSecond) := by
  have read : FieldType.timestamp.read? "+12016-12-31 23:59:60.25" = some (.timestamp leapSecond) := by
    decide +kernel
  exact ⟨nofun, nofun, read, by decide +kernel, printed_value_reads_back nofun nofun read⟩

end ResourceServer
