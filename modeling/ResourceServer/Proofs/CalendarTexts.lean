import Mathlib.Data.List.TakeWhile
import ResourceServer.Calendar.Reading
import ResourceServer.Proofs.Numerals

/-! Dates, times and timestamps read back from their own texts. -/

namespace ResourceServer.Calendar

open ResourceServer.Number

structure Spells (width value : Nat) (digits : List Char) : Prop where
  length : digits.length = width
  each : ∀ digit ∈ digits, digit.isDigit
  value : numeral 0 digits = value

theorem padded_toList (width value : Nat) :
    (padded width value).toList =
      List.replicate (width - (Nat.toDigits 10 value).length) '0' ++ Nat.toDigits 10 value := by
  have length : (digitText value).length = (Nat.toDigits 10 value).length := String.length_ofList
  unfold padded
  dsimp only
  rw [length]
  unfold zeros digitText
  rw [String.toList_append, String.toList_ofList, String.toList_ofList]

theorem padded_digits (width value : Nat) :
    (padded width value).toList ≠ [] ∧ (∀ digit ∈ (padded width value).toList, digit.isDigit) ∧
      numeral 0 (padded width value).toList = value := by
  rw [padded_toList]
  refine ⟨by simp, fun digit member => ?_, ?_⟩
  · rcases List.mem_append.mp member with zero | digit'
    · exact zeros_isDigit _ digit zero
    · exact digits_isDigit value digit digit'
  · rw [numeral_append, numeral_zeros, Nat.mul_zero, numeral_digits]

theorem padded_spells {width value : Nat} (positive : 0 < width) (small : value < 10 ^ width) :
    Spells width value (padded width value).toList := by
  obtain ⟨_, digits, numbered⟩ := padded_digits width value
  refine ⟨?_, digits, numbered⟩
  have fits := (Nat.length_toDigits_le_iff (by decide) positive).mpr small
  rw [padded_toList, List.length_append, List.length_replicate]
  omega

theorem digit_not_blank {digit : Char} (given : digit.isDigit) : Text.isBlank digit = false := by
  obtain ⟨least, most⟩ := Char.isDigit_iff_toNat.mp given
  have least : 48 ≤ digit.toNat := least
  have most : digit.toNat ≤ 57 := most
  unfold Text.isBlank Text.inRanges Text.blankRanges
  simp
  omega

theorem skipBlanks_digits {digits : List Char} (rest : List Char) (given : digits ≠ [])
    (each : ∀ digit ∈ digits, digit.isDigit) : skipBlanks (digits ++ rest) = digits ++ rest := by
  cases digits with
  | nil => exact absurd rfl given
  | cons digit others =>
      have stops := digit_not_blank (each digit List.mem_cons_self)
      unfold skipBlanks
      rw [List.cons_append, List.dropWhile_cons_of_neg (by simp [stops])]

theorem readDigits_spells {width value : Nat} {digits : List Char} (rest : List Char)
    (positive : 0 < width) (spelled : Spells width value digits) :
    readDigits? width (digits ++ rest) = some (value, rest) := by
  have taken : (digits ++ rest).take width = digits := by
    rw [← spelled.length, List.take_left]
  have all : digits.takeWhile Char.isDigit = digits := List.takeWhile_eq_self_iff.mpr spelled.each
  have present : digits.isEmpty = false := by
    rw [List.isEmpty_eq_false_iff, ← List.length_pos_iff, spelled.length]
    exact positive
  unfold readDigits?
  rw [taken, all]
  dsimp only
  rw [present, spelled.value, List.drop_left]
  rfl

theorem spells_nonempty {width value : Nat} {digits : List Char} (positive : 0 < width)
    (spelled : Spells width value digits) : digits ≠ [] := by
  rw [← List.length_pos_iff, spelled.length]
  exact positive

theorem readPart_spells {value : Nat} {digits : List Char} (rest : List Char)
    (spelled : Spells 2 value digits) : readPart? (digits ++ rest) = some (value, rest) := by
  unfold readPart?
  rw [skipBlanks_digits rest (spells_nonempty (by decide) spelled) spelled.each,
    readDigits_spells rest (by decide) spelled]

theorem readMark_self (mark : Char) (rest : List Char) : readMark? mark (mark :: rest) = some rest :=
  if_pos rfl

theorem readDigits_signed {digits rest : List Char} (given : digits ≠ [])
    (each : ∀ digit ∈ digits, digit.isDigit)
    (stops : ∀ mark ∈ rest.head?, mark.isDigit = false) :
    readDigits? (digits ++ rest).length (digits ++ rest) = some (numeral 0 digits, rest) := by
  have span := spanDigits_append each stops
  unfold spanDigits at span
  rw [List.span_eq_takeWhile_dropWhile] at span
  have taken : (digits ++ rest).takeWhile Char.isDigit = digits := congrArg Prod.fst span
  have present : digits.isEmpty = false := by simpa using given
  unfold readDigits?
  rw [List.take_length, taken]
  dsimp only
  rw [present, List.drop_left]
  rfl

theorem mark_not_blank {mark : Char} (rest : List Char) (stops : Text.isBlank mark = false) :
    skipBlanks (mark :: rest) = mark :: rest := by
  unfold skipBlanks
  rw [List.dropWhile_cons_of_neg (by simp [stops])]

theorem readYear_text (year : Int) (rest : List Char) :
    readYear? ((Date.yearText year).toList ++ '-' :: rest) = some (year, '-' :: rest) := by
  have stops : ∀ mark ∈ ('-' :: rest).head?, mark.isDigit = false := by
    intro mark first
    cases first
    rfl
  obtain ⟨given, each, value⟩ := padded_digits 4 year.natAbs
  have signed := readDigits_signed given each stops
  rw [value] at signed
  unfold Date.yearText
  split
  · rename_i natural
    have spelled := padded_spells (by decide : 0 < 4) (by omega : year.toNat < 10 ^ 4)
    have read := readDigits_spells ('-' :: rest) (by decide) spelled
    have blank := skipBlanks_digits ('-' :: rest) (spells_nonempty (by decide) spelled) spelled.each
    generalize (padded 4 year.toNat).toList = digits at spelled read blank ⊢
    unfold readYear?
    rw [blank]
    cases digits with
    | nil => cases spelled.length
    | cons digit others =>
        obtain ⟨minus, plus, _, _⟩ := digit_marks (spelled.each digit List.mem_cons_self)
        rw [List.cons_append] at read ⊢
        split
        · rename_i same
          exact absurd (List.cons.inj same).1 minus
        · rename_i same
          exact absurd (List.cons.inj same).1 plus
        · rw [read]
          have whole : (year.toNat : Int) = year := by omega
          rw [Option.map_some]
          dsimp only
          rw [whole]
  · split
    · rename_i negative
      have minus : "-".toList = ['-'] := by decide
      rw [String.toList_append, minus, List.singleton_append, List.cons_append]
      unfold readYear?
      rw [mark_not_blank _ (by decide)]
      have whole : -(year.natAbs : Int) = year := by omega
      simp only [signed, Option.map_some, whole]
    · rename_i large natural
      have plus : "+".toList = ['+'] := by decide
      rw [String.toList_append, plus, List.singleton_append, List.cons_append]
      unfold readYear?
      rw [mark_not_blank _ (by decide)]
      have whole : (year.natAbs : Int) = year := by omega
      simp only [signed, Option.map_some, whole]

theorem daysInMonth_small (year : Int) (month : Nat) : daysInMonth year month < 100 := by
  unfold daysInMonth
  split
  · split <;> decide
  · split <;> decide

theorem spanDate_text (date : Date) (rest : List Char) :
    spanDate? (date.text.toList ++ rest) = some (date, rest) := by
  obtain ⟨year, month, day, valid⟩ := date
  have months : month ≤ 12 := valid.2.2.2.1
  have days : day ≤ daysInMonth year month := valid.2.2.2.2.2
  have short := daysInMonth_small year month
  have hyphen : "-".toList = ['-'] := by decide
  have month_spelled := padded_spells (by decide : 0 < 2) (by omega : month < 10 ^ 2)
  have day_spelled := padded_spells (by decide : 0 < 2) (by omega : day < 10 ^ 2)
  unfold Date.text
  simp only [String.toList_append, hyphen, List.append_assoc, List.cons_append,
    List.nil_append]
  unfold spanDate?
  simp only [Option.bind_eq_bind, readYear_text, readMark_self, readPart_spells _ month_spelled,
    readPart_spells _ day_spelled, Option.bind_some]
  unfold Date.ofParts?
  rw [dif_pos valid]
  rfl

theorem readFraction_text {nanosecond : Nat} (small : nanosecond < 1000000000) :
    readFraction? (Time.fractionText nanosecond).toList = some (nanosecond, []) := by
  have pointed {width value : Nat} (least : 0 < width) (most : width ≤ 9)
      (fits : value < 10 ^ width) :
      readFraction? ("." ++ padded width value).toList = some (value * 10 ^ (9 - width), []) := by
    have spelled := padded_spells least fits
    have point : ".".toList = ['.'] := by decide
    have present : (padded width value).toList.isEmpty = false := by
      simpa using spells_nonempty least spelled
    have kept : (padded width value).toList.take 9 = (padded width value).toList :=
      List.take_of_length_le (spelled.length.trans_le most)
    rw [String.toList_append, point, List.singleton_append]
    unfold readFraction?
    simp only [spanDigits_all spelled.each, present, kept, spelled.value, spelled.length]
    rfl
  unfold Time.fractionText
  split
  · rename_i zero
    subst zero
    decide
  · split
    · rw [pointed (by decide) (by decide) (by omega)]
      have whole : nanosecond / 1000000 * 10 ^ (9 - 3) = nanosecond := by omega
      rw [whole]
    · split
      · rw [pointed (by decide) (by decide) (by omega)]
        have whole : nanosecond / 1000 * 10 ^ (9 - 6) = nanosecond := by omega
        rw [whole]
      · rw [pointed (by decide) (by decide) (by omega)]
        rw [Nat.sub_self, Nat.pow_zero, Nat.mul_one]

theorem spanTime_text (time : Time) : spanTime? time.text.toList = some (time, []) := by
  obtain ⟨hour, minute, second, nanosecond, valid⟩ := time
  have hours : hour < 24 := valid.1
  have minutes : minute < 60 := valid.2.1
  have seconds : second ≤ 60 := valid.2.2.1
  have nanoseconds : nanosecond < 1000000000 := valid.2.2.2
  have colon : ":".toList = [':'] := by decide
  have hour_spelled := padded_spells (by decide : 0 < 2) (by omega : hour < 10 ^ 2)
  have minute_spelled := padded_spells (by decide : 0 < 2) (by omega : minute < 10 ^ 2)
  have second_spelled := padded_spells (by decide : 0 < 2) (by omega : second < 10 ^ 2)
  unfold Time.text
  simp only [String.toList_append, colon, List.append_assoc, List.cons_append,
    List.nil_append]
  unfold spanTime? spanMinute?
  simp only [Option.bind_eq_bind, readPart_spells _ hour_spelled, readPart_spells _ minute_spelled,
    readPart_spells _ second_spelled, readMark_self, readFraction_text nanoseconds, Option.bind_some]
  unfold Time.ofParts?
  rw [dif_pos valid]
  rfl

theorem readDate_text (date : Date) : readDate? date.text.toList = some date := by
  have span := spanDate_text date []
  rw [List.append_nil] at span
  unfold readDate?
  rw [span]
  rfl

theorem readTime_text (time : Time) : readTime? time.text.toList = some time := by
  unfold readTime?
  rw [spanTime_text]
  rfl

/-- Every timestamp reads back from its text. -/
theorem readTimestamp_text (timestamp : Timestamp) :
    readTimestamp? (timestamp.text "T").toList = some timestamp := by
  have mark : "T".toList = ['T'] := by decide
  have span : spanTimestamp? (readMark? 'T') spanTime? (timestamp.text "T").toList =
      some (timestamp, []) := by
    unfold Timestamp.text
    rw [String.toList_append, String.toList_append, mark, List.append_assoc, List.singleton_append]
    unfold spanTimestamp?
    simp only [Option.bind_eq_bind, spanDate_text, readMark_self, spanTime_text, Option.bind_some]
  unfold readTimestamp?
  rw [span]
  rfl

end ResourceServer.Calendar
