import Mathlib.Data.List.TakeDrop
import ResourceServer.Proofs.Decimals
import ResourceServer.Number.Reading

/-! Numbers read back from their own texts. -/

namespace ResourceServer.Number

theorem numeral_eq (start : Nat) (digits : List Char) :
    numeral start digits = Nat.ofDigitChars 10 digits start :=
  Nat.ofDigitChars_eq_foldl.symm

theorem numeral_digits (number : Nat) : numeral 0 (Nat.toDigits 10 number) = number := by
  rw [numeral_eq, Nat.ofDigitChars_ten_toDigits]

theorem numeral_append (start : Nat) (digits others : List Char) :
    numeral start (digits ++ others) = numeral (numeral start digits) others := by
  rw [numeral_eq, numeral_eq, numeral_eq, Nat.ofDigitChars_append]

theorem numeral_zeros (start count : Nat) :
    numeral start (List.replicate count '0') = 10 ^ count * start := by
  rw [numeral_eq, Nat.ofDigitChars_replicate_zero]

theorem digits_isDigit (number : Nat) : ∀ digit ∈ Nat.toDigits 10 number, digit.isDigit :=
  fun _ member => Nat.isDigit_of_mem_toDigits (by decide) (by decide) member

theorem zeros_isDigit (count : Nat) : ∀ digit ∈ List.replicate count '0', digit.isDigit := by
  intro digit member
  rw [List.eq_of_mem_replicate member]
  rfl

theorem spanDigits_append {digits rest : List Char} (each : ∀ digit ∈ digits, digit.isDigit)
    (stops : ∀ mark ∈ rest.head?, mark.isDigit = false) :
    spanDigits (digits ++ rest) = (digits, rest) := by
  unfold spanDigits
  rw [List.span_eq_takeWhile_dropWhile, List.takeWhile_append_of_pos each,
    List.dropWhile_append_of_pos each]
  cases rest with
  | nil => simp
  | cons mark others =>
      have stopped := stops mark rfl
      rw [List.takeWhile_cons_of_neg (by simp [stopped]), List.dropWhile_cons_of_neg (by simp [stopped]),
        List.append_nil]

theorem spanDigits_all {digits : List Char} (each : ∀ digit ∈ digits, digit.isDigit) :
    spanDigits digits = (digits, []) := by
  have nothing : ∀ mark ∈ ([] : List Char).head?, mark.isDigit = false := nofun
  have spanned := spanDigits_append each nothing
  rwa [List.append_nil] at spanned

def signed (negative : Bool) (body : List Char) : List Char :=
  if negative then '-' :: body else body

theorem digit_marks {digit : Char} (given : digit.isDigit) :
    digit ≠ '-' ∧ digit ≠ '+' ∧ digit.toLower ≠ 'i' ∧ digit.toLower ≠ 'n' := by
  have range := Char.isDigit_iff_toNat.mp given
  have lower : digit.toLower = digit := by
    unfold Char.toLower
    rw [dif_neg]
    rintro ⟨least, _⟩
    have : 'A'.toNat ≤ digit.toNat := least
    have := range.2
    simp at *
    omega
  rw [lower]
  refine ⟨?_, ?_, ?_, ?_⟩
  all_goals
    rintro rfl
    cases given

theorem spanSign_signed (negative : Bool) {body : List Char}
    (starts : ∀ mark ∈ body.head?, mark ≠ '-' ∧ mark ≠ '+') :
    spanSign (signed negative body) = (negative, body) := by
  cases negative with
  | true => rfl
  | false =>
      cases body with
      | nil => rfl
      | cons mark rest =>
          obtain ⟨minus, plus⟩ := starts mark rfl
          unfold signed spanSign
          split
          · rename_i same
            cases same
            exact absurd rfl minus
          · rename_i same
            cases same
            exact absurd rfl plus
          · rfl

theorem head_mem {α : Type} {items rest : List α} {item : α} (given : items ≠ [])
    (first : item ∈ (items ++ rest).head?) : item ∈ items := by
  cases items with
  | nil => exact absurd rfl given
  | cons other others =>
      cases first
      exact List.mem_cons_self

theorem readInteger_toString (value : Int) :
    readInteger? (toString value) = if isStorable value then some value else none := by
  have spelled : (toString value).toList =
      signed (decide (value < 0)) (Nat.toDigits 10 value.natAbs) := by
    cases value with
    | ofNat number =>
        change number.repr.toList = _
        rw [Nat.toList_repr]
        rfl
    | negSucc number =>
        change ("-" ++ (number + 1).repr).toList = _
        have minus : "-".toList = ['-'] := by decide
        have below : decide (Int.negSucc number < 0) = true :=
          decide_eq_true (Int.negSucc_lt_zero number)
        rw [String.toList_append, Nat.toList_repr, minus, below]
        rfl
  have starts : ∀ mark ∈ (Nat.toDigits 10 value.natAbs).head?, mark ≠ '-' ∧ mark ≠ '+' := by
    intro mark first
    have digit := digits_isDigit _ mark (List.mem_of_mem_head? first)
    exact ⟨(digit_marks digit).1, (digit_marks digit).2.1⟩
  unfold readInteger?
  rw [spelled, spanSign_signed _ starts]
  dsimp only
  rw [spanDigits_all (digits_isDigit _)]
  have present : (Nat.toDigits 10 value.natAbs).isEmpty = false := by
    simp
  dsimp only
  rw [present, numeral_digits]
  have signed_eq : (if decide (value < 0) = true then -(value.natAbs : Int) else value.natAbs) =
      value := by
    simp only [decide_eq_true_eq]
    split <;> omega
  rw [signed_eq]
  rfl

theorem readInteger_text {value : Int} (storable : isStorable value) :
    readInteger? (toString value) = some value := by
  rw [readInteger_toString, if_pos storable]

namespace Binary64

section

variable {digits magnitude : Nat} {power : Int}

theorem digits_bounds (positive : 0 < digits) :
    (10 : ℚ) ^ (((Nat.toDigits 10 digits).length : Int) - 1) ≤ digits ∧
      (digits : ℚ) < 10 ^ ((Nat.toDigits 10 digits).length : Int) := by
  have length : 0 < (Nat.toDigits 10 digits).length := Nat.length_toDigits_pos
  constructor
  · have same : ((Nat.toDigits 10 digits).length : Int) - 1 =
        (((Nat.toDigits 10 digits).length - 1 : Nat) : Int) := by omega
    have below : 10 ^ ((Nat.toDigits 10 digits).length - 1) ≤ digits := by
      rcases Nat.eq_zero_or_pos ((Nat.toDigits 10 digits).length - 1) with zero | more
      · rw [zero]
        exact positive
      · by_contra less
        have := (Nat.length_toDigits_le_iff (by decide) more).mpr (not_le.mp less)
        omega
    rw [same, zpow_natCast]
    exact_mod_cast below
  · have above := (Nat.length_toDigits_le_iff (by decide) length).mp (le_refl (Nat.toDigits 10 digits).length)
    rw [zpow_natCast]
    exact_mod_cast above

theorem size_le {limit top : Nat} (natural : 8 * leadingBit * 2 ^ top < 10 ^ limit)
    (bounded : exponent magnitude - 2 ≤ top) (positive : 0 < digits)
    (inside : Shortest.Within magnitude (digits * 10 ^ power)) :
    ((Nat.toDigits 10 digits).length : Int) + power ≤ limit := by
  obtain ⟨_, high, _⟩ := Shortest.within_bounds inside
  obtain ⟨_, _, most, _⟩ := magnitude_parts magnitude
  have tens : (0 : ℚ) < 10 ^ power := by positivity
  have factor : (4 * significand magnitude + 2 : ℚ) ≤ 8 * leadingBit := by
    have most : (significand magnitude + 1 : ℚ) ≤ 2 * leadingBit := by exact_mod_cast most
    linarith
  have natural : (8 * leadingBit * 2 ^ (top : Int) : ℚ) < 10 ^ (limit : Int) := by
    rw [zpow_natCast, zpow_natCast]
    exact_mod_cast natural
  have less : (10 : ℚ) ^ (((Nat.toDigits 10 digits).length : Int) - 1 + power) < 10 ^ (limit : Int) :=
    calc (10 : ℚ) ^ (((Nat.toDigits 10 digits).length : Int) - 1 + power)
        = 10 ^ (((Nat.toDigits 10 digits).length : Int) - 1) * 10 ^ power :=
          zpow_add₀ (by norm_num) _ _
      _ ≤ digits * 10 ^ power := mul_le_mul_of_nonneg_right (digits_bounds positive).1 tens.le
      _ ≤ (4 * significand magnitude + 2) * 2 ^ (exponent magnitude - 2) := high
      _ ≤ 8 * leadingBit * 2 ^ (top : Int) :=
          mul_le_mul factor (zpow_le_zpow_right₀ (by norm_num) bounded) (by positivity)
            (by positivity)
      _ < 10 ^ (limit : Int) := natural
  have := (zpow_lt_zpow_iff_right₀ (by norm_num : (1 : ℚ) < 10)).mp less
  omega

theorem size_ge {limit bottom : Nat} (natural : 2 ^ bottom < 2 * 10 ^ limit)
    (bounded : -(bottom : Int) ≤ exponent magnitude - 2) (positive : 0 < digits)
    (given : 0 < magnitude) (inside : Shortest.Within magnitude (digits * 10 ^ power)) :
    -(limit : Int) < ((Nat.toDigits 10 digits).length : Int) + power := by
  obtain ⟨low, _, _⟩ := Shortest.within_bounds inside
  have tens : (0 : ℚ) < 10 ^ power := by positivity
  have lowest : (2 : ℚ) ≤ Shortest.lowEnd magnitude := by
    have significant := Shortest.significand_pos given
    have := Shortest.lowEnd_ge magnitude
    exact_mod_cast (by omega : 2 ≤ Shortest.lowEnd magnitude)
  have natural : (10 : ℚ) ^ (-(limit : Int)) < 2 * 2 ^ (-(bottom : Int)) := by
    have natural : (2 : ℚ) ^ bottom < 2 * 10 ^ limit := by exact_mod_cast natural
    rw [zpow_neg, zpow_neg, zpow_natCast, zpow_natCast, ← div_eq_mul_inv,
      lt_div_iff₀ (by positivity), inv_mul_lt_iff₀ (by positivity), mul_comm]
    exact natural
  have less : (10 : ℚ) ^ (-(limit : Int)) < 10 ^ (((Nat.toDigits 10 digits).length : Int) + power) :=
    calc (10 : ℚ) ^ (-(limit : Int)) < 2 * 2 ^ (-(bottom : Int)) := natural
      _ ≤ Shortest.lowEnd magnitude * 2 ^ (exponent magnitude - 2) :=
          mul_le_mul lowest (zpow_le_zpow_right₀ (by norm_num) bounded) (by positivity)
            (by positivity)
      _ ≤ digits * 10 ^ power := low
      _ < 10 ^ ((Nat.toDigits 10 digits).length : Int) * 10 ^ power :=
          mul_lt_mul_of_pos_right (digits_bounds positive).2 tens
      _ = 10 ^ (((Nat.toDigits 10 digits).length : Int) + power) :=
          (zpow_add₀ (by norm_num) _ _).symm
  exact (zpow_lt_zpow_iff_right₀ (by norm_num : (1 : ℚ) < 10)).mp less

theorem ofDecimal_within (negative : Bool)
    (positive : 0 < digits) (given : 0 < magnitude) (finite : magnitude < infinity)
    (inside : Shortest.Within magnitude (digits * 10 ^ power)) :
    ofDecimal negative digits power = .signed negative magnitude := by
  have bounded := Shortest.exponent_bound finite
  have least := (magnitude_parts magnitude).2.1
  have large : 8 * leadingBit * 2 ^ 969 < 10 ^ 309 := by decide +kernel
  have small : 2 ^ 1076 < 2 * 10 ^ 324 := by decide +kernel
  have most := size_le large (by omega) positive inside
  have least := size_ge small (by omega) positive given inside
  unfold ofDecimal
  dsimp only
  rw [if_neg positive.ne', if_neg (by omega), if_neg (by omega)]
  have rounded := Shortest.magnitudeOfFraction_within given finite (gridParts_pos power)
    (by rw [grid_value]; exact inside)
  unfold gridUnit gridParts at rounded
  unfold ofFraction
  split
  · rename_i whole
    rw [if_neg (by omega), if_neg (by omega)] at rounded
    rw [rounded]
  · rename_i fraction
    rw [if_pos (by omega), if_pos (by omega), Nat.mul_one] at rounded
    rw [rounded]

end

end Binary64

theorem digits_no_word {body : List Char} (given : body ≠ [])
    (starts : ∀ mark ∈ body.head?, mark.toLower ≠ 'i' ∧ mark.toLower ≠ 'n') :
    let word := String.ofList (body.map Char.toLower)
    ¬(word = "inf" ∨ word = "infinity") ∧ word ≠ "nan" := by
  cases body with
  | nil => exact absurd rfl given
  | cons mark rest =>
      obtain ⟨i, n⟩ := starts mark rfl
      have apart (first : Char) (others : List Char) (other : mark.toLower ≠ first) :
          String.ofList ((mark :: rest).map Char.toLower) ≠ String.ofList (first :: others) := by
        intro same
        have spelled := String.ofList_inj.mp same
        exact other (List.cons.inj spelled).1
      have inf := apart 'i' ['n', 'f'] i
      have infinity := apart 'i' ['n', 'f', 'i', 'n', 'i', 't', 'y'] i
      have nan := apart 'n' ['a', 'n'] n
      exact ⟨fun either => either.elim inf infinity, nan⟩

theorem readDecimal_digits (negative : Bool) {whole places rest : List Char} (given : whole ≠ [])
    (digits : ∀ digit ∈ whole, digit.isDigit) (digits' : ∀ digit ∈ places, digit.isDigit)
    (tail : rest = [] ∧ places = [] ∨ rest = '.' :: places) :
    readDecimal? (String.ofList (signed negative (whole ++ rest))) =
      some (Binary64.ofDecimal negative (numeral 0 (whole ++ places)) (-(places.length : Int))) := by
  have starts (mark : Char) (first : mark ∈ (whole ++ rest).head?) :=
    digit_marks (digits mark (head_mem given first))
  have sign := spanSign_signed negative fun mark first => ⟨(starts mark first).1, (starts mark first).2.1⟩
  obtain ⟨noInfinity, noNan⟩ := digits_no_word (by simp [given]) fun mark first =>
    (starts mark first).2.2
  have present : whole.isEmpty = false := by simpa using given
  have stops : ∀ mark ∈ rest.head?, mark.isDigit = false := by
    rcases tail with ⟨rfl, _⟩ | rfl
    · exact nofun
    · intro mark first
      cases first
      rfl
  unfold readDecimal?
  rw [String.toList_ofList, sign]
  dsimp only at noInfinity noNan ⊢
  rw [if_neg noInfinity, if_neg noNan, spanDigits_append digits stops]
  rcases tail with ⟨rfl, rfl⟩ | rfl
  · dsimp only
    rw [present]
    rfl
  · simp only [spanDigits_all digits', present]
    rfl

theorem positional_whole {decimal : Decimal} (whole : 0 ≤ decimal.exponent) :
    decimal.positional.toList =
      Nat.toDigits 10 decimal.digits ++ List.replicate decimal.exponent.toNat '0' := by
  unfold Decimal.positional digitText zeros
  dsimp only
  rw [if_pos whole, String.toList_append, String.toList_ofList, String.toList_ofList]

theorem positional_pointed {decimal : Decimal} (fraction : decimal.exponent < 0) :
    ∃ whole places, decimal.positional.toList = whole ++ '.' :: places ∧ whole ≠ [] ∧
      (∀ digit ∈ whole, digit.isDigit) ∧ (∀ digit ∈ places, digit.isDigit) ∧
      numeral 0 (whole ++ places) = decimal.digits ∧ -(places.length : Int) = decimal.exponent := by
  have each := digits_isDigit decimal.digits
  have length : (digitText decimal.digits).length = (Nat.toDigits 10 decimal.digits).length :=
    String.length_ofList
  have present := Nat.length_toDigits_pos (b := 10) (n := decimal.digits)
  unfold Decimal.positional
  dsimp only
  rw [if_neg (by omega), length]
  split
  · rename_i short
    refine ⟨['0'], List.replicate
      ((-decimal.exponent).toNat - (Nat.toDigits 10 decimal.digits).length) '0' ++
        Nat.toDigits 10 decimal.digits, ?_, by simp, ?_, ?_, ?_, ?_⟩
    · unfold zeros digitText
      simp only [String.toList_append, String.toList_ofList]
      rfl
    · intro digit member
      rw [List.mem_singleton.mp member]
      rfl
    · intro digit member
      rcases List.mem_append.mp member with zero | digit'
      · exact zeros_isDigit _ digit zero
      · exact each digit digit'
    · have zero : numeral 0 ['0'] = 0 := rfl
      rw [numeral_append, numeral_append, zero, numeral_zeros, Nat.mul_zero, numeral_digits]
    · rw [List.length_append, List.length_replicate]
      omega
  · rename_i long
    unfold digitText
    simp only [String.toList_append, String.toList_ofList, List.append_assoc]
    refine ⟨(Nat.toDigits 10 decimal.digits).take _, (Nat.toDigits 10 decimal.digits).drop _, rfl, ?_,
      fun digit member => each digit (List.mem_of_mem_take member),
      fun digit member => each digit (List.mem_of_mem_drop member), ?_, ?_⟩
    · rw [← List.length_pos_iff, List.length_take]
      omega
    · rw [List.take_append_drop, numeral_digits]
    · rw [List.length_drop]
      omega

theorem readDecimal_positional (negative : Bool) {decimal : Decimal} {magnitude : Nat}
    (positive : 0 < decimal.digits) (given : 0 < magnitude) (finite : magnitude < Binary64.infinity)
    (inside : Shortest.Within magnitude decimal.value) :
    readDecimal? (String.ofList (signed negative decimal.positional.toList)) =
      some (.signed negative magnitude) := by
  by_cases whole : 0 ≤ decimal.exponent
  · have digits : ∀ digit ∈ Nat.toDigits 10 decimal.digits ++
        List.replicate decimal.exponent.toNat '0', digit.isDigit := by
      intro digit member
      rcases List.mem_append.mp member with digit' | zero
      · exact digits_isDigit _ digit digit'
      · exact zeros_isDigit _ digit zero
    have none : ∀ digit ∈ ([] : List Char), digit.isDigit := fun _ member => by cases member
    have read := readDecimal_digits negative (by simp) digits none (.inl ⟨rfl, rfl⟩)
    rw [List.append_nil, numeral_append, numeral_digits, numeral_zeros] at read
    rw [positional_whole whole]
    refine read.trans (congrArg some (Binary64.ofDecimal_within negative
      (Nat.mul_pos (Nat.pow_pos (by decide)) positive) given finite ?_))
    have same : decimal.exponent = (decimal.exponent.toNat : Int) := by omega
    unfold Decimal.value at inside
    rw [same, zpow_natCast] at inside
    have none : (10 : ℚ) ^ (-(([] : List Char).length : Int)) = 1 := zpow_zero 10
    push_cast
    rw [none, mul_one, mul_comm]
    exact inside
  · obtain ⟨whole, places, spelled, present, digits, digits', value, power⟩ :=
      positional_pointed (not_le.mp whole)
    rw [spelled, readDecimal_digits negative present digits digits' (.inr rfl), value, power,
      Binary64.ofDecimal_within negative positive given finite inside]

namespace Binary64

def InUse : Binary64 → Prop
  | .nan => True
  | .signed _ magnitude => magnitude ≤ infinity

theorem text_signed (negative : Bool) (magnitude : Nat) (body : String)
    (same : (if magnitude = 0 then "0" else if magnitude < infinity then
      (shortest .up magnitude).positional else "inf") = body) :
    (text (.signed negative magnitude)) = String.ofList (Number.signed negative body.toList) := by
  unfold text
  dsimp only
  rw [same]
  cases negative with
  | true =>
      rw [if_pos rfl]
      refine String.toList_inj.mp ?_
      rw [String.toList_append, String.toList_ofList, String.toList_ofList]
      rfl
  | false => exact String.ofList_toList.symm

/-- Every double in use reads back from its text. -/
theorem readDecimal_text {value : Binary64} (used : value.InUse) :
    readDecimal? value.text = some value := by
  cases value with
  | nan => decide
  | signed negative magnitude =>
      by_cases zero : magnitude = 0
      · subst zero
        cases negative <;> decide
      · by_cases finite : magnitude < infinity
        · obtain ⟨digits, inside⟩ :=
            Shortest.shortest_within (Nat.pos_of_ne_zero zero) finite .up
          rw [text_signed negative magnitude _ (by rw [if_neg zero, if_pos finite])]
          exact readDecimal_positional negative digits (Nat.pos_of_ne_zero zero) finite inside
        · have top : magnitude = infinity := le_antisymm used (not_lt.mp finite)
          subst top
          cases negative <;> decide +kernel

end Binary64

end ResourceServer.Number
