import ResourceServer.Proofs.Rounding

/-! The shortest decimal of a double lies in its interval. -/

namespace ResourceServer.Number

def Decimal.value (decimal : Decimal) : ℚ :=
  decimal.digits * 10 ^ decimal.exponent

def gridUnit (power : Int) : Nat :=
  if power < 0 then 1 else Nat.pow 10 power.toNat

def gridParts (power : Int) : Nat :=
  if power < 0 then Nat.pow 10 (-power).toNat else 1

theorem gridParts_pos (power : Int) : 0 < gridParts power := by
  unfold gridParts
  split
  · exact Nat.pow_pos (by decide)
  · decide

theorem grid_power (power : Int) : (gridUnit power / gridParts power : ℚ) = 10 ^ power := by
  unfold gridUnit gridParts
  split
  · have flipped : power = -((-power).toNat : Int) := by omega
    rw [flipped, zpow_neg, zpow_natCast, neg_neg, Int.toNat_natCast]
    dsimp only [Nat.pow_eq]
    rw [Nat.cast_one, Nat.cast_pow, Nat.cast_ofNat, one_div]
  · have same : power = (power.toNat : Int) := by omega
    rw [same, zpow_natCast, Int.toNat_natCast]
    dsimp only [Nat.pow_eq]
    rw [Nat.cast_pow, Nat.cast_ofNat, Nat.cast_one, div_one]

theorem grid_value (digits : Nat) (power : Int) :
    ((digits * gridUnit power : Nat) / gridParts power : ℚ) = digits * 10 ^ power := by
  rw [Nat.cast_mul, mul_div_assoc, grid_power]

theorem tens_twos {whole part : Nat} (positive : whole ≠ 0) (least : 2 ^ whole ≤ 10 ^ part)
    (most : 10 ^ part ≤ 5 * 2 ^ whole) {difference power : Int} (bounded : difference ≤ whole)
    (below : whole * power ≤ part * difference) :
    (10 : ℚ) ^ (power - 1) ≤ 2 ^ (difference - 1) := by
  have least : (2 : ℚ) ^ whole ≤ 10 ^ part := by exact_mod_cast least
  have most : (10 : ℚ) ^ part ≤ 5 * 2 ^ whole := by exact_mod_cast most
  have ten : (10 : ℚ) ≠ 0 := by norm_num
  have two : (2 : ℚ) ≠ 0 := by norm_num
  have parted : ((10 : ℚ) ^ part) ^ difference ≤ (2 ^ whole) ^ difference * 5 ^ whole := by
    by_cases natural : 0 ≤ difference
    · lift difference to Nat using natural
      have exponent : difference ≤ whole := by exact_mod_cast bounded
      simp only [zpow_natCast]
      calc ((10 : ℚ) ^ part) ^ difference ≤ (5 * 2 ^ whole) ^ difference :=
            pow_le_pow_left₀ (by positivity) most _
        _ = (2 ^ whole) ^ difference * 5 ^ difference := by rw [mul_pow, mul_comm]
        _ ≤ (2 ^ whole) ^ difference * 5 ^ whole :=
            mul_le_mul_of_nonneg_left (pow_le_pow_right₀ (by norm_num) exponent) (by positivity)
    · have fives : (1 : ℚ) ≤ 5 ^ whole := one_le_pow₀ (by norm_num)
      have flipped : 0 ≤ -difference := by omega
      calc ((10 : ℚ) ^ part) ^ difference = (((10 : ℚ) ^ part) ^ (-difference))⁻¹ := by
            rw [zpow_neg, inv_inv]
        _ ≤ ((2 ^ whole) ^ (-difference))⁻¹ :=
            inv_anti₀ (by positivity) (zpow_le_zpow_left₀ flipped (by positivity) least)
        _ = (2 ^ whole) ^ difference := by rw [zpow_neg, inv_inv]
        _ ≤ (2 ^ whole) ^ difference * 5 ^ whole := le_mul_of_one_le_right (by positivity) fives
  refine (pow_le_pow_iff_left₀ (by positivity) (by positivity) positive).mp ?_
  calc ((10 : ℚ) ^ (power - 1)) ^ whole = 10 ^ (whole * power - whole) := by
        rw [← zpow_natCast, ← zpow_mul]
        congr 1
        ring
    _ ≤ 10 ^ (part * difference - whole) := zpow_le_zpow_right₀ (by norm_num) (by omega)
    _ = ((10 : ℚ) ^ part) ^ difference / 10 ^ whole := by
        rw [zpow_sub₀ ten, zpow_mul, zpow_natCast, zpow_natCast]
    _ ≤ (2 ^ whole) ^ difference * 5 ^ whole / 10 ^ whole := by gcongr
    _ = (2 ^ (difference - 1)) ^ whole := by
        have tens : (10 : ℚ) ^ whole = 2 ^ whole * 5 ^ whole := by
          rw [← mul_pow]
          norm_num
        have powers : ((2 : ℚ) ^ (difference - 1)) ^ whole = (2 ^ whole) ^ difference / 2 ^ whole := by
          rw [← zpow_natCast, ← zpow_natCast, ← zpow_mul, ← zpow_mul, ← zpow_sub₀ two]
          congr 1
          ring
        rw [tens, powers]
        field_simp

namespace Shortest

open Binary64

section

variable {numerator denominator : Nat}

def reaches (numerator denominator : Nat) (power : Int) : Bool :=
  if power < 0 then decide (denominator ≤ numerator * Nat.pow 10 (-power).toNat)
  else decide (denominator * Nat.pow 10 power.toNat ≤ numerator)

theorem leadingExponent_eq (numerator denominator : Nat) :
    leadingExponent numerator denominator =
      let guess : Int := ((numerator.log2 : Int) - denominator.log2) * 30103 / 100000
      if reaches numerator denominator (guess + 1) then guess + 1
      else if reaches numerator denominator guess then guess else guess - 1 := rfl

theorem reaches_le (positive : 0 < denominator) {power : Int}
    (reached : reaches numerator denominator power) :
    (10 : ℚ) ^ power ≤ numerator / denominator := by
  have given : (0 : ℚ) < denominator := by exact_mod_cast positive
  have given' : (0 : ℚ) < gridParts power := by exact_mod_cast gridParts_pos power
  have crossed : denominator * gridUnit power ≤ numerator * gridParts power := by
    unfold reaches at reached
    unfold gridUnit gridParts
    split at reached
    · rename_i negative
      rw [if_pos negative, if_pos negative, Nat.mul_one]
      exact of_decide_eq_true reached
    · rename_i natural
      rw [if_neg natural, if_neg natural, Nat.mul_one]
      exact of_decide_eq_true reached
  rw [← grid_power, div_le_div_iff₀ given' given, mul_comm]
  exact_mod_cast crossed

theorem leadingExponent_le (positive : 0 < numerator) (positive' : 0 < denominator)
    (bounded : (numerator.log2 : Int) - denominator.log2 ≤ 100000) :
    (10 : ℚ) ^ leadingExponent numerator denominator ≤ numerator / denominator := by
  have below := (fraction_bounds positive positive').1
  rw [leadingExponent_eq]
  dsimp only
  split
  · rename_i reached
    exact reaches_le positive' reached
  · split
    · rename_i reached
      exact reaches_le positive' reached
    · refine le_trans ?_ below.le
      have least : 2 ^ 100000 ≤ 10 ^ 30103 := by decide +kernel
      have most : 10 ^ 30103 ≤ 5 * 2 ^ 100000 := by decide +kernel
      refine tens_twos (by decide) least most bounded ?_
      have := Int.mul_ediv_self_le (x := ((numerator.log2 : Int) - denominator.log2) * 30103)
        (k := 100000) (by decide)
      omega

end

section

variable {tie : Tie} {range : Interval} {magnitude : Nat} {power : Int} {decimal : Decimal}

def gridBelow (range : Interval) (power : Int) : Nat :=
  range.value * gridParts power / (range.denominator * gridUnit power)

theorem onGrid_eq (tie : Tie) (range : Interval) (power : Int) : ∃ prefersUpper : Bool,
    onGrid tie range power =
      let below := gridBelow range power
      let lower := range.contains (below * gridUnit power) (gridParts power) && below != 0
      let upper := range.contains ((below + 1) * gridUnit power) (gridParts power)
      if lower && upper then some ⟨if prefersUpper then below + 1 else below, power⟩
      else if lower then some ⟨below, power⟩
      else if upper then some ⟨below + 1, power⟩
      else none :=
  ⟨_, rfl⟩

theorem onGrid_contains (found : onGrid tie range power = some decimal) :
    decimal.exponent = power ∧ 0 < decimal.digits ∧
      range.contains (decimal.digits * gridUnit power) (gridParts power) := by
  obtain ⟨prefersUpper, same⟩ := onGrid_eq tie range power
  rw [same] at found
  dsimp only at found
  cases upper : range.contains ((gridBelow range power + 1) * gridUnit power) (gridParts power) with
  | true =>
      cases lower : range.contains (gridBelow range power * gridUnit power) (gridParts power) &&
          gridBelow range power != 0 with
      | true =>
          obtain ⟨inside, given⟩ := Bool.and_eq_true_iff.mp lower
          rw [upper, lower] at found
          cases prefersUpper with
          | true =>
              cases found
              exact ⟨rfl, Nat.succ_pos _, upper⟩
          | false =>
              cases found
              exact ⟨rfl, Nat.pos_of_ne_zero (by simpa using given), inside⟩
      | false =>
          rw [upper, lower] at found
          cases found
          exact ⟨rfl, Nat.succ_pos _, upper⟩
  | false =>
      cases lower : range.contains (gridBelow range power * gridUnit power) (gridParts power) &&
          gridBelow range power != 0 with
      | true =>
          obtain ⟨inside, given⟩ := Bool.and_eq_true_iff.mp lower
          rw [upper, lower] at found
          cases found
          exact ⟨rfl, Nat.pos_of_ne_zero (by simpa using given), inside⟩
      | false =>
          rw [upper, lower] at found
          cases found

theorem onGrid_isSome
    (upper : range.contains ((gridBelow range power + 1) * gridUnit power) (gridParts power)) :
    (onGrid tie range power).isSome := by
  obtain ⟨prefersUpper, same⟩ := onGrid_eq tie range power
  rw [same]
  dsimp only
  rw [upper]
  cases range.contains (gridBelow range power * gridUnit power) (gridParts power) &&
    gridBelow range power != 0 <;> rfl

theorem gridUnit_pos (power : Int) : 0 < gridUnit power := by
  unfold gridUnit
  split
  · decide
  · exact Nat.pow_pos (by decide)

theorem grid_next (unit : 0 < range.denominator) (power : Int) :
    (range.value / range.denominator : ℚ) < (gridBelow range power + 1 : Nat) * 10 ^ power ∧
      ((gridBelow range power + 1 : Nat) * 10 ^ power : ℚ) ≤
        range.value / range.denominator + 10 ^ power := by
  have parts := gridParts_pos power
  have places := gridUnit_pos power
  have given : (0 : ℚ) < range.denominator := by exact_mod_cast unit
  have given' : (0 : ℚ) < gridParts power := by exact_mod_cast parts
  have given'' : (0 : ℚ) < gridUnit power := by exact_mod_cast places
  have low : gridBelow range power * (range.denominator * gridUnit power) ≤
      range.value * gridParts power := Nat.div_mul_le_self _ _
  have high : range.value * gridParts power <
      (gridBelow range power + 1) * (range.denominator * gridUnit power) :=
    calc range.value * gridParts power
        < range.denominator * gridUnit power * (gridBelow range power + 1) :=
          Nat.lt_mul_div_succ _ (Nat.mul_pos unit places)
      _ = (gridBelow range power + 1) * (range.denominator * gridUnit power) := Nat.mul_comm _ _
  have low : (gridBelow range power * (range.denominator * gridUnit power) : ℚ) ≤
      range.value * gridParts power := by exact_mod_cast low
  have high : (range.value * gridParts power : ℚ) <
      (gridBelow range power + 1 : Nat) * (range.denominator * gridUnit power) := by
    exact_mod_cast high
  rw [← grid_power]
  constructor
  · rw [← mul_div_assoc, div_lt_div_iff₀ given given']
    linarith
  · have floor : (gridBelow range power : ℚ) * (gridUnit power / gridParts power) ≤
        range.value / range.denominator := by
      rw [← mul_div_assoc, div_le_div_iff₀ given' given]
      linarith
    push_cast
    linarith

theorem onGrid_fine (fine : (10 : ℚ) ^ power < 2 * 2 ^ (exponent magnitude - 2)) :
    (onGrid tie (interval magnitude) power).isSome := by
  obtain ⟨scale, _, value, _, unit, quarter⟩ := interval_units magnitude
  obtain ⟨above, near⟩ := grid_next unit power
  have lowest : (lowEnd magnitude : ℚ) ≤ 4 * significand magnitude := by
    have cases := lowEnd_cases magnitude
    have : lowEnd magnitude ≤ 4 * significand magnitude := by omega
    exact_mod_cast this
  have middle : ((interval magnitude).value / (interval magnitude).denominator : ℚ) =
      4 * significand magnitude * 2 ^ (exponent magnitude - 2) := by
    rw [value, ← quarter]
    push_cast
    ring
  have quarters : (0 : ℚ) < 2 ^ (exponent magnitude - 2) := by positivity
  rw [middle] at above near
  refine onGrid_isSome ((contains_iff (gridParts_pos power)).mpr ?_)
  rw [grid_value]
  have low : (lowEnd magnitude : ℚ) * 2 ^ (exponent magnitude - 2) <
      (gridBelow (interval magnitude) power + 1 : Nat) * 10 ^ power := by
    nlinarith
  have high : ((gridBelow (interval magnitude) power + 1 : Nat) * 10 ^ power : ℚ) <
      (4 * significand magnitude + 2) * 2 ^ (exponent magnitude - 2) := by
    linarith
  unfold Within
  split
  · exact ⟨low.le, high.le⟩
  · exact ⟨low, high⟩

theorem search_found {count step : Nat} (inside : step < count)
    (present : (onGrid tie range (power - step)).isSome) :
    ∃ place, onGrid tie range place = some (search tie range power count) := by
  induction count generalizing power step with
  | zero => omega
  | succ count ih =>
      unfold search
      cases found : onGrid tie range power with
      | some decimal => exact ⟨power, found⟩
      | none =>
          cases step with
          | zero =>
              rw [Nat.cast_zero, sub_zero, found] at present
              cases present
          | succ step =>
              have later : power - (step + 1 : Nat) = power - 1 - step := by
                push_cast
                ring
              rw [later] at present
              exact ih (by omega) present

theorem strip_value (decimal : Decimal) (fuel : Nat) (given : 0 < decimal.digits) :
    0 < (strip decimal fuel).digits ∧ (strip decimal fuel).value = decimal.value := by
  induction fuel generalizing decimal with
  | zero => exact ⟨given, rfl⟩
  | succ fuel ih =>
      unfold strip
      split
      · rename_i trailing
        have whole : decimal.digits = 10 * (decimal.digits / 10) := by omega
        obtain ⟨kept, same⟩ := ih ⟨decimal.digits / 10, decimal.exponent + 1⟩
          (Nat.div_pos (by omega) (by decide))
        refine ⟨kept, same.trans ?_⟩
        have digits : (decimal.digits : ℚ) = 10 * (decimal.digits / 10 : Nat) := by
          exact_mod_cast whole
        unfold Decimal.value
        rw [digits, zpow_add₀ (by norm_num), zpow_one]
        ring
      · exact ⟨given, rfl⟩

theorem exponent_bound (finite : magnitude < infinity) : exponent magnitude ≤ 971 := by
  unfold infinity leadingBit at finite
  unfold exponent leadingBit
  split
  · decide
  · omega

theorem middle_bounds (given : 0 < magnitude) (finite : magnitude < infinity) :
    0 < (interval magnitude).value ∧ 0 < (interval magnitude).denominator ∧
      ((interval magnitude).value / (interval magnitude).denominator : ℚ) <
        8 * leadingBit * 2 ^ (exponent magnitude - 2) ∧
      ((interval magnitude).value.log2 : Int) - (interval magnitude).denominator.log2 ≤ 100000 := by
  obtain ⟨scale, _, value, _, unit, quarter⟩ := interval_units magnitude
  obtain ⟨_, _, most, _⟩ := magnitude_parts magnitude
  have given' : (0 : ℚ) < (interval magnitude).denominator := by exact_mod_cast unit
  have quarters : (0 : ℚ) < 2 ^ (exponent magnitude - 2) := by positivity
  have scaled : 0 < scale := by
    by_contra none
    rw [Nat.eq_zero_of_not_pos none, Nat.cast_zero, zero_div] at quarter
    exact absurd quarter quarters.ne
  have positive : 0 < (interval magnitude).value := by
    rw [value]
    exact Nat.mul_pos (Nat.mul_pos (by decide) (significand_pos given)) scaled
  have less : ((interval magnitude).value / (interval magnitude).denominator : ℚ) <
      8 * leadingBit * 2 ^ (exponent magnitude - 2) := by
    have most : (significand magnitude : ℚ) < 2 * leadingBit := by exact_mod_cast most
    rw [value, Nat.cast_mul, mul_div_assoc, quarter]
    push_cast
    nlinarith
  refine ⟨positive, unit, less, ?_⟩
  have below := (fraction_bounds positive unit).1
  have top : 8 * leadingBit * (2 : ℚ) ^ (exponent magnitude - 2) = 2 ^ (exponent magnitude + 53) := by
    have leading : (8 * leadingBit : ℚ) = 2 ^ (55 : Int) := by norm_num [leadingBit]
    rw [leading, ← zpow_add₀ (by norm_num)]
    congr 1
    ring
  rw [top] at less
  have smaller := (zpow_lt_zpow_iff_right₀ (by norm_num : (1 : ℚ) < 2)).mp (below.trans less)
  have bound := exponent_bound finite
  omega

/-- The shortest decimal has a digit and rounds to its double. -/
theorem shortest_within (given : 0 < magnitude) (finite : magnitude < infinity) (tie : Tie) :
    0 < (shortest tie magnitude).digits ∧ Within magnitude (shortest tie magnitude).value := by
  obtain ⟨positive, unit, less, bounded⟩ := middle_bounds given finite
  have reached := leadingExponent_le positive unit bounded
  unfold shortest
  dsimp only
  generalize leadingExponent _ _ = first at reached ⊢
  have quarters : (0 : ℚ) < 2 ^ (exponent magnitude - 2) := by positivity
  have fine : (10 : ℚ) ^ (first + 1 - (18 : Nat)) < 2 * 2 ^ (exponent magnitude - 2) := by
    have split : (10 : ℚ) ^ first = 10 ^ (17 : Int) * 10 ^ (first + 1 - (18 : Nat)) := by
      rw [← zpow_add₀ (by norm_num)]
      congr 1
      omega
    rw [split] at reached
    norm_num [leadingBit] at reached less ⊢
    linarith
  have searched : ∃ place, onGrid tie (interval magnitude) place =
      some (search tie (interval magnitude) (first + 1) 19) :=
    search_found (by decide) (onGrid_fine fine)
  obtain ⟨place, found⟩ := searched
  obtain ⟨same, digits, inside⟩ := onGrid_contains found
  rw [contains_iff (gridParts_pos place), grid_value] at inside
  have kept := strip_value (search tie (interval magnitude) (first + 1) 19) 20 digits
  refine ⟨kept.1, ?_⟩
  rw [kept.2]
  unfold Decimal.value
  rw [same]
  exact inside

end

end Shortest

end ResourceServer.Number
