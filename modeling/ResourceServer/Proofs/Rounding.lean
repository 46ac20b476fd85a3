import Mathlib.Algebra.Order.Field.Power
import Mathlib.Tactic.FieldSimp
import Mathlib.Tactic.Linarith
import Mathlib.Tactic.Positivity
import Mathlib.Tactic.Ring
import ResourceServer.Number.Shortest

/-! Every fraction in the interval of a double rounds to that double. -/

namespace ResourceServer.Number

namespace Binary64

theorem inUnits_value (numerator : Nat) {denominator : Nat} (positive : 0 < denominator)
    (scale : Int) :
    0 < (inUnits numerator denominator scale).2 ∧
      ((inUnits numerator denominator scale).1 : ℚ) / (inUnits numerator denominator scale).2 =
        numerator / denominator / 2 ^ scale := by
  unfold inUnits
  split
  · rename_i negative
    have flipped : (2 : ℚ) ^ scale = (2 ^ (-scale).toNat)⁻¹ := by
      rw [← zpow_natCast, ← zpow_neg]
      congr 1
      omega
    refine ⟨positive, ?_⟩
    dsimp only [Nat.pow_eq]
    rw [flipped]
    push_cast
    field_simp
  · rename_i natural
    have same : (2 : ℚ) ^ scale = 2 ^ scale.toNat := by
      rw [← zpow_natCast]
      congr 1
      omega
    refine ⟨Nat.mul_pos positive (Nat.pow_pos (by decide)), ?_⟩
    dsimp only [Nat.pow_eq]
    rw [same]
    push_cast
    field_simp

theorem log2_bounds {number : Nat} (positive : 0 < number) :
    (2 : ℚ) ^ (number.log2 : Int) ≤ number ∧ (number : ℚ) < 2 ^ (number.log2 + 1 : Int) := by
  have below := Nat.log2_self_le positive.ne'
  have above := Nat.lt_log2_self (n := number)
  constructor
  · rw [zpow_natCast]
    exact_mod_cast below
  · have whole : (number.log2 + 1 : Int) = ((number.log2 + 1 : Nat) : Int) := by push_cast; rfl
    rw [whole, zpow_natCast]
    exact_mod_cast above

theorem fraction_bounds {numerator denominator : Nat} (positive : 0 < numerator)
    (positive' : 0 < denominator) :
    (2 : ℚ) ^ ((numerator.log2 : Int) - denominator.log2 - 1) < numerator / denominator ∧
      (numerator / denominator : ℚ) < 2 ^ ((numerator.log2 : Int) - denominator.log2 + 1) := by
  obtain ⟨below, above⟩ := log2_bounds positive
  obtain ⟨below', above'⟩ := log2_bounds positive'
  have given : (0 : ℚ) < denominator := by exact_mod_cast positive'
  have two : (2 : ℚ) ≠ 0 := by norm_num
  constructor
  · rw [lt_div_iff₀ given]
    calc (2 : ℚ) ^ ((numerator.log2 : Int) - denominator.log2 - 1) * denominator
        < 2 ^ ((numerator.log2 : Int) - denominator.log2 - 1) * 2 ^ (denominator.log2 + 1 : Int) :=
          mul_lt_mul_of_pos_left above' (by positivity)
      _ = 2 ^ (numerator.log2 : Int) := by
          rw [← zpow_add₀ two]
          congr 1
          omega
      _ ≤ numerator := below
  · rw [div_lt_iff₀ given]
    calc (numerator : ℚ) < 2 ^ (numerator.log2 + 1 : Int) := above
      _ = 2 ^ ((numerator.log2 : Int) - denominator.log2 + 1) * 2 ^ (denominator.log2 : Int) := by
          rw [← zpow_add₀ two]
          congr 1
          omega
      _ ≤ 2 ^ ((numerator.log2 : Int) - denominator.log2 + 1) * denominator :=
          mul_le_mul_of_nonneg_left below' (by positivity)

theorem binaryExponent_bounds {numerator denominator : Nat} (positive : 0 < numerator)
    (positive' : 0 < denominator) :
    (2 : ℚ) ^ binaryExponent numerator denominator ≤ numerator / denominator ∧
      (numerator / denominator : ℚ) < 2 ^ (binaryExponent numerator denominator + 1) := by
  obtain ⟨below, above⟩ := fraction_bounds positive positive'
  unfold binaryExponent
  generalize (numerator.log2 : Int) - denominator.log2 = guess at below above
  obtain ⟨unit, scaled⟩ := inUnits_value numerator positive' guess
  dsimp only
  have given : (0 : ℚ) < (inUnits numerator denominator guess).2 := by exact_mod_cast unit
  have power : (0 : ℚ) < 2 ^ guess := by positivity
  split
  · rename_i less
    have less : ((inUnits numerator denominator guess).1 : ℚ) <
        (inUnits numerator denominator guess).2 := by exact_mod_cast less
    rw [← div_lt_one given, scaled, div_lt_one power] at less
    rw [sub_add_cancel]
    exact ⟨below.le, less⟩
  · rename_i reached
    have reached : ((inUnits numerator denominator guess).2 : ℚ) ≤
        (inUnits numerator denominator guess).1 := by exact_mod_cast not_lt.mp reached
    rw [← one_le_div given, scaled, one_le_div power] at reached
    exact ⟨reached, above⟩

theorem binaryExponent_eq {numerator denominator : Nat} (positive : 0 < numerator)
    (positive' : 0 < denominator) {exponent : Int}
    (below : (2 : ℚ) ^ exponent ≤ numerator / denominator)
    (above : (numerator / denominator : ℚ) < 2 ^ (exponent + 1)) :
    binaryExponent numerator denominator = exponent := by
  obtain ⟨below', above'⟩ := binaryExponent_bounds positive positive'
  have less := (zpow_lt_zpow_iff_right₀ (by norm_num : (1 : ℚ) < 2)).mp (below.trans_lt above')
  have less' := (zpow_lt_zpow_iff_right₀ (by norm_num : (1 : ℚ) < 2)).mp (below'.trans_lt above)
  omega

theorem roundHalfEven_near {numerator denominator nearest : Nat} (positive : 0 < denominator)
    (below : 2 * nearest * denominator ≤ 2 * numerator + denominator)
    (above : 2 * numerator ≤ 2 * nearest * denominator + denominator)
    (ties : 2 * nearest * denominator = 2 * numerator + denominator ∨
      2 * numerator = 2 * nearest * denominator + denominator → nearest % 2 = 0) :
    roundHalfEven numerator denominator = nearest := by
  have parts := Nat.div_add_mod numerator denominator
  have small := Nat.mod_lt numerator positive
  unfold roundHalfEven
  dsimp only
  generalize numerator / denominator = quotient at parts
  generalize numerator % denominator = rest at parts small
  subst parts
  have either : quotient = nearest ∨ nearest = quotient + 1 := by
    have least : quotient < nearest + 1 := by
      by_contra more
      have : denominator * (nearest + 1) ≤ denominator * quotient :=
        Nat.mul_le_mul_left _ (by omega)
      nlinarith
    have most : nearest < quotient + 2 := by
      by_contra more
      have : denominator * (quotient + 2) ≤ denominator * nearest :=
        Nat.mul_le_mul_left _ (by omega)
      nlinarith
    omega
  rcases either with rfl | rfl
  · have half : 2 * rest ≤ denominator := by nlinarith
    split
    · rfl
    · have tie : 2 * rest = denominator := by omega
      rw [if_neg (by omega), ties (.inr (by rw [← tie]; ring)), Nat.add_zero]
  · have half : denominator ≤ 2 * rest := by nlinarith
    rw [if_neg (by omega)]
    split
    · rfl
    · have tie : denominator = 2 * rest := by omega
      have even := ties (.inl (by rw [tie]; ring))
      omega

theorem roundHalfEven_quotient {numerator denominator nearest : Nat} (positive : 0 < denominator)
    (below : (nearest : ℚ) - 1 / 2 ≤ numerator / denominator)
    (above : (numerator / denominator : ℚ) ≤ nearest + 1 / 2)
    (ties : (nearest : ℚ) - 1 / 2 = numerator / denominator ∨
      (numerator / denominator : ℚ) = nearest + 1 / 2 → nearest % 2 = 0) :
    roundHalfEven numerator denominator = nearest := by
  have given : (0 : ℚ) < denominator := by exact_mod_cast positive
  rw [le_div_iff₀ given] at below
  rw [div_le_iff₀ given] at above
  rw [eq_div_iff given.ne', div_eq_iff given.ne'] at ties
  refine roundHalfEven_near positive ?_ ?_ fun tie => ties (tie.imp (fun tie => ?_) fun tie => ?_)
  · have : (2 * nearest * denominator : ℚ) ≤ 2 * numerator + denominator := by linarith
    exact_mod_cast this
  · have : (2 * numerator : ℚ) ≤ 2 * nearest * denominator + denominator := by linarith
    exact_mod_cast this
  · have tie : (2 * nearest * denominator : ℚ) = 2 * numerator + denominator := by
      exact_mod_cast tie
    linarith
  · have tie : (2 * numerator : ℚ) = 2 * nearest * denominator + denominator := by
      exact_mod_cast tie
    linarith

theorem magnitudeOfFraction_eq {numerator denominator nearest : Nat} {scale : Int}
    (positive : 0 < numerator) (positive' : 0 < denominator)
    (scaled : max (binaryExponent numerator denominator - 52) (-1074) = scale)
    (below : (nearest : ℚ) - 1 / 2 ≤ numerator / denominator / 2 ^ scale)
    (above : (numerator / denominator / 2 ^ scale : ℚ) ≤ nearest + 1 / 2)
    (ties : (nearest : ℚ) - 1 / 2 = numerator / denominator / 2 ^ scale ∨
      (numerator / denominator / 2 ^ scale : ℚ) = nearest + 1 / 2 → nearest % 2 = 0) :
    magnitudeOfFraction numerator denominator =
      min ((scale + 1074).toNat * leadingBit + nearest) infinity := by
  obtain ⟨unit, value⟩ := inUnits_value numerator positive' scale
  rw [← value] at below above ties
  unfold magnitudeOfFraction
  rw [if_neg positive.ne', scaled]
  dsimp only
  rw [roundHalfEven_quotient unit below above ties]

theorem magnitude_parts (magnitude : Nat) :
    (exponent magnitude + 1074).toNat * leadingBit + significand magnitude = magnitude ∧
      -1074 ≤ exponent magnitude ∧ significand magnitude < 2 * leadingBit ∧
        (leadingBit ≤ significand magnitude ∨ exponent magnitude = -1074) := by
  unfold exponent significand leadingBit
  split
  · omega
  · omega

end Binary64

namespace Shortest

open Binary64

def lowEnd (magnitude : Nat) : Nat :=
  if significand magnitude = leadingBit ∧ -1074 < exponent magnitude then
    4 * significand magnitude - 1
  else 4 * significand magnitude - 2

theorem narrow_iff (magnitude : Nat) :
    2 * leadingBit ≤ magnitude ∧ magnitude % leadingBit = 0 ↔
      significand magnitude = leadingBit ∧ -1074 < exponent magnitude := by
  unfold exponent significand leadingBit
  split
  · omega
  · omega

theorem interval_units (magnitude : Nat) :
    ∃ scale, (interval magnitude).low = lowEnd magnitude * scale ∧
      (interval magnitude).value = 4 * significand magnitude * scale ∧
      (interval magnitude).high = (4 * significand magnitude + 2) * scale ∧
      0 < (interval magnitude).denominator ∧
      (scale / (interval magnitude).denominator : ℚ) = 2 ^ (exponent magnitude - 2) := by
  have low : (if decide (2 * leadingBit ≤ magnitude ∧ magnitude % leadingBit = 0) then
      4 * significand magnitude - 1 else 4 * significand magnitude - 2) = lowEnd magnitude := by
    simp only [narrow_iff, decide_eq_true_eq]
    rfl
  unfold interval
  dsimp only
  rw [low]
  refine ⟨_, rfl, rfl, rfl, ?_⟩
  split
  · rename_i small
    refine ⟨Nat.pow_pos (by decide), ?_⟩
    have flipped : exponent magnitude - 2 = -((2 - exponent magnitude).toNat : Int) := by omega
    rw [flipped, zpow_neg, zpow_natCast]
    dsimp only [Nat.pow_eq]
    push_cast
    rw [one_div]
  · rename_i large
    refine ⟨by decide, ?_⟩
    have same : exponent magnitude - 2 = ((exponent magnitude - 2).toNat : Int) := by omega
    rw [same, zpow_natCast, Int.toNat_natCast]
    dsimp only [Nat.pow_eq]
    rw [Nat.cast_pow, Nat.cast_ofNat, Nat.cast_one, div_one]

/-- A number that rounds to a magnitude: one between the ends of its interval, which belong to it if the
significand is even. -/
def Within (magnitude : Nat) (value : ℚ) : Prop :=
  if significand magnitude % 2 = 0 then
    (lowEnd magnitude : ℚ) * 2 ^ (exponent magnitude - 2) ≤ value ∧
      value ≤ (4 * significand magnitude + 2) * 2 ^ (exponent magnitude - 2)
  else
    (lowEnd magnitude : ℚ) * 2 ^ (exponent magnitude - 2) < value ∧
      value < (4 * significand magnitude + 2) * 2 ^ (exponent magnitude - 2)

section

variable {magnitude numerator denominator : Nat} {value : ℚ}

theorem contains_iff (positive : 0 < denominator) :
    (interval magnitude).contains numerator denominator ↔
      Within magnitude (numerator / denominator) := by
  obtain ⟨scale, low, _, high, unit, ratio⟩ := interval_units magnitude
  have given : (0 : ℚ) < denominator := by exact_mod_cast positive
  have given' : (0 : ℚ) < (interval magnitude).denominator := by exact_mod_cast unit
  have closed : (interval magnitude).closed = decide (significand magnitude % 2 = 0) := rfl
  unfold Interval.contains Within
  rw [low, high, closed, ← ratio, ← mul_div_assoc, ← mul_div_assoc,
    div_le_div_iff₀ given' given, div_le_div_iff₀ given given', div_lt_div_iff₀ given' given,
    div_lt_div_iff₀ given given']
  by_cases even : significand magnitude % 2 = 0
  · simp only [even, decide_true, if_true, decide_eq_true_eq]
    norm_cast
  · simp only [even, decide_false, if_false, Bool.false_eq_true, decide_eq_true_eq]
    norm_cast

theorem within_bounds (inside : Within magnitude value) :
    (lowEnd magnitude : ℚ) * 2 ^ (exponent magnitude - 2) ≤ value ∧
      value ≤ (4 * significand magnitude + 2) * 2 ^ (exponent magnitude - 2) ∧
      ((lowEnd magnitude : ℚ) * 2 ^ (exponent magnitude - 2) = value ∨
        value = (4 * significand magnitude + 2) * 2 ^ (exponent magnitude - 2) →
        significand magnitude % 2 = 0) := by
  unfold Within at inside
  split at inside
  · rename_i even
    exact ⟨inside.1, inside.2, fun _ => even⟩
  · refine ⟨inside.1.le, inside.2.le, ?_⟩
    rintro (low | high)
    · exact absurd low inside.1.ne
    · exact absurd high inside.2.ne

theorem lowEnd_cases (magnitude : Nat) :
    significand magnitude = leadingBit ∧ -1074 < exponent magnitude ∧
        lowEnd magnitude = 4 * leadingBit - 1 ∨
      (significand magnitude = leadingBit → exponent magnitude = -1074) ∧
        lowEnd magnitude = 4 * significand magnitude - 2 := by
  have least := (magnitude_parts magnitude).2.1
  unfold lowEnd
  split
  · rename_i narrow
    exact .inl ⟨narrow.1, narrow.2, by rw [narrow.1]⟩
  · rename_i wide
    exact .inr ⟨fun same => by omega, rfl⟩

theorem scale_eq {place : Int} (least : -1074 ≤ place) (positive : 0 < numerator)
    (positive' : 0 < denominator)
    (reached : (leadingBit : ℚ) * 2 ^ place ≤ numerator / denominator ∨ place = -1074)
    (less : (numerator / denominator : ℚ) < 2 * leadingBit * 2 ^ place) :
    max (binaryExponent numerator denominator - 52) (-1074) = place := by
  have two : (2 : ℚ) ≠ 0 := by norm_num
  have leading : (leadingBit : ℚ) = 2 ^ (52 : Int) := by norm_num [leadingBit]
  have top : 2 * leadingBit * (2 : ℚ) ^ place = 2 ^ (place + 52 + 1) := by
    rw [leading, zpow_add₀ two, zpow_add₀ two, zpow_one]
    ring
  have bottom : leadingBit * (2 : ℚ) ^ place = 2 ^ (place + 52) := by
    rw [leading, zpow_add₀ two]
    ring
  rw [top] at less
  rw [bottom] at reached
  by_cases above : (2 : ℚ) ^ (place + 52) ≤ numerator / denominator
  · rw [binaryExponent_eq positive positive' above less]
    omega
  · have below := (binaryExponent_bounds positive positive').1
    have smaller := (zpow_lt_zpow_iff_right₀ (by norm_num : (1 : ℚ) < 2)).mp
      (below.trans_lt (not_le.mp above))
    have bottom := reached.resolve_left above
    omega

theorem significand_pos (given : 0 < magnitude) : 0 < significand magnitude := by
  unfold significand leadingBit
  split
  · exact given
  · omega

theorem lowEnd_ge (magnitude : Nat) : 4 * significand magnitude ≤ lowEnd magnitude + 2 := by
  rcases lowEnd_cases magnitude with ⟨same, _, low⟩ | ⟨_, low⟩
  · rw [same, low]
    decide
  · omega

theorem quarters (place : Int) : (2 : ℚ) ^ place = 4 * 2 ^ (place - 2) := by
  rw [zpow_sub₀ (by norm_num)]
  norm_num
  ring

theorem within_pos (given : 0 < magnitude) (inside : Within magnitude value) : 0 < value := by
  obtain ⟨low, _, _⟩ := within_bounds inside
  have significant := significand_pos given
  have lowest := lowEnd_ge magnitude
  have reached : (0 : ℚ) < lowEnd magnitude := by exact_mod_cast (by omega : 0 < lowEnd magnitude)
  exact (mul_pos reached (by positivity)).trans_le low

theorem round_in_place (finite : magnitude < infinity) (positive : 0 < numerator)
    (positive' : 0 < denominator) (inside : Within magnitude (numerator / denominator))
    (reached : (leadingBit : ℚ) * 2 ^ exponent magnitude ≤ numerator / denominator ∨
      exponent magnitude = -1074) : magnitudeOfFraction numerator denominator = magnitude := by
  obtain ⟨low, high, ends⟩ := within_bounds inside
  obtain ⟨parts, least, most, _⟩ := magnitude_parts magnitude
  have unit : (0 : ℚ) < 2 ^ (exponent magnitude - 2) := by positivity
  have power := quarters (exponent magnitude)
  have small : (significand magnitude : ℚ) + 1 ≤ 2 * leadingBit := by exact_mod_cast most
  have lowest : (4 * significand magnitude : ℚ) ≤ lowEnd magnitude + 2 := by
    exact_mod_cast lowEnd_ge magnitude
  have less : (numerator / denominator : ℚ) < 2 * leadingBit * 2 ^ exponent magnitude := by
    rw [power]
    nlinarith
  have below : (significand magnitude : ℚ) - 1 / 2 ≤
      numerator / denominator / 2 ^ exponent magnitude := by
    rw [power, le_div_iff₀ (by positivity)]
    nlinarith
  have above : (numerator / denominator / 2 ^ exponent magnitude : ℚ) ≤
      significand magnitude + 1 / 2 := by
    rw [power, div_le_iff₀ (by positivity)]
    linarith
  have ties : (significand magnitude : ℚ) - 1 / 2 =
      numerator / denominator / 2 ^ exponent magnitude ∨
      (numerator / denominator / 2 ^ exponent magnitude : ℚ) = significand magnitude + 1 / 2 →
      significand magnitude % 2 = 0 := by
    rw [power, eq_div_iff (by positivity), div_eq_iff (by positivity)]
    refine fun tie => ends (tie.imp (fun tie => ?_) fun tie => ?_)
    · refine le_antisymm low ?_
      nlinarith
    · linarith
  rw [magnitudeOfFraction_eq positive positive' (scale_eq least positive positive' reached less)
    below above ties, parts, min_eq_left finite.le]

theorem round_carries (finite : magnitude < infinity) (positive : 0 < numerator)
    (positive' : 0 < denominator) (inside : Within magnitude (numerator / denominator))
    (leading : significand magnitude = leadingBit) (larger : -1074 < exponent magnitude)
    (lowEnd_eq : lowEnd magnitude = 4 * leadingBit - 1)
    (less : (numerator / denominator : ℚ) < leadingBit * 2 ^ exponent magnitude) :
    magnitudeOfFraction numerator denominator = magnitude := by
  obtain ⟨low, _, _⟩ := within_bounds inside
  obtain ⟨parts, _, _, _⟩ := magnitude_parts magnitude
  have unit : (0 : ℚ) < 2 ^ (exponent magnitude - 2) := by positivity
  have lowered : (lowEnd magnitude : ℚ) = 4 * leadingBit - 1 := by
    rw [lowEnd_eq]
    norm_num [leadingBit]
  have half : (2 : ℚ) ^ (exponent magnitude - 1) = 2 * 2 ^ (exponent magnitude - 2) := by
    have two : (2 : ℚ) ≠ 0 := by norm_num
    rw [zpow_sub₀ two, zpow_sub₀ two]
    norm_num
    ring
  have large : (1 : ℚ) ≤ leadingBit := by norm_num [leadingBit]
  rw [quarters] at less
  rw [lowered] at low
  have reached : (leadingBit : ℚ) * 2 ^ (exponent magnitude - 1) ≤ numerator / denominator := by
    rw [half]
    nlinarith
  have less' : (numerator / denominator : ℚ) < 2 * leadingBit * 2 ^ (exponent magnitude - 1) := by
    rw [half]
    linarith
  have below : ((2 * leadingBit : Nat) : ℚ) - 1 / 2 ≤
      numerator / denominator / 2 ^ (exponent magnitude - 1) := by
    push_cast
    rw [half, le_div_iff₀ (by positivity)]
    linarith
  have above : (numerator / denominator / 2 ^ (exponent magnitude - 1) : ℚ) ≤
      (2 * leadingBit : Nat) + 1 / 2 := by
    push_cast
    rw [half, div_le_iff₀ (by positivity)]
    linarith
  have next : (exponent magnitude + 1074).toNat = (exponent magnitude - 1 + 1074).toNat + 1 := by
    omega
  rw [next, leading] at parts
  have carried : (exponent magnitude - 1 + 1074).toNat * leadingBit + 2 * leadingBit = magnitude :=
    calc (exponent magnitude - 1 + 1074).toNat * leadingBit + 2 * leadingBit
        = ((exponent magnitude - 1 + 1074).toNat + 1) * leadingBit + leadingBit := by ring
      _ = magnitude := parts
  rw [magnitudeOfFraction_eq positive positive'
    (scale_eq (by omega) positive positive' (.inl reached) less') below above
    (fun _ => Nat.mul_mod_right 2 leadingBit), carried, min_eq_left finite.le]

/-- Every fraction in the interval of a magnitude rounds to it. -/
theorem magnitudeOfFraction_within (given : 0 < magnitude) (finite : magnitude < infinity)
    (positive : 0 < denominator) (inside : Within magnitude (numerator / denominator)) :
    magnitudeOfFraction numerator denominator = magnitude := by
  have positive' : 0 < numerator := by
    have whole := within_pos given inside
    by_contra none
    rw [Nat.eq_zero_of_not_pos none] at whole
    simp at whole
  rcases lowEnd_cases magnitude with ⟨leading, larger, lowEnd_eq⟩ | ⟨alone, _⟩
  · by_cases reached : (leadingBit : ℚ) * 2 ^ exponent magnitude ≤ numerator / denominator
    · exact round_in_place finite positive' positive inside (.inl reached)
    · exact round_carries finite positive' positive inside leading larger lowEnd_eq
        (not_le.mp reached)
  · refine round_in_place finite positive' positive inside ?_
    by_cases leading : significand magnitude = leadingBit
    · exact .inr (alone leading)
    · refine (magnitude_parts magnitude).2.2.2.imp_left fun normal => ?_
      obtain ⟨low, _, _⟩ := within_bounds inside
      have larger : leadingBit + 1 ≤ significand magnitude := by omega
      have larger : (leadingBit + 1 : ℚ) ≤ significand magnitude := by exact_mod_cast larger
      have lowest : (4 * significand magnitude : ℚ) ≤ lowEnd magnitude + 2 := by
        exact_mod_cast lowEnd_ge magnitude
      have unit : (0 : ℚ) < 2 ^ (exponent magnitude - 2) := by positivity
      rw [quarters]
      nlinarith

end

end Shortest

end ResourceServer.Number
