import ResourceServer.Proofs.Resources
import ResourceServer.Proofs.Rounding

/-! Numbers of JSON are written as JSON again: what they are rounded to stays far below the largest double. -/

namespace ResourceServer

open ResourceServer.Number ResourceServer.Calendar ResourceServer.Mapping

namespace Number.Binary64

theorem roundHalfEven_le (numerator denominator : Nat) :
    roundHalfEven numerator denominator ≤ numerator / denominator + 1 := by
  unfold roundHalfEven
  dsimp only
  split
  · omega
  · split <;> omega

theorem magnitudeOfFraction_bounded {numerator denominator power : Nat} (positive : 0 < denominator)
    (small : numerator < 2 ^ power * denominator) :
    magnitudeOfFraction numerator denominator ≤ (power + 1023) * leadingBit := by
  unfold magnitudeOfFraction
  split
  · exact Nat.zero_le _
  rename_i nonzero
  obtain ⟨reached, above⟩ := binaryExponent_bounds (Nat.pos_of_ne_zero nonzero) positive
  have less : (numerator / denominator : ℚ) < 2 ^ (power : Int) := by
    rw [div_lt_iff₀ (by exact_mod_cast positive), zpow_natCast]
    exact_mod_cast small
  have exponent : binaryExponent numerator denominator < power :=
    (zpow_lt_zpow_iff_right₀ (by norm_num : (1 : ℚ) < 2)).mp (reached.trans_lt less)
  generalize scaling : max (binaryExponent numerator denominator - 52) (-1074) = scale
  obtain ⟨unit, scaled⟩ := inUnits_value numerator positive scale
  have given : (0 : ℚ) < (inUnits numerator denominator scale).2 := by exact_mod_cast unit
  -- A significand has 53 digits, so rounding it carries into a place of its own at most.
  have significand : (inUnits numerator denominator scale).1 / (inUnits numerator denominator scale).2 <
      2 * leadingBit := by
    rw [Nat.div_lt_iff_lt_mul unit]
    have digits : (2 : ℚ) ^ (binaryExponent numerator denominator + 1) ≤ 2 ^ (53 : Int) * 2 ^ scale := by
      rw [← zpow_add₀ (by norm_num : (2 : ℚ) ≠ 0)]
      exact zpow_le_zpow_right₀ (by norm_num) (by omega)
    have below : ((inUnits numerator denominator scale).1 : ℚ) / (inUnits numerator denominator scale).2 <
        2 ^ (53 : Int) := by
      rw [scaled, div_lt_iff₀ (by positivity)]
      exact above.trans_le digits
    rw [div_lt_iff₀ given] at below
    have places : (2 : ℚ) ^ (53 : Int) = (2 * leadingBit : Nat) := by norm_num [leadingBit]
    rw [places] at below
    exact_mod_cast below
  have rounded := roundHalfEven_le (inUnits numerator denominator scale).1
    (inUnits numerator denominator scale).2
  have places : (scale + 1074).toNat ≤ power + 1021 := by omega
  calc min ((scale + 1074).toNat * leadingBit + roundHalfEven (inUnits numerator denominator scale).1
        (inUnits numerator denominator scale).2) infinity
      ≤ (scale + 1074).toNat * leadingBit + roundHalfEven (inUnits numerator denominator scale).1
        (inUnits numerator denominator scale).2 := min_le_left _ _
    _ ≤ (power + 1021) * leadingBit + 2 * leadingBit :=
        Nat.add_le_add (Nat.mul_le_mul_right _ places) (by omega)
    _ = (power + 1023) * leadingBit := by ring

theorem ofFraction_finite (negative : Bool) {numerator denominator : Nat} (power : Nat) (positive : 0 < denominator)
    (small : numerator < 2 ^ power * denominator) (moderate : power ≤ 1023) :
    (ofFraction negative numerator denominator).isFinite = true := by
  have most := magnitudeOfFraction_bounded positive small
  have below : (power + 1023) * leadingBit < infinity := by
    unfold infinity leadingBit
    omega
  exact decide_eq_true (most.trans_lt below)

theorem fraction_lt {magnitude power : Nat} (most : magnitude ≤ (power + 1023) * leadingBit) :
    (fraction magnitude).1 < 2 ^ (power + 1) * (fraction magnitude).2 ∧ 0 < (fraction magnitude).2 := by
  obtain ⟨_, _, digits, _⟩ := magnitude_parts magnitude
  have places : exponent magnitude ≤ power - 52 := by
    have quotient : magnitude / leadingBit ≤ power + 1023 := Nat.div_le_of_le_mul (by rwa [Nat.mul_comm])
    unfold exponent
    split <;> omega
  have leading : 2 * leadingBit = 2 ^ 53 := by norm_num [leadingBit]
  rw [leading] at digits
  unfold fraction
  split
  · rename_i small
    dsimp only [Nat.pow_eq]
    refine ⟨digits.trans_le ?_, Nat.pow_pos (by decide)⟩
    rw [← Nat.pow_add]
    exact Nat.pow_le_pow_right (by decide) (by omega)
  · rename_i large
    dsimp only [Nat.pow_eq]
    refine ⟨?_, Nat.one_pos⟩
    calc significand magnitude * 2 ^ (exponent magnitude).toNat
        < 2 ^ 53 * 2 ^ (exponent magnitude).toNat :=
          Nat.mul_lt_mul_of_pos_right digits (Nat.pow_pos (by decide))
      _ = 2 ^ (53 + (exponent magnitude).toNat) := (Nat.pow_add ..).symm
      _ ≤ 2 ^ (power + 1) * 1 := by
          rw [Nat.mul_one]
          exact Nat.pow_le_pow_right (by decide) (by omega)

theorem ofInt_finite {value : Int} (bounded : value.natAbs < wordCount) : (ofInt value).isFinite = true :=
  ofFraction_finite _ 64 Nat.one_pos (by simpa [wordCount] using bounded) (by decide)

end Number.Binary64

open Number.Binary64

theorem Calendar.Duration.seconds_finite {duration : Duration}
    (bounded : duration.microseconds.natAbs < wordCount) : duration.seconds.isFinite = true := by
  have parts : microsecondsPerSecond = .signed false 4696837146684686336 := by decide
  have million : fraction 4696837146684686336 = (8589934592000000, 8589934592) := by decide
  have most : magnitudeOfFraction duration.microseconds.natAbs 1 ≤ (64 + 1023) * leadingBit :=
    magnitudeOfFraction_bounded Nat.one_pos (by simpa [wordCount] using bounded)
  obtain ⟨less, positive⟩ := fraction_lt most
  have finite : magnitudeOfFraction duration.microseconds.natAbs 1 < infinity :=
    most.trans_lt (by decide)
  unfold Duration.seconds
  rw [parts]
  unfold Binary64.ofInt ofFraction Binary64.div
  dsimp only
  rw [if_neg (by decide), if_pos finite, million]
  refine ofFraction_finite _ 128 (Nat.mul_pos positive (by decide)) ?_ (by decide)
  dsimp only
  generalize (fraction (magnitudeOfFraction duration.microseconds.natAbs 1)).1 = numerator at less ⊢
  generalize (fraction (magnitudeOfFraction duration.microseconds.natAbs 1)).2 = denominator at less positive ⊢
  omega

theorem Calendar.Duration.ofSeconds_bounded {seconds : Binary64} {duration : Duration}
    (read : Duration.ofSeconds? seconds = some duration) : duration.microseconds.natAbs < wordCount := by
  unfold Duration.ofSeconds? at read
  obtain ⟨rounded, _, read⟩ := Option.bind_eq_some_iff.mp read
  split at read
  · rename_i bounded
    cases read
    unfold minInteger maxInteger wordCount at *
    dsimp only
    omega
  · cases read

def Json.inRange : Json → Bool
  | .integer value => value.natAbs < wordCount
  | .decimal value => value.isFinite
  | _ => true

section

variable {type : FieldType} {json : Json} {value : Value}

theorem Json.decimal_finite (ranged : json.inRange) {number : Binary64} (given : json.decimal? = some number) :
    number.isFinite = true := by
  unfold Json.decimal? at given
  split at given
  · cases given
    exact ofInt_finite (of_decide_eq_true ranged)
  · cases given
    exact ranged
  · cases given

theorem FieldType.ofJson_stored (given : type.ofJson? json = some value) : valueOf type (cellOf value) = .ok value := by
  unfold FieldType.ofJson? at given
  split at given
  · cases given
    cases type <;> rfl
  · cases given
    rfl
  · cases given
    rfl
  · obtain ⟨number, _, rfl⟩ := Option.map_eq_some_iff.mp given
    rfl
  · obtain ⟨number, _, rfl⟩ := Option.map_eq_some_iff.mp given
    rfl
  · obtain ⟨duration, _, rfl⟩ := Option.map_eq_some_iff.mp given
    rfl
  · exact (FieldType.read_stored given).2
  · exact (FieldType.read_stored given).2
  · exact (FieldType.read_stored given).2
  · exact (FieldType.read_stored given).2
  · cases given

/-- What JSON gives a field can be written as JSON. -/
theorem FieldType.ofJson_shown (ranged : json.inRange) (given : type.ofJson? json = some value) :
    ∃ shown, value.toJson? = some shown := by
  have finite {number : Binary64} (known : number.isFinite = true) :
      ∃ shown, Json.ofBinary64? number = some shown := ⟨.decimal number, if_pos known⟩
  unfold FieldType.ofJson? at given
  split at given
  · cases given
    exact ⟨_, rfl⟩
  · cases given
    exact ⟨_, rfl⟩
  · cases given
    exact ⟨_, rfl⟩
  · obtain ⟨number, _, rfl⟩ := Option.map_eq_some_iff.mp given
    exact ⟨_, rfl⟩
  · obtain ⟨number, read, rfl⟩ := Option.map_eq_some_iff.mp given
    exact finite (Json.decimal_finite ranged read)
  · obtain ⟨duration, read, rfl⟩ := Option.map_eq_some_iff.mp given
    obtain ⟨seconds, _, read⟩ := Option.bind_eq_some_iff.mp read
    exact finite (Duration.seconds_finite (Duration.ofSeconds_bounded read))
  · obtain ⟨date, _, rfl⟩ := Option.map_eq_some_iff.mp given
    exact ⟨_, rfl⟩
  · obtain ⟨timestamp, _, rfl⟩ := Option.map_eq_some_iff.mp given
    exact ⟨_, rfl⟩
  · obtain ⟨time, _, rfl⟩ := Option.map_eq_some_iff.mp given
    exact ⟨_, rfl⟩
  · unfold FieldType.read? at given
    dsimp only at given
    split at given
    · cases given
      exact ⟨_, rfl⟩
    · cases given
  · cases given

end

end ResourceServer
