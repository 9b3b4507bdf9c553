import NumeralStyle.Proofs.Decimal.Acceptance

/-!
# Magnitudes of decimal reals

A decimal real that is accepted should be below two to the power 96.  Digits behind
the largest scale are rounded before the exponent shifts the mantissa to the left, so
that an exponent beyond that scale enlarges what was lost.  The main statements say
that a value out of range is accepted for this reason only, and how far out of range
it can be.
-/

namespace NumeralStyle

theorem Regions.mantissaValue_nonneg (regions : Regions) : 0 ≤ regions.mantissaValue := by
  unfold mantissaValue
  cases regions.fraction with
  | none => exact add_nonneg (Nat.cast_nonneg _) le_rfl
  | some fraction => exact add_nonneg (Nat.cast_nonneg _) (Decimal.fractionValue_nonneg fraction)

/-- An exponent beyond the largest scale shifts by that scale and then by the rest. -/
theorem Regions.value_eq_of_maxScale_le
    {regions : Regions} (many : (Decimal.maxScale : ℤ) ≤ regions.exponentValue) :
    regions.value = regions.mantissaValue * 10 ^ Decimal.maxScale *
      10 ^ (regions.exponentValue - Decimal.maxScale).toNat := by
  obtain ⟨beyond, exponent⟩ := Int.le.dest many
  rw [value, ← exponent, add_sub_cancel_left, Int.toNat_natCast, mul_assoc, ← pow_add,
    ← Int.natCast_add, zpow_natCast]

namespace Decimal

variable {magnitude : ℚ} {places : Nat}

theorem natCast_mantissaBound : (mantissaBound : ℚ) = largest + 1 :=
  (sub_add_cancel _ _).symm

/-- Rounding to an integer loses less than half a unit, which a shift enlarges. -/
theorem lt_add_of_round_mul_lt
    (fits : round magnitude * 10 ^ places < (mantissaBound : ℤ)) :
    magnitude * 10 ^ places < mantissaBound + 10 ^ places / 2 := by
  have roundedFits : (round magnitude : ℚ) * 10 ^ places < mantissaBound := by
    exact_mod_cast fits
  have near : magnitude < round magnitude + 1 / 2 := by
    linarith [sub_half_lt_round magnitude]
  calc
    magnitude * 10 ^ places < (round magnitude + 1 / 2) * 10 ^ places :=
      mul_lt_mul_of_pos_right near (by positivity)
    _ = round magnitude * 10 ^ places + 10 ^ places / 2 := by ring
    _ < mantissaBound + 10 ^ places / 2 := by gcongr

/-- One place beyond the largest scale, too little is lost to matter: the bound is not
within half a unit of a multiple of ten. -/
theorem lt_mantissaBound_of_fits
    (fits : Fits magnitude places) (few : places ≤ maxScale + 1) :
    magnitude * 10 ^ places < mantissaBound := by
  rcases Nat.lt_or_eq_of_le few with fewer | rfl
  · rw [fits_iff_of_le_maxScale (Nat.le_of_lt_succ fewer)] at fits
    rw [natCast_mantissaBound]
    linarith
  · rw [fits_iff_of_maxScale_le (Nat.le_add_right _ _), Nat.add_sub_cancel_left, pow_one] at fits
    rw [pow_succ, ← mul_assoc]
    generalize magnitude * 10 ^ maxScale = shifted at fits ⊢
    have lastDigit : (mantissaBound : ℤ) % 10 = 6 := rfl
    have room : round shifted * 10 + 6 ≤ (mantissaBound : ℤ) := by omega
    have roomCast : (round shifted : ℚ) * 10 + 6 ≤ mantissaBound := by
      exact_mod_cast room
    linarith [sub_half_lt_round shifted]

end Decimal

namespace Numeral

open Decimal

variable {regions : Regions} {marker : Char} {numeral : Numeral}

/-- An exponent that is not far beyond the largest scale takes no accepted mantissa out of
range. -/
theorem value_lt_of_fits
    (fits : Fits regions.mantissaValue regions.exponentValue.toNat)
    (few : regions.exponentValue ≤ maxScale + 1) :
    regions.value < mantissaBound := by
  unfold Regions.value
  rcases lt_or_ge regions.exponentValue 0 with negative | nonneg
  · have small := lt_mantissaBound_of_fits fits (by omega)
    rw [Int.toNat_of_nonpos negative.le, pow_zero, mul_one] at small
    have shrinks : (10 : ℚ) ^ regions.exponentValue ≤ 1 :=
      zpow_le_one_of_nonpos₀ (by norm_num) negative.le
    exact (mul_le_of_le_one_right regions.mantissaValue_nonneg shrinks).trans_lt small
  · obtain ⟨places, exponent⟩ := Int.eq_ofNat_of_zero_le nonneg
    rw [exponent] at fits few ⊢
    rw [zpow_natCast]
    exact lt_mantissaBound_of_fits fits (by exact_mod_cast few)

/-- A decimal real out of range is accepted if its exponent is far beyond the largest scale
and its mantissa, rounded at that scale, fits after the rest of the exponent. -/
theorem isSome_parse?_decimal_iff_of_le_value
    (real : regions.IsReal) (marked : marker = 'm' ∨ marker = 'M')
    (oversized : mantissaBound ≤ regions.value) :
    (parse? (regions.text ++ [marker])).isSome ↔
      ((maxScale : ℤ) + 1 < regions.exponentValue ∧ regions.exponentValue < exponentBound) ∧
        round (regions.mantissaValue * 10 ^ maxScale) *
          10 ^ (regions.exponentValue - maxScale).toNat < (mantissaBound : ℤ) := by
  have beyond : (regions.exponentValue - maxScale).toNat =
      regions.exponentValue.toNat - maxScale := by
    omega
  rw [isSome_parse?_decimal_iff real marked, beyond]
  constructor
  · intro accepted
    obtain ⟨⟨-, upper⟩, fits⟩ := accepted
    have far : (maxScale : ℤ) + 1 < regions.exponentValue := by
      by_contra few
      exact absurd (value_lt_of_fits fits (not_lt.1 few)) (not_lt.2 oversized)
    exact ⟨⟨far, upper⟩, (fits_iff_of_maxScale_le (by omega)).1 fits⟩
  · intro conditions
    obtain ⟨⟨far, upper⟩, fits⟩ := conditions
    refine ⟨⟨?_, upper⟩, (fits_iff_of_maxScale_le (by omega)).2 fits⟩
    unfold exponentBound
    omega

/-- A numeral with a decimal marker is a real, and its regions are those of its digits
without separators. -/
theorem WellFormed.exists_isReal_of_decimalMarker
    (form : numeral.WellFormed) (marked : marker = 'm' ∨ marker = 'M')
    (suffix : numeral.suffix = [marker]) :
    ∃ regions : Regions, regions.IsReal ∧ regions.text ++ [marker] = numeral.text ∧
      numeral.regions = regions.scrubbed := by
  rcases form with integer | ⟨real, _⟩
  · have inText : marker ∈ numeral.text := by
      simp [Numeral.text, suffix]
    exact absurd inText (integer.not_mem_text_of_decimalMarker marked)
  · refine ⟨Regions.ofReal numeral.digits, real.digits, ?_, ?_⟩
    · rw [Regions.text_ofReal, Numeral.text, real.mark, suffix, List.nil_append]
    · rw [← Regions.ofReal_scrub]
      simp [Numeral.regions, real.isInteger, Numeral.scrubbedDigits]

/-- A numeral with a decimal marker is below two to the power 96, unless its exponent is far
beyond the largest scale and its mantissa was rounded down at that scale.  Then it is not
further out of range than half a unit of the scale, enlarged by the rest of the exponent. -/
theorem value_lt_of_parse?_decimal
    {text : Text} (reading : parse? text = some numeral)
    (marked : marker = 'm' ∨ marker = 'M') (suffix : numeral.suffix = [marker]) :
    (numeral.regions.exponentValue ≤ maxScale + 1 ∨
        numeral.regions.mantissaValue * 10 ^ maxScale ≤
          round (numeral.regions.mantissaValue * 10 ^ maxScale) →
      numeral.regions.value < mantissaBound) ∧
    numeral.regions.value <
      mantissaBound + 10 ^ (numeral.regions.exponentValue - maxScale).toNat / 2 := by
  have form : numeral.WellFormed := (parse?_eq_some_iff.1 reading).1
  obtain ⟨regions, real, spelled, same⟩ := form.exists_isReal_of_decimalMarker marked suffix
  have accepted : (parse? (regions.text ++ [marker])).isSome = true := by
    rw [spelled, form.parse?_text]
    rfl
  have mantissa : numeral.regions.mantissaValue = regions.mantissaValue := by
    rw [same, Regions.mantissaValue_scrubbed]
  have exponent : numeral.regions.exponentValue = regions.exponentValue := by
    rw [same, exponentValue_scrubbed real]
  have value : numeral.regions.value = regions.value := by
    rw [Regions.value, mantissa, exponent]
    rfl
  rw [mantissa, exponent, value]
  rcases lt_or_ge regions.value mantissaBound with inRange | oversized
  · exact ⟨fun _ => inRange, inRange.trans (lt_add_of_pos_right _ (by positivity))⟩
  · obtain ⟨⟨far, -⟩, fits⟩ :=
      (isSome_parse?_decimal_iff_of_le_value real marked oversized).1 accepted
    have many : (maxScale : ℤ) ≤ regions.exponentValue := by omega
    have split := Regions.value_eq_of_maxScale_le many
    refine ⟨fun condition => ?_, ?_⟩
    · rcases condition with few | notLost
      · omega
      · have roundedFits : (round (regions.mantissaValue * 10 ^ maxScale) : ℚ) *
            10 ^ (regions.exponentValue - maxScale).toNat < mantissaBound := by
          exact_mod_cast fits
        rw [split]
        exact (mul_le_mul_of_nonneg_right notLost (by positivity)).trans_lt roundedFits
    · rw [split]
      exact lt_add_of_round_mul_lt fits

/-- The largest decimal number, written with the largest scale and shifted back. -/
theorem value_lt_of_parse?_decimal_largest :
    ∃ numeral, parse? "7.9228162514264337593543950335e28m".toList = some numeral ∧
      numeral.suffix = ['m'] ∧ numeral.regions.value < mantissaBound := by
  have reading : ∃ numeral, parse? "7.9228162514264337593543950335e28m".toList = some numeral ∧
      numeral.suffix = ['m'] ∧ numeral.regions.exponentValue = 28 :=
    ⟨_, rfl, rfl, rfl⟩
  obtain ⟨numeral, reading, suffix, exponent⟩ := reading
  have inRange := (value_lt_of_parse?_decimal reading (Or.inl rfl) suffix).1
  refine ⟨numeral, reading, suffix, inRange (Or.inl ?_)⟩
  rw [exponent]
  decide

/-- Digits behind the largest scale are lost and shifted out of range: four units beyond the
bound behind other digits, and without them by as much as the exponent allows. -/
theorem exists_parse?_decimal_oversized :
    (∃ numeral, parse? "0.07922816251426433759354395034e30m".toList = some numeral ∧
      numeral.suffix = ['m'] ∧ numeral.regions.value = mantissaBound + 4) ∧
    (∃ numeral, parse? "0.00000000000000000000000000001e58m".toList = some numeral ∧
      numeral.suffix = ['m'] ∧ numeral.regions.value = 10 ^ 29 ∧
      mantissaBound < numeral.regions.value) := by
  have reading : ∃ numeral, parse? "0.07922816251426433759354395034e30m".toList = some numeral ∧
      numeral.suffix = ['m'] ∧
      numeral.regions.mantissaValue = 0 + 7922816251426433759354395034 / 10 ^ 29 ∧
      numeral.regions.exponentValue = 30 :=
    ⟨_, rfl, rfl, rfl, rfl⟩
  have unitReading : ∃ unit, parse? "0.00000000000000000000000000001e58m".toList = some unit ∧
      unit.suffix = ['m'] ∧ unit.regions.mantissaValue = 0 + 1 / 10 ^ 29 ∧
      unit.regions.exponentValue = 58 :=
    ⟨_, rfl, rfl, rfl, rfl⟩
  obtain ⟨numeral, reading, suffix, mantissa, exponent⟩ := reading
  obtain ⟨unit, unitReading, unitSuffix, unitMantissa, unitExponent⟩ := unitReading
  refine ⟨⟨numeral, reading, suffix, ?_⟩, unit, unitReading, unitSuffix, ?_, ?_⟩
  · rw [Regions.value, mantissa, exponent]
    norm_num
  · rw [Regions.value, unitMantissa, unitExponent]
    norm_num
  · rw [Regions.value, unitMantissa, unitExponent]
    norm_num

end Numeral

end NumeralStyle
