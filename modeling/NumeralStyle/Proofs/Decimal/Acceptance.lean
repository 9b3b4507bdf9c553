import NumeralStyle.Proofs.Decimal.Reading
import NumeralStyle.Proofs.Numeral.WellFormed

/-!
# Acceptance of decimal reals

A real with the marker of the decimal type is a numeral if its scrubbed digits are a
decimal number.  So acceptance depends on two exact values, the mantissa and the
exponent.  A value in range is not always accepted: the exponent may need more than
32 bits, the mantissa may exceed the bounds by itself although the exponent is
negative, and digits behind the largest scale are rounded before the exponent shifts
them to the left.  The main statement says that nothing else rejects such a value.
-/

namespace NumeralStyle.Numeral

open Decimal

variable {regions : Regions} {marker : Char}

theorem ofMarker?_decimal (marked : marker = 'm' ∨ marker = 'M') :
    RealType.ofMarker? marker = some .decimal := by
  rcases marked with rfl | rfl <;> rfl

theorem IntegerForm.not_mem_text_of_decimalMarker
    {numeral : Numeral} (form : numeral.IntegerForm) (marked : marker = 'm' ∨ marker = 'M') :
    marker ∉ numeral.text := by
  have notDigit : isIntegerDigit numeral.base marker = false := by
    rcases marked with rfl | rfl <;> cases numeral.base <;> rfl
  have notMark : ∀ mark ∈ numeral.base.marks, marker ∉ mark := by
    rcases marked with rfl | rfl <;> cases numeral.base <;> decide
  intro member
  simp only [Numeral.text, List.mem_append] at member
  rcases member with (inMark | inDigits) | inSuffix
  · exact notMark _ form.mark inMark
  · rw [form.digits.accepted marker inDigits] at notDigit
    cases notDigit
  · have markers := marker_of_mem_integerSuffix form.suffix inSuffix
    rcases marked with rfl | rfl <;> revert markers <;> decide

/-- A real with a decimal marker is accepted if its digits are a decimal number. -/
theorem isSome_parse?_decimal_iff_ofText?
    {digits : Text} (real : (Regions.ofReal digits).IsReal)
    (marked : marker = 'm' ∨ marker = 'M') :
    (parse? (digits ++ [marker])).isSome ↔ (ofText? (scrub digits)).isSome := by
  have isMarker := ofMarker?_decimal marked
  have trimmed : Text.trim (digits ++ [marker]) = digits ++ [marker] := by
    apply trim_eq_self_of_isNumeralLetter
    intro letter member
    refine isNumeralLetter_of_realLetter (letters_of_isReal real ?_ letter member)
    intro other single
    rw [List.mem_singleton.1 single]
    exact marker_of_ofMarker? isMarker
  constructor
  · intro accepted
    obtain ⟨numeral, reading⟩ := Option.isSome_iff_exists.1 accepted
    obtain ⟨form, spelled⟩ := parse?_eq_some_iff.1 reading
    rw [trimmed] at spelled
    -- The marker keeps integers out, and a real is split in front of it.
    rcases form with integer | ⟨form, _⟩
    · exact absurd (spelled ▸ List.mem_append_right digits (List.mem_singleton.2 rfl))
        (integer.not_mem_text_of_decimalMarker marked)
    · obtain ⟨type, typed, accepts⟩ := form.suffix
      have closed := real.getLast?_text
      have formClosed := form.digits.getLast?_text
      rw [Regions.text_ofReal] at closed formClosed
      have split : splitMarker (digits ++ [marker]) = (digits, [marker], .decimal) :=
        splitMarker_digits_append_suffix closed isMarker
      have formSplit := splitMarker_digits_append_suffix formClosed typed
      rw [Numeral.text, form.mark, List.nil_append] at spelled
      rw [spelled, split] at formSplit
      simp only [Prod.mk.injEq] at formSplit
      obtain ⟨sameDigits, _, sameType⟩ := formSplit
      rw [← sameDigits, ← sameType] at accepts
      exact accepts
  · intro accepts
    let numeral : Numeral := ⟨.decimal, [], digits, [marker], false⟩
    have form : numeral.RealForm := ⟨rfl, rfl, rfl, real, .decimal, isMarker, accepts⟩
    have notBare : ¬ numeral.IsBare := fun bare => List.cons_ne_nil marker [] bare.1
    have reading : parse? (digits ++ [marker]) = some numeral :=
      WellFormed.parse?_text (Or.inr ⟨form, notBare⟩)
    rw [reading]
    rfl

/-- A decimal real is accepted if its exponent has no more than 32 bits and its mantissa
fits after a shift to the left. -/
theorem isSome_parse?_decimal_iff
    (real : regions.IsReal) (marked : marker = 'm' ∨ marker = 'M') :
    (parse? (regions.text ++ [marker])).isSome ↔
      (-exponentBound ≤ regions.exponentValue ∧ regions.exponentValue < exponentBound) ∧
        Fits regions.mantissaValue regions.exponentValue.toNat := by
  have digits : (Regions.ofReal regions.text).IsReal := by
    rw [real.ofReal_text]
    exact real
  have scrubbed : scrub regions.text = regions.scrubbed.text := by
    rw [← Regions.text_ofReal (scrub regions.text), Regions.ofReal_scrub, real.ofReal_text]
  have unseparated : separator ∉ regions.scrubbed.text := by
    rw [← scrubbed]
    exact separator_not_mem_scrub _
  rw [isSome_parse?_decimal_iff_ofText? digits marked, scrubbed,
    isSome_ofText?_iff real.scrubbed unseparated, exponentValue_scrubbed real,
    Regions.mantissaValue_scrubbed]

/-- A decimal real in range is rejected for one of three reasons and no other: its exponent
has more than 32 bits, its mantissa is too large before a negative exponent is applied, or
its mantissa rounded at the largest scale is too large after the rest of the exponent. -/
theorem isSome_parse?_decimal_iff_of_value_le
    (real : regions.IsReal) (marked : marker = 'm' ∨ marker = 'M')
    (inRange : regions.value ≤ largest) :
    (parse? (regions.text ++ [marker])).isSome ↔
      (-exponentBound ≤ regions.exponentValue ∧ regions.exponentValue < exponentBound) ∧
        (regions.exponentValue < 0 → regions.mantissaValue < largest + 1 / 2) ∧
          ((maxScale : ℤ) < regions.exponentValue →
            round (regions.mantissaValue * 10 ^ maxScale) *
              10 ^ (regions.exponentValue - maxScale).toNat < (mantissaBound : ℤ)) := by
  rw [isSome_parse?_decimal_iff real marked, and_congr_right_iff]
  intro _
  unfold Regions.value at inRange
  rcases lt_or_ge regions.exponentValue 0 with negative | nonneg
  · have few : ¬ (maxScale : ℤ) < regions.exponentValue := by omega
    rw [Int.toNat_of_nonpos negative.le, fits_iff_of_le_maxScale (Nat.zero_le _), pow_zero,
      mul_one]
    simp only [negative, few, forall_const, IsEmpty.forall_iff, and_true]
  · obtain ⟨places, exponent⟩ := Int.eq_ofNat_of_zero_le nonneg
    rw [exponent, zpow_natCast] at inRange
    have notNegative : ¬ regions.exponentValue < 0 := not_lt.2 nonneg
    simp only [notNegative, IsEmpty.forall_iff, true_and]
    rw [exponent, Int.toNat_natCast]
    rcases Nat.lt_or_ge maxScale places with many | few
    · have remaining : ((places : ℤ) - maxScale).toNat = places - maxScale := by omega
      have manyCast : (maxScale : ℤ) < places := by exact_mod_cast many
      rw [fits_iff_of_maxScale_le many.le, remaining]
      simp only [manyCast, forall_const]
    · have fewCast : ¬ (maxScale : ℤ) < places := by omega
      simp only [fewCast, IsEmpty.forall_iff, iff_true]
      rw [fits_iff_of_le_maxScale few]
      linarith

/-- Fifteen hundred has none of the three reasons against it. -/
theorem isSome_parse?_decimal_iff_fifteen_hundred :
    (Regions.mk ['1'] (some ['5']) ['e', '3']).value ≤ largest ∧
      (parse? "1.5e3m".toList).isSome = true := by
  have real : (Regions.mk ['1'] (some ['5']) ['e', '3']).IsReal :=
    Regions.isReal_ofReal_iff.2 (show (Regions.ofReal "1.5e3".toList).hasRealShape = true from rfl)
  have mantissa : (Regions.mk ['1'] (some ['5']) ['e', '3']).mantissaValue = 1 + 5 / 10 ^ 1 := rfl
  have exponent : (Regions.mk ['1'] (some ['5']) ['e', '3']).exponentValue = 3 := rfl
  have inRange : (Regions.mk ['1'] (some ['5']) ['e', '3']).value ≤ largest := by
    rw [Regions.value, mantissa, exponent]
    norm_num [largest]
  refine ⟨inRange, ?_⟩
  have accepted := isSome_parse?_decimal_iff_of_value_le real (Or.inl rfl : 'm' = 'm' ∨ _) inRange
  refine accepted.2 ⟨?_, ?_, ?_⟩
  · rw [exponent]
    decide
  · rw [exponent]
    exact fun negative => absurd negative (by decide)
  · rw [exponent]
    exact fun many => absurd many (by decide)

/-- Each of the three reasons rejects some value in range. -/
theorem parse?_inRange_eq_none :
    (parse? "1e-2147483649m".toList = none ∧
      (Regions.ofReal "1e-2147483649".toList).value ≤ largest) ∧
    (parse? "99999999999999999999999999999999e-10m".toList = none ∧
      (Regions.ofReal "99999999999999999999999999999999e-10".toList).value ≤ largest) ∧
    (parse? "0.00000000000000000000000000007e57m".toList = none ∧
      (Regions.ofReal "0.00000000000000000000000000007e57".toList).value ≤ largest) := by
  refine ⟨⟨rfl, ?_⟩, ⟨rfl, ?_⟩, ⟨rfl, ?_⟩⟩
  · have mantissa : (Regions.ofReal "1e-2147483649".toList).mantissaValue = 1 := add_zero _
    have exponent : (Regions.ofReal "1e-2147483649".toList).exponentValue = -2147483649 := rfl
    rw [Regions.value, mantissa, exponent, one_mul]
    calc
      (10 : ℚ) ^ (-2147483649 : ℤ) ≤ 1 := zpow_le_one_of_nonpos₀ (by norm_num) (by norm_num)
      _ ≤ largest := by norm_num [largest]
  · have mantissa :
        (Regions.ofReal "99999999999999999999999999999999e-10".toList).mantissaValue =
          99999999999999999999999999999999 := add_zero _
    have exponent :
        (Regions.ofReal "99999999999999999999999999999999e-10".toList).exponentValue = -10 := rfl
    rw [Regions.value, mantissa, exponent]
    norm_num [largest]
  · have mantissa :
        (Regions.ofReal "0.00000000000000000000000000007e57".toList).mantissaValue =
          0 + 7 / 10 ^ 29 := rfl
    have exponent :
        (Regions.ofReal "0.00000000000000000000000000007e57".toList).exponentValue = 57 := rfl
    rw [Regions.value, mantissa, exponent]
    norm_num [largest]

end NumeralStyle.Numeral
