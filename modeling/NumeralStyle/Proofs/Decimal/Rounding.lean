import Mathlib.Algebra.Order.Round
import NumeralStyle.Proofs.Decimal.Digits
import NumeralStyle.Proofs.Decimal.Value

/-!
# Rounding a mantissa

Fraction digits are taken one by one until the next would leave the bounds, and that
digit alone decides on rounding.  What remains of this after a shift to the left can be
said of the exact value: it is shifted as far as a scale goes and rounded to an integer,
and the integer is shifted the rest of the way.
-/

namespace NumeralStyle.Decimal

/-! ## Magnitudes that fit after a shift -/

/-- Whether a magnitude, shifted to the left, is within the bounds of a mantissa.  The
places that a scale can hold are shifted exactly, the others after rounding. -/
def Fits (magnitude : ℚ) (places : Nat) : Prop :=
  round (magnitude * 10 ^ min places maxScale) * 10 ^ (places - maxScale) <
    (mantissaBound : Int)

theorem round_lt_mantissaBound_iff {magnitude : ℚ} :
    round magnitude < (mantissaBound : Int) ↔ magnitude < largest + 1 / 2 := by
  rw [round_eq, Int.floor_lt, Int.cast_natCast, largest, ← lt_sub_iff_add_lt]
  norm_num

theorem fits_iff_of_le_maxScale {magnitude : ℚ} {places : Nat} (few : places ≤ maxScale) :
    Fits magnitude places ↔ magnitude * 10 ^ places < largest + 1 / 2 := by
  unfold Fits
  rw [Nat.min_eq_left few, Nat.sub_eq_zero_of_le few, pow_zero, mul_one,
    round_lt_mantissaBound_iff]

theorem fits_iff_of_maxScale_le {magnitude : ℚ} {places : Nat} (many : maxScale ≤ places) :
    Fits magnitude places ↔
      round (magnitude * 10 ^ maxScale) * 10 ^ (places - maxScale) < (mantissaBound : Int) := by
  unfold Fits
  rw [Nat.min_eq_right many]

/-- A magnitude fits after fewer places than keep it in bounds. -/
theorem fits_of_le
    {magnitude : ℚ} {places scale : Nat} (nonneg : 0 ≤ magnitude)
    (small : magnitude * 10 ^ scale < largest + 1 / 2)
    (fewer : places ≤ scale) (scaleSmall : scale ≤ maxScale) :
    Fits magnitude places := by
  rw [fits_iff_of_le_maxScale (fewer.trans scaleSmall)]
  calc
    magnitude * 10 ^ places ≤ magnitude * 10 ^ scale := by
      exact mul_le_mul_of_nonneg_left (pow_le_pow_right₀ (by norm_num) fewer) nonneg
    _ < largest + 1 / 2 := small

/-- A magnitude does not fit after more places than take it out of bounds. -/
theorem not_fits_of_le
    {magnitude : ℚ} {places scale : Nat} (nonneg : 0 ≤ magnitude)
    (large : largest + 1 / 2 ≤ magnitude * 10 ^ scale)
    (more : scale ≤ places) (scaleSmall : scale ≤ maxScale) :
    ¬ Fits magnitude places := by
  have shifted : largest + 1 / 2 ≤ magnitude * 10 ^ min places maxScale :=
    large.trans (mul_le_mul_of_nonneg_left
      (pow_le_pow_right₀ (by norm_num) (le_min more scaleSmall)) nonneg)
  have rounded : (mantissaBound : Int) ≤ round (magnitude * 10 ^ min places maxScale) := by
    rw [← not_lt, round_lt_mantissaBound_iff, not_lt]
    exact shifted
  have power : (1 : Int) ≤ 10 ^ (places - maxScale) := one_le_pow₀ (by norm_num)
  have positive : (0 : Int) ≤ round (magnitude * 10 ^ min places maxScale) :=
    le_trans (by norm_num) rounded
  unfold Fits
  rw [not_lt]
  exact rounded.trans (le_mul_of_one_le_right positive power)

/-! ## Shifting what was taken -/

/-- Whether a coefficient of the given scale is within the bounds of a mantissa when it is
shifted to the left. -/
def Reaches (coefficient scale places : Nat) : Prop :=
  (coefficient : ℚ) * 10 ^ places ≤ largest * 10 ^ scale

theorem reaches_of_le
    {coefficient scale places : Nat} (bounded : coefficient < mantissaBound)
    (fewer : places ≤ scale) :
    Reaches coefficient scale places := by
  have small : (coefficient : ℚ) ≤ largest := natCast_le_largest_iff.2 bounded
  have power : (10 : ℚ) ^ places ≤ 10 ^ scale := pow_le_pow_right₀ (by norm_num) fewer
  exact mul_le_mul small power (by positivity) (by norm_num [largest])

theorem reaches_iff_of_le
    {coefficient scale places : Nat} (more : scale ≤ places) :
    Reaches coefficient scale places ↔
      coefficient * 10 ^ (places - scale) < mantissaBound := by
  obtain ⟨remaining, rfl⟩ := Nat.exists_eq_add_of_le more
  unfold Reaches
  rw [← natCast_le_largest_iff, Nat.add_sub_cancel_left, pow_add, mul_left_comm,
    mul_comm (largest : ℚ), mul_le_mul_iff_of_pos_left (by positivity)]
  push_cast
  rfl

/-- A coefficient that has no room for another digit is not shifted past its scale. -/
theorem not_reaches_of_lt
    {coefficient scale places : Nat} (full : mantissaBound ≤ 10 * coefficient)
    (more : scale < places) :
    ¬ Reaches coefficient scale places := by
  have power : 10 ^ 1 ≤ 10 ^ (places - scale) :=
    Nat.pow_le_pow_right (by decide) (Nat.sub_pos_of_lt more)
  rw [reaches_iff_of_le more.le, not_lt]
  calc
    mantissaBound ≤ coefficient * 10 ^ 1 := by omega
    _ ≤ coefficient * 10 ^ (places - scale) := Nat.mul_le_mul_left coefficient power

/-! ## What is taken stands for the exact value -/

section Taking

variable {magnitude : ℚ} {coefficient scale : Nat} (places : Nat)

/-- Without rounding nothing is lost. -/
theorem reaches_iff_fits_of_exact
    (bounded : coefficient < mantissaBound) (scaleSmall : scale ≤ maxScale) :
    Reaches coefficient scale places ↔ Fits (coefficient / 10 ^ scale) places := by
  have bound : (coefficient : ℚ) ≤ largest := natCast_le_largest_iff.2 bounded
  rcases Nat.le_total places scale with fewer | more
  · refine iff_of_true (reaches_of_le bounded fewer) ?_
    refine fits_of_le (by positivity) ?_ fewer scaleSmall
    rw [div_mul_cancel₀ _ (by positivity)]
    linarith
  · obtain ⟨held, limit⟩ := Nat.exists_eq_add_of_le (le_min more scaleSmall)
    have total : held + (places - maxScale) = places - scale := by omega
    have whole : (coefficient : ℚ) / 10 ^ scale * 10 ^ min places maxScale =
        (coefficient * 10 ^ held : Nat) := by
      rw [limit, pow_add]
      push_cast
      field_simp
    unfold Fits
    rw [whole, round_natCast, reaches_iff_of_le more, ← total, pow_add, ← mul_assoc]
    norm_cast

/-- At the largest scale the rounded coefficient is the one to be shifted. -/
theorem reaches_iff_fits_of_round
    (nonneg : 0 ≤ magnitude) (bounded : coefficient < mantissaBound)
    (rounds : round (magnitude * 10 ^ maxScale) = (coefficient : Int)) :
    Reaches coefficient maxScale places ↔ Fits magnitude places := by
  rcases Nat.le_total places maxScale with fewer | more
  · refine iff_of_true (reaches_of_le bounded fewer) ?_
    refine fits_of_le nonneg ?_ fewer le_rfl
    rw [← round_lt_mantissaBound_iff, rounds]
    exact_mod_cast bounded
  · rw [reaches_iff_of_le more, fits_iff_of_maxScale_le more, rounds]
    norm_cast

/-- Below the largest scale digits are left over only where no place is left. -/
theorem reaches_iff_fits_of_full
    (nonneg : 0 ≤ magnitude) (bounded : coefficient < mantissaBound)
    (scaleSmall : scale < maxScale) (full : mantissaBound ≤ 10 * coefficient)
    (small : magnitude * 10 ^ scale < largest + 1 / 2)
    (large : largest + 1 / 2 ≤ magnitude * 10 ^ (scale + 1)) :
    Reaches coefficient scale places ↔ Fits magnitude places := by
  -- Up to the scale both sides hold, past it both fail.
  rcases Nat.lt_or_ge scale places with more | fewer
  · exact iff_of_false (not_reaches_of_lt full more)
      (not_fits_of_le nonneg large more scaleSmall)
  · exact iff_of_true (reaches_of_le bounded fewer)
      (fits_of_le nonneg small fewer scaleSmall.le)

/-- Taking stopped at a coefficient, to which the exact value was rounded. -/
theorem reaches_iff_fits_of_stopped
    {exact : ℚ} (nonneg : 0 ≤ exact) (rounds : round exact = (coefficient : Int))
    (bounded : coefficient < mantissaBound) (scaleSmall : scale ≤ maxScale)
    (full : scale < maxScale → mantissaBound ≤ 10 * coefficient ∧ largest + 1 ≤ 10 * exact) :
    Reaches coefficient scale places ↔ Fits (exact / 10 ^ scale) places := by
  have value : exact / 10 ^ scale * 10 ^ scale = exact := div_mul_cancel₀ _ (by positivity)
  have small : exact < largest + 1 / 2 := by
    rw [← round_lt_mantissaBound_iff, rounds]
    exact_mod_cast bounded
  rcases scaleSmall.eq_or_lt with rfl | room
  · refine reaches_iff_fits_of_round places (by positivity) bounded ?_
    rw [value, rounds]
  · obtain ⟨noRoom, large⟩ := full room
    refine reaches_iff_fits_of_full places (by positivity) bounded room noRoom ?_ ?_
    · rw [value]
      exact small
    · rw [pow_succ, ← mul_assoc, value]
      linarith

/-- Digits are left over below a half: the coefficient stays. -/
theorem reaches_iff_fits_of_lt_half
    {digit : Nat} {remainder : ℚ} (digitSmall : digit < 5)
    (nonneg : 0 ≤ remainder) (small : remainder < 1)
    (bounded : coefficient < mantissaBound) (scaleSmall : scale ≤ maxScale)
    (stopped : ¬ (scale < maxScale ∧ 10 * coefficient + digit < mantissaBound)) :
    Reaches coefficient scale places ↔
      Fits ((coefficient + (digit + remainder) / 10) / 10 ^ scale) places := by
  have digitBound : (digit : ℚ) ≤ 4 := by exact_mod_cast Nat.le_of_lt_succ digitSmall
  refine reaches_iff_fits_of_stopped places (by positivity) ?_ bounded scaleSmall ?_
  · rw [round_eq_iff]
    push_cast
    constructor <;> linarith
  · intro room
    have tooLarge : mantissaBound ≤ 10 * coefficient + digit := by omega
    have exceeds : largest + 1 ≤ 10 * coefficient + digit := by
      exact_mod_cast largest_add_one_le_iff.2 tooLarge
    have lastDigit : mantissaBound % 10 = 6 := rfl
    exact ⟨by omega, by linarith⟩

/-- Digits are left over from a half on, and the coefficient has room to be raised. -/
theorem reaches_succ_iff_fits
    {digit : Nat} {remainder : ℚ} (digitLarge : 5 ≤ digit) (digitSmall : digit ≤ 9)
    (nonneg : 0 ≤ remainder) (small : remainder < 1)
    (bounded : coefficient + 1 < mantissaBound) (scaleSmall : scale ≤ maxScale)
    (stopped : ¬ (scale < maxScale ∧ 10 * coefficient + digit < mantissaBound)) :
    Reaches (coefficient + 1) scale places ↔
      Fits ((coefficient + (digit + remainder) / 10) / 10 ^ scale) places := by
  have half : (5 : ℚ) ≤ digit := by exact_mod_cast digitLarge
  have nine : (digit : ℚ) ≤ 9 := by exact_mod_cast digitSmall
  refine reaches_iff_fits_of_stopped places (by positivity) ?_ bounded scaleSmall ?_
  · rw [round_eq_iff]
    push_cast
    constructor <;> linarith
  · intro room
    have tooLarge : mantissaBound ≤ 10 * coefficient + digit := by omega
    have exceeds : largest + 1 ≤ 10 * coefficient + digit := by
      exact_mod_cast largest_add_one_le_iff.2 tooLarge
    exact ⟨by omega, by linarith⟩

/-- The last fraction digit is given up for a coefficient that cannot be raised. -/
theorem reaches_shortened_iff_fits
    {exact : ℚ} {kept : Nat} (half : largest + 1 / 2 ≤ exact) (small : exact < largest + 1)
    (isLargest : coefficient + 1 = mantissaBound) (scaleSmall : kept < maxScale) :
    Reaches ((coefficient + 1 + 4) / 10) kept places ↔ Fits (exact / 10 ^ (kept + 1)) places := by
  -- The last digit of the bound makes its tenth round up, beyond what fits ten times.
  have lastDigit : mantissaBound % 10 = 6 := rfl
  have positive : 0 < largest := by norm_num [largest]
  have nonneg : 0 ≤ exact := by linarith
  have value : exact / 10 ^ (kept + 1) * 10 ^ (kept + 1) = exact :=
    div_mul_cancel₀ _ (by positivity)
  have tenth : exact / 10 ^ (kept + 1) * 10 ^ kept = exact / 10 := by
    rw [pow_succ]
    field_simp
  refine reaches_iff_fits_of_full places (by positivity) (by omega) scaleSmall (by omega) ?_ ?_
  · rw [tenth]
    linarith
  · rw [value]
    exact half

/-- Digits are left over from a half on behind the largest coefficient.  The last fraction
digit makes room, and an integer that has none is rejected. -/
theorem exists_roundUp?_iff_of_largest
    {exact : ℚ} (half : largest + 1 / 2 ≤ exact) (small : exact < largest + 1)
    (isLargest : coefficient + 1 = mantissaBound) (scaleSmall : scale ≤ maxScale) :
    (∃ taken takenScale, roundUp? coefficient scale = some (taken, takenScale) ∧
      Reaches taken takenScale places) ↔
      Fits (exact / 10 ^ scale) places := by
  have noRoom : ¬ coefficient + 1 < mantissaBound := by omega
  have positive : 0 < largest := by norm_num [largest]
  cases scale with
  | zero =>
      have nonneg : 0 ≤ exact := by linarith
      rw [pow_zero, div_one, roundUp?, if_neg noRoom, if_pos rfl]
      refine iff_of_false (by simp) (not_fits_of_le nonneg ?_ places.zero_le scaleSmall)
      rw [pow_zero, mul_one]
      exact half
  | succ kept =>
      rw [← reaches_shortened_iff_fits places half small isLargest scaleSmall, roundUp?,
        if_neg noRoom, if_neg (Nat.succ_ne_zero kept), Nat.add_sub_cancel]
      simp

theorem exists_roundUp?_iff
    {digit : Nat} {remainder : ℚ} (digitLarge : 5 ≤ digit) (digitSmall : digit ≤ 9)
    (nonneg : 0 ≤ remainder) (small : remainder < 1)
    (bounded : coefficient < mantissaBound) (scaleSmall : scale ≤ maxScale)
    (stopped : ¬ (scale < maxScale ∧ 10 * coefficient + digit < mantissaBound)) :
    (∃ taken takenScale, roundUp? coefficient scale = some (taken, takenScale) ∧
      Reaches taken takenScale places) ↔
      Fits ((coefficient + (digit + remainder) / 10) / 10 ^ scale) places := by
  rcases Nat.lt_or_eq_of_le (Nat.succ_le_of_lt bounded) with raised | isLargest
  · rw [← reaches_succ_iff_fits places digitLarge digitSmall nonneg small raised scaleSmall
      stopped, roundUp?, if_pos raised]
    simp
  · have value : (coefficient : ℚ) = largest := by
      rw [largest, ← isLargest, Nat.cast_succ, add_sub_cancel_right]
    have half : (5 : ℚ) ≤ digit := by exact_mod_cast digitLarge
    have nine : (digit : ℚ) ≤ 9 := by exact_mod_cast digitSmall
    exact exists_roundUp?_iff_of_largest places (by linarith) (by linarith) isLargest scaleSmall

/-- One digit is taken, or it decides on rounding. -/
theorem takeFraction?_cons {letter : Char} (digit : letter.isDigit = true) (rest : Text) :
    takeFraction? coefficient scale (letter :: rest) =
      if scale < maxScale ∧ 10 * coefficient + digitValue letter < mantissaBound then
        takeFraction? (10 * coefficient + digitValue letter) (scale + 1) rest
      else if 5 ≤ digitValue letter then
        roundUp? coefficient scale
      else
        some (coefficient, scale) := by
  conv_lhs => unfold takeFraction?
  rw [if_neg (ne_separator_of_isDigit digit)]
  rfl

/-- What is taken of a fraction can be shifted as far as the exact value fits. -/
theorem exists_takeFraction?_iff
    {digits : Text} (allDigits : ∀ letter ∈ digits, letter.isDigit = true)
    (bounded : coefficient < mantissaBound) (scaleSmall : scale ≤ maxScale) :
    (∃ taken takenScale, takeFraction? coefficient scale digits = some (taken, takenScale) ∧
      Reaches taken takenScale places) ↔
      Fits ((coefficient + fractionValue digits) / 10 ^ scale) places := by
  induction digits generalizing coefficient scale with
  | nil =>
      rw [fractionValue_nil, add_zero, ← reaches_iff_fits_of_exact places bounded scaleSmall]
      simp [takeFraction?]
  | cons letter rest inductionHypothesis =>
      have digit : letter.isDigit = true := allDigits letter List.mem_cons_self
      have restDigits : ∀ other ∈ rest, other.isDigit = true := fun other member =>
        allDigits other (List.mem_cons_of_mem letter member)
      have nonneg := fractionValue_nonneg rest
      have small := fractionValue_lt_one restDigits
      have nine := digitValue_le_nine digit
      rw [takeFraction?_cons digit, fractionValue_cons digit]
      by_cases room : scale < maxScale ∧ 10 * coefficient + digitValue letter < mantissaBound
      · -- Taking a digit keeps the exact value, so the hypothesis speaks of the same one.
        have shifted : ((10 * coefficient + digitValue letter : Nat) + fractionValue rest) /
            10 ^ (scale + 1) =
            (coefficient + (digitValue letter + fractionValue rest) / 10) / 10 ^ scale := by
          rw [pow_succ]
          push_cast
          field_simp
          ring
        rw [if_pos room, inductionHypothesis restDigits room.2 room.1, shifted]
      · rw [if_neg room]
        by_cases half : 5 ≤ digitValue letter
        · rw [if_pos half]
          exact exists_roundUp?_iff places half nine nonneg small bounded scaleSmall room
        · rw [if_neg half, ← reaches_iff_fits_of_lt_half places (Nat.lt_of_not_le half) nonneg
            small bounded scaleSmall room]
          simp

/-- What is taken of a fraction is within the bounds. -/
theorem takeFraction?_bounds
    {digits : Text} (allDigits : ∀ letter ∈ digits, letter.isDigit = true)
    (bounded : coefficient < mantissaBound) (scaleSmall : scale ≤ maxScale)
    {taken takenScale : Nat}
    (taking : takeFraction? coefficient scale digits = some (taken, takenScale)) :
    taken < mantissaBound ∧ takenScale ≤ maxScale := by
  induction digits generalizing coefficient scale with
  | nil =>
      cases taking
      exact ⟨bounded, scaleSmall⟩
  | cons letter rest inductionHypothesis =>
      rw [takeFraction?_cons (allDigits letter List.mem_cons_self)] at taking
      split at taking
      · rename_i room
        exact inductionHypothesis
          (fun other member => allDigits other (List.mem_cons_of_mem letter member))
          room.2 room.1 taking
      · split at taking
        · unfold roundUp? at taking
          split at taking
          · rename_i raised
            cases taking
            exact ⟨raised, scaleSmall⟩
          · split at taking
            · cases taking
            · cases taking
              exact ⟨by omega, (Nat.sub_le scale 1).trans scaleSmall⟩
        · cases taking
          exact ⟨bounded, scaleSmall⟩

end Taking

end NumeralStyle.Decimal
