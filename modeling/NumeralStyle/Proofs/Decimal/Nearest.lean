import NumeralStyle.Proofs.Decimal.Value

/-!
# Rounding to the nearest number

A number is rounded to a scale by taking the nearest multiple of the unit of that scale, and
of two nearest ones the one further from zero.  There is never another choice, so that this
determines the rounded number.  The main statement says that a shift to the right divides
exactly and rounds once, at the largest scale.
-/

namespace NumeralStyle.Decimal

/-- Whether an integer is the nearest to a number, and the one further from zero if there are
two. -/
structure IsNearest (exact : ℚ) (nearest : ℤ) : Prop where
  near : |exact - nearest| ≤ 1 / 2
  away : |exact - nearest| = 1 / 2 → |exact| ≤ |(nearest : ℚ)|

/-- Whether a number is another one rounded to so many fraction digits, with a half going away
from zero. -/
def RoundsTo (scale : Nat) (exact rounded : ℚ) : Prop :=
  ∃ units : ℤ, rounded = units / 10 ^ scale ∧ IsNearest (exact * 10 ^ scale) units

variable {exact rounded other : ℚ} {nearest second : ℤ} {scale places : Nat}

theorem isNearest_intCast (nearest : ℤ) : IsNearest nearest nearest where
  near := by norm_num
  away := fun _ => le_rfl

theorem IsNearest.neg (isNearest : IsNearest exact nearest) : IsNearest (-exact) (-nearest) := by
  have distance : |-exact - (-nearest : ℤ)| = |exact - nearest| := by
    rw [Int.cast_neg, ← neg_sub', abs_neg]
  constructor
  · rw [distance]
    exact isNearest.near
  · intro half
    rw [distance] at half
    rw [abs_neg, Int.cast_neg, abs_neg]
    exact isNearest.away half

/-- No number has two nearest integers. -/
theorem IsNearest.unique
    (isFirst : IsNearest exact nearest) (isSecond : IsNearest exact second) :
    nearest = second := by
  wlog ordered : nearest ≤ second generalizing nearest second
  · exact (this isSecond isFirst (le_of_not_ge ordered)).symm
  by_contra different
  have apart : (nearest : ℚ) + 1 ≤ second := by
    exact_mod_cast lt_of_le_of_ne ordered different
  have below := (abs_le.1 isFirst.near).2
  have above := (abs_le.1 isSecond.near).1
  -- Two of them would have the number halfway between them.
  have halfway : exact = nearest + 1 / 2 := by linarith
  have next : (second : ℚ) = nearest + 1 := by linarith
  have firstAway := isFirst.away (by rw [halfway]; norm_num)
  have secondAway := isSecond.away (by rw [halfway, next]; norm_num)
  rw [halfway] at firstAway secondAway
  rw [next] at secondAway
  by_cases negative : nearest < 0
  · have nearestBound : (nearest : ℚ) + 1 ≤ 0 := by
      exact_mod_cast negative
    rw [abs_of_nonpos nearestBound, abs_of_nonpos (by linarith)] at secondAway
    linarith
  · have nearestBound : (0 : ℚ) ≤ nearest := by
      exact_mod_cast not_lt.1 negative
    rw [abs_of_nonneg nearestBound, abs_of_nonneg (by linarith)] at firstAway
    linarith

/-- There is one way only to round a number to a scale. -/
theorem RoundsTo.unique
    (isRounded : RoundsTo scale exact rounded) (isOther : RoundsTo scale exact other) :
    rounded = other := by
  obtain ⟨units, value, isNearest⟩ := isRounded
  obtain ⟨otherUnits, otherValue, otherNearest⟩ := isOther
  rw [value, otherValue, isNearest.unique otherNearest]

/-- A number that needs no more fraction digits is rounded to itself. -/
theorem roundsTo_of_eq_div (units : ℤ) (value : exact = units / 10 ^ scale) :
    RoundsTo scale exact exact := by
  have whole : exact * 10 ^ scale = units := by
    rw [value, div_mul_cancel₀ _ (by positivity)]
  refine ⟨units, value, ?_⟩
  rw [whole]
  exact isNearest_intCast units

/-! ## The rounded quotient -/

/-- Adding half a divisor before the quotient is cut off rounds a magnitude. -/
theorem isNearest_natQuotient (magnitude : Nat) {divisor : Nat} (positive : 0 < divisor) :
    IsNearest (magnitude / divisor)
      ((2 * magnitude + divisor) / (2 * divisor) : Nat) := by
  have lower := Nat.div_mul_le_self (2 * magnitude + divisor) (2 * divisor)
  have upper := Nat.lt_div_mul_add (a := 2 * magnitude + divisor) (Nat.mul_pos two_pos positive)
  generalize (2 * magnitude + divisor) / (2 * divisor) = quotient at lower upper ⊢
  have positiveCast : (0 : ℚ) < divisor := by exact_mod_cast positive
  have lowerCast : (quotient : ℚ) * (2 * divisor) ≤ 2 * magnitude + divisor := by
    exact_mod_cast lower
  have upperCast : (2 * magnitude + divisor : ℚ) < quotient * (2 * divisor) + 2 * divisor := by
    exact_mod_cast upper
  have atLeast : (quotient : ℚ) - 1 / 2 ≤ magnitude / divisor := by
    rw [le_div_iff₀ positiveCast]
    linarith
  have below : (magnitude / divisor : ℚ) < quotient + 1 / 2 := by
    rw [div_lt_iff₀ positiveCast]
    linarith
  constructor
  · rw [Int.cast_natCast, abs_le]
    constructor <;> linarith
  · rw [Int.cast_natCast]
    intro half
    -- The quotient is never a half below the number, so it is a half above.
    have notBelow : magnitude / divisor - (quotient : ℚ) ≠ 1 / 2 := by
      intro equal
      linarith
    have isAbove := ((abs_eq (by norm_num)).1 half).resolve_left notBelow
    rw [abs_of_nonneg (by positivity), abs_of_nonneg (by positivity)]
    linarith

theorem isNearest_roundedQuotient (mantissa : Int) {divisor : Nat} (positive : 0 < divisor) :
    IsNearest (mantissa / divisor) (roundedQuotient mantissa divisor) := by
  have nearest := isNearest_natQuotient mantissa.natAbs positive
  rw [Nat.cast_natAbs] at nearest
  unfold roundedQuotient
  rcases lt_trichotomy mantissa 0 with negative | zero | greater
  · have negated := nearest.neg
    rw [abs_of_neg negative, Int.cast_neg, neg_div, neg_neg] at negated
    rw [Int.sign_eq_neg_one_of_neg negative, neg_one_mul]
    exact negated
  · rw [zero, Int.sign_zero, zero_mul, Int.cast_zero, zero_div]
    exact isNearest_intCast 0
  · rw [abs_of_pos greater] at nearest
    rw [Int.sign_eq_one_of_pos greater, one_mul]
    exact nearest

/-- A divisor of more than twice the mantissa leaves nothing. -/
theorem roundedQuotient_eq_zero {mantissa : Int} {divisor : Nat}
    (small : 2 * mantissa.natAbs < divisor) :
    roundedQuotient mantissa divisor = 0 := by
  have vanishes : (2 * mantissa.natAbs + divisor) / (2 * divisor) = 0 :=
    Nat.div_eq_of_lt (by omega)
  rw [roundedQuotient, vanishes, Nat.cast_zero, mul_zero]

/-- A power of ten that is recognised as too large would leave nothing as well. -/
theorem dropDigits_eq
    {mantissa : Int} (bounded : mantissa.natAbs < mantissaBound) (places : Nat) :
    dropDigits mantissa places = roundedQuotient mantissa (tenPower places) := by
  unfold dropDigits
  by_cases large : vanishingPower ≤ places
  · have power : 10 ^ vanishingPower ≤ tenPower places :=
      Nat.pow_le_pow_right (by decide) large
    have bound : 2 * mantissaBound < 10 ^ vanishingPower := by decide
    rw [if_pos large, roundedQuotient_eq_zero (by omega)]
  · rw [if_neg large]

theorem natCast_tenPower (places : Nat) : (tenPower places : ℚ) = 10 ^ places :=
  Nat.cast_pow 10 places

theorem parts_shiftRight_of_le
    {number : Decimal} (fits : number.normalize.scale + places ≤ maxScale) :
    (number.shiftRight places).mantissa = number.normalize.mantissa ∧
      (number.shiftRight places).scale = number.normalize.scale + places := by
  unfold shiftRight
  rw [dif_pos fits]
  exact ⟨rfl, rfl⟩

theorem parts_shiftRight_of_lt
    {number : Decimal} (exceeds : maxScale < number.normalize.scale + places) :
    (number.shiftRight places).mantissa =
        roundedQuotient number.normalize.mantissa
          (tenPower (number.normalize.scale + places - maxScale)) ∧
      (number.shiftRight places).scale = maxScale := by
  rw [← dropDigits_eq number.normalize.natAbs_mantissa_lt]
  unfold shiftRight
  rw [dif_neg (Nat.not_le_of_lt exceeds)]
  exact ⟨rfl, rfl⟩

/-- A shift to the right divides exactly and rounds once, at the largest scale. -/
theorem roundsTo_shiftRight (number : Decimal) (places : Nat) :
    RoundsTo maxScale (number.toRat / 10 ^ places) (number.shiftRight places).toRat := by
  have value : number.toRat / 10 ^ places =
      number.normalize.mantissa / 10 ^ (number.normalize.scale + places) := by
    rw [← toRat_normalize, toRat, div_div, pow_add]
  rw [value]
  rcases Nat.lt_or_ge maxScale (number.normalize.scale + places) with exceeds | fits
  · obtain ⟨mantissa, scale⟩ := parts_shiftRight_of_lt exceeds
    refine ⟨(number.shiftRight places).mantissa, by rw [toRat, scale], ?_⟩
    obtain ⟨excess, total⟩ := Nat.exists_eq_add_of_le exceeds.le
    have units : (number.normalize.mantissa : ℚ) / 10 ^ (number.normalize.scale + places) *
        10 ^ maxScale = number.normalize.mantissa / tenPower excess := by
      rw [total, pow_add, natCast_tenPower]
      field_simp
    rw [units, mantissa, total, Nat.add_sub_cancel_left]
    exact isNearest_roundedQuotient _ (tenPower_pos excess)
  · obtain ⟨mantissa, scale⟩ := parts_shiftRight_of_le fits
    obtain ⟨room, total⟩ := Nat.exists_eq_add_of_le fits
    have power : (10 : ℚ) ^ room ≠ 0 := pow_ne_zero room (by norm_num)
    rw [toRat, mantissa, scale]
    refine roundsTo_of_eq_div (number.normalize.mantissa * 10 ^ room) ?_
    push_cast
    rw [total, pow_add _ _ room, mul_div_mul_right _ _ power]

end NumeralStyle.Decimal
