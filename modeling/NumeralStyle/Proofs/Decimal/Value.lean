import Mathlib.Algebra.Order.Field.Rat
import Mathlib.Tactic.FieldSimp
import Mathlib.Tactic.Linarith
import Mathlib.Tactic.NormNum
import Mathlib.Tactic.Positivity
import Mathlib.Tactic.Ring
import NumeralStyle.Decimal.Shift

/-!
# Values of decimal numbers

A decimal number stands for a rational number.  Stripping zeros keeps it, and a shift
to the left multiplies it exactly or finds that the product is out of bounds.
-/

namespace NumeralStyle.Decimal

/-- The rational number for which a decimal number stands. -/
def toRat (number : Decimal) : ℚ :=
  number.mantissa / 10 ^ number.scale

/-- The largest decimal number. -/
def largest : ℚ :=
  mantissaBound - 1

theorem toRat_stripZeros (mantissa : Int) (scale : Nat) :
    ((stripZeros mantissa scale).1 : ℚ) / 10 ^ (stripZeros mantissa scale).2 =
      mantissa / 10 ^ scale := by
  induction scale generalizing mantissa with
  | zero => rfl
  | succ scale inductionHypothesis =>
      unfold stripZeros
      split
      · rename_i divisible
        have exact : mantissa = 10 * (mantissa / 10) :=
          (Int.mul_ediv_cancel' (Int.dvd_of_emod_eq_zero divisible)).symm
        have cast : (mantissa : ℚ) = 10 * (mantissa / 10 : Int) := by
          exact_mod_cast exact
        rw [inductionHypothesis, cast, pow_succ]
        field_simp
      · rfl

theorem toRat_normalize (number : Decimal) : number.normalize.toRat = number.toRat :=
  toRat_stripZeros number.mantissa number.scale

theorem natCast_le_largest_iff {coefficient : Nat} :
    (coefficient : ℚ) ≤ largest ↔ coefficient < mantissaBound := by
  rw [largest, le_sub_iff_add_le, ← Nat.cast_add_one, Nat.cast_le, Nat.succ_le_iff]

theorem largest_add_one_le_iff {coefficient : Nat} :
    largest + 1 ≤ coefficient ↔ mantissaBound ≤ coefficient := by
  rw [largest, sub_add_cancel, Nat.cast_le]

theorem natAbs_lt_mantissaBound_iff {mantissa : Int} :
    mantissa.natAbs < mantissaBound ↔ |(mantissa : ℚ)| ≤ largest := by
  rw [← natCast_le_largest_iff, Nat.cast_natAbs, Int.cast_abs]

theorem ofParts?_eq_some_iff {mantissa : Int} {scale : Nat} {number : Decimal} :
    ofParts? mantissa scale = some number ↔
      number.mantissa = mantissa ∧ number.scale = scale := by
  unfold ofParts?
  constructor
  · intro made
    split at made
    · cases made
      exact ⟨rfl, rfl⟩
    · cases made
  · intro parts
    obtain ⟨rfl, rfl⟩ := parts
    exact dif_pos ⟨number.natAbs_mantissa_lt, number.scale_le⟩

theorem isSome_ofParts?_iff {mantissa : Int} {scale : Nat} (small : scale ≤ maxScale) :
    (ofParts? mantissa scale).isSome ↔ |(mantissa : ℚ)| ≤ largest := by
  rw [← natAbs_lt_mantissaBound_iff]
  unfold ofParts?
  split
  · rename_i bounds
    exact iff_of_true rfl bounds.1
  · rename_i outside
    exact iff_of_false nofun fun bound => outside ⟨bound, small⟩

/-! ## Shifting to the left -/

/-- Fraction digits are spent first, and the mantissa is multiplied for the rest. -/
theorem shifted_value (mantissa : ℚ) (scale places : Nat) :
    mantissa * 10 ^ (places - min scale places) / 10 ^ (scale - min scale places) =
      mantissa / 10 ^ scale * 10 ^ places := by
  rcases Nat.le_total scale places with few | many
  · obtain ⟨more, rfl⟩ := Nat.exists_eq_add_of_le few
    rw [Nat.min_eq_left few, Nat.add_sub_cancel_left, Nat.sub_self, pow_add]
    field_simp
  · obtain ⟨more, rfl⟩ := Nat.exists_eq_add_of_le many
    rw [Nat.min_eq_right many, Nat.add_sub_cancel_left, Nat.sub_self, pow_add]
    field_simp

/-- The product is in bounds as soon as its mantissa is: if a scale is left, the mantissa
has not grown. -/
theorem abs_shifted_le_iff
    {mantissa : Int} (bounded : |(mantissa : ℚ)| ≤ largest) (scale places : Nat) :
    |(mantissa : ℚ)| * 10 ^ (places - min scale places) ≤ largest ↔
      |(mantissa : ℚ) / 10 ^ scale| * 10 ^ places ≤ largest := by
  have value := shifted_value |(mantissa : ℚ)| scale places
  rw [abs_div, abs_of_pos (show (0 : ℚ) < 10 ^ scale by positivity), ← value]
  -- Either the scale is used up, or the mantissa stays as it is and is divided.
  rcases Nat.le_total scale places with few | many
  · rw [Nat.min_eq_left few, Nat.sub_self, pow_zero, div_one]
  · rw [Nat.min_eq_right many, Nat.sub_self, pow_zero, mul_one]
    refine iff_of_true bounded ((div_le_self (abs_nonneg _) ?_).trans bounded)
    exact one_le_pow₀ (by norm_num)

theorem overflow_of_overflowPower_le {mantissa : Int} {places : Nat}
    (nonzero : mantissa ≠ 0) (many : overflowPower ≤ places) :
    largest < |(mantissa : ℚ)| * 10 ^ places := by
  have one : (1 : ℚ) ≤ |(mantissa : ℚ)| := by
    exact_mod_cast Int.one_le_abs nonzero
  have power : (10 : ℚ) ^ overflowPower ≤ 10 ^ places :=
    pow_le_pow_right₀ (by norm_num) many
  have bound : largest < 10 ^ overflowPower := by
    norm_num [largest, overflowPower]
  calc
    largest < 10 ^ overflowPower := bound
    _ ≤ 10 ^ places := power
    _ ≤ |(mantissa : ℚ)| * 10 ^ places := le_mul_of_one_le_left (by positivity) one

theorem scale_sub_le (number : Decimal) (spent : Nat) :
    number.normalize.scale - spent ≤ maxScale :=
  (Nat.sub_le number.normalize.scale spent).trans number.normalize.scale_le

/-- A shift to the left is the number with its mantissa multiplied, if that fits. -/
theorem shiftLeft_eq (number : Decimal) (places : Nat) :
    number.shiftLeft places =
      ofParts?
        (number.normalize.mantissa *
          tenPower (places - min number.normalize.scale places))
        (number.normalize.scale - min number.normalize.scale places) := by
  unfold shiftLeft
  dsimp only
  split
  · rename_i zero
    rw [zero, Int.zero_mul]
  · rename_i nonzero
    split
    · rename_i many
      have overflow := overflow_of_overflowPower_le nonzero many
      refine (Option.not_isSome_iff_eq_none.1 ?_).symm
      rw [isSome_ofParts?_iff (number.scale_sub_le _), not_le]
      simpa [abs_mul, tenPower] using overflow
    · rfl

theorem toRat_shiftLeft {number shifted : Decimal} {places : Nat}
    (shift : number.shiftLeft places = some shifted) :
    shifted.toRat = number.toRat * 10 ^ places := by
  rw [shiftLeft_eq, ofParts?_eq_some_iff] at shift
  have value := shifted_value number.normalize.mantissa number.normalize.scale places
  rw [← toRat_normalize number, toRat, toRat, shift.1, shift.2, ← value]
  simp [tenPower]

/-- A shift to the left fails only where the product is out of bounds. -/
theorem isSome_shiftLeft_iff (number : Decimal) (places : Nat) :
    (number.shiftLeft places).isSome ↔ |number.toRat| * 10 ^ places ≤ largest := by
  have bounded := natAbs_lt_mantissaBound_iff.1 number.normalize.natAbs_mantissa_lt
  have shifted := abs_shifted_le_iff bounded number.normalize.scale places
  rw [shiftLeft_eq, isSome_ofParts?_iff (number.scale_sub_le _), ← toRat_normalize number,
    toRat, ← shifted]
  simp [abs_mul, tenPower]

end NumeralStyle.Decimal
