import NumeralStyle.Proofs.Decimal.Value

/-!
# Multiplying by ten, place by place

A number can be multiplied by a power of ten in small steps: zeros at its end are stripped,
fraction digits are spent, and only then is the integer that is left multiplied by ten, once
for each place that is left, until it is zero or out of bounds.  The main statement says that
none of the steps loses a digit, and that they fail where the whole product is out of bounds
and nowhere else, so that they find what a single multiplication finds.
-/

namespace NumeralStyle.Decimal

/-- Take digits of the fraction into the integer, as many as are asked for and are there. -/
def spendScale (number : Decimal) (places : Nat) : Decimal where
  mantissa := number.mantissa
  scale := number.scale - min number.scale places
  natAbs_mantissa_lt := number.natAbs_mantissa_lt
  scale_le := (Nat.sub_le _ _).trans number.scale_le

/-- The product of an integer and ten, if it is in bounds. -/
def timesTen? (number : Decimal) : Option Decimal :=
  ofParts? (number.mantissa * 10) number.scale

/-- Multiply by ten so many times, or until the number is zero. -/
def timesTens? (number : Decimal) : Nat → Option Decimal
  | 0 => some number
  | places + 1 =>
    if number.mantissa = 0 then
      some number
    else
      number.timesTen?.bind fun product => product.timesTens? places

/-- Multiply by a power of ten in steps. -/
def shiftLeftByTens? (number : Decimal) (places : Nat) : Option Decimal :=
  let shortest := number.normalize
  (shortest.spendScale places).timesTens? (places - min shortest.scale places)

variable {mantissa : Int} {scale places : Nat}

/-! ## Spending the scale -/

/-- Spending fraction digits multiplies exactly. -/
theorem toRat_spendScale (number : Decimal) (places : Nat) :
    (number.spendScale places).toRat = number.toRat * 10 ^ min number.scale places := by
  have power := pow_sub_mul_pow (10 : ℚ) (Nat.min_le_left number.scale places)
  rw [toRat, toRat, ← power, spendScale]
  field_simp

/-- All fraction digits are spent before anything is multiplied. -/
theorem scale_spendScale_of_lt
    {number : Decimal} (more : min number.scale places < places) :
    (number.spendScale places).scale = 0 := by
  change number.scale - min number.scale places = 0
  omega

/-! ## Multiplying by ten -/

theorem tenPower_succ (places : Nat) : tenPower (places + 1) = 10 * tenPower places :=
  Nat.pow_succ'

theorem ofParts?_eq_none_iff (small : scale ≤ maxScale) :
    ofParts? mantissa scale = none ↔ mantissaBound ≤ mantissa.natAbs := by
  rw [← Option.not_isSome_iff_eq_none, isSome_ofParts?_iff small,
    ← natAbs_lt_mantissaBound_iff, Nat.not_lt]

/-- A mantissa that is out of bounds stays there. -/
theorem ofParts?_mul_tenPower_eq_none
    (small : scale ≤ maxScale) (outside : ofParts? mantissa scale = none) (places : Nat) :
    ofParts? (mantissa * tenPower places) scale = none := by
  rw [ofParts?_eq_none_iff small] at outside ⊢
  rw [Int.natAbs_mul, Int.natAbs_natCast]
  exact outside.trans (Nat.le_mul_of_pos_right _ (tenPower_pos places))

/-- A step leaves the product that is found in the end unchanged. -/
theorem timesTen?_bind (number : Decimal) (places : Nat) :
    (number.timesTen?.bind fun next => ofParts? (next.mantissa * tenPower places) next.scale) =
      ofParts? (number.mantissa * tenPower (places + 1)) number.scale := by
  have product : number.mantissa * tenPower (places + 1) =
      number.mantissa * 10 * tenPower places := by
    rw [tenPower_succ, Nat.cast_mul, ← mul_assoc]
    rfl
  rw [product]
  cases step : number.timesTen? with
  | none => exact (ofParts?_mul_tenPower_eq_none number.scale_le step places).symm
  | some next =>
      obtain ⟨mantissa, scale⟩ := ofParts?_eq_some_iff.1 step
      rw [Option.bind_some, mantissa, scale]

/-- A run of multiplications by ten is one multiplication by their product. -/
theorem timesTens?_eq (number : Decimal) (places : Nat) :
    number.timesTens? places = ofParts? (number.mantissa * tenPower places) number.scale := by
  induction places generalizing number with
  | zero =>
      exact (ofParts?_eq_some_iff.2 ⟨(Int.mul_one number.mantissa).symm, rfl⟩).symm
  | succ places inductionHypothesis =>
      unfold timesTens?
      by_cases zero : number.mantissa = 0
      · rw [if_pos zero, zero, zero_mul]
        exact (ofParts?_eq_some_iff.2 ⟨zero, rfl⟩).symm
      · rw [if_neg zero, ← timesTen?_bind]
        simp only [inductionHypothesis]

/-- The steps find what a single multiplication finds. -/
theorem shiftLeftByTens?_eq (number : Decimal) (places : Nat) :
    number.shiftLeftByTens? places = number.shiftLeft places := by
  rw [shiftLeft_eq]
  exact timesTens?_eq _ _

/-- Multiplying by a power of ten step by step fails exactly if the product is out of bounds,
and is exact otherwise.  Neither stripping zeros nor spending fraction digits loses anything,
and no number but an integer is multiplied. -/
theorem shiftLeftByTens?_exact (number : Decimal) (places : Nat) :
    number.shiftLeftByTens? places = number.shiftLeft places ∧
      ((number.shiftLeftByTens? places).isSome ↔ |number.toRat| * 10 ^ places ≤ largest) ∧
      (∀ shifted, number.shiftLeftByTens? places = some shifted →
        shifted.toRat = number.toRat * 10 ^ places) ∧
      number.normalize.toRat = number.toRat ∧
      (number.normalize.spendScale places).toRat =
        number.toRat * 10 ^ min number.normalize.scale places ∧
      (min number.normalize.scale places < places →
        (number.normalize.spendScale places).scale = 0) := by
  rw [shiftLeftByTens?_eq]
  refine ⟨rfl, isSome_shiftLeft_iff number places, fun _ => toRat_shiftLeft,
    toRat_normalize number, ?_, scale_spendScale_of_lt⟩
  rw [toRat_spendScale, toRat_normalize]

end NumeralStyle.Decimal
