import NumeralStyle.Decimal.Basic

/-!
# Multiplying and dividing by powers of ten

Multiplication by a power of ten spends fraction digits before it enlarges the
mantissa, is exact, and fails when the mantissa grows out of bounds.  Division adds
fraction digits as long as the scale allows; past that the quotient is rounded,
with a half going away from zero, so it never fails.  No step depends on the size
of the power: a power too large to matter is recognised beforehand.
-/

namespace NumeralStyle.Decimal

def stripZeros (mantissa : Int) : Nat → Int × Nat
  | 0 => (mantissa, 0)
  | scale + 1 =>
    if mantissa % 10 = 0 then stripZeros (mantissa / 10) scale else (mantissa, scale + 1)

theorem natAbs_stripZeros_le
    (mantissa : Int) (scale : Nat) :
    (stripZeros mantissa scale).1.natAbs ≤ mantissa.natAbs := by
  induction scale generalizing mantissa with
  | zero => exact Nat.le_refl _
  | succ scale inductionHypothesis =>
      unfold stripZeros
      split
      · exact Nat.le_trans (inductionHypothesis _) (by omega)
      · exact Nat.le_refl _

theorem scale_stripZeros_le
    (mantissa : Int) (scale : Nat) :
    (stripZeros mantissa scale).2 ≤ scale := by
  induction scale generalizing mantissa with
  | zero => exact Nat.le_refl _
  | succ scale inductionHypothesis =>
      unfold stripZeros
      split
      · exact Nat.le_trans (inductionHypothesis _) (Nat.le_succ _)
      · exact Nat.le_refl _

/-- The same number with the fewest fraction digits. -/
def normalize (value : Decimal) : Decimal where
  mantissa := (stripZeros value.mantissa value.scale).1
  scale := (stripZeros value.mantissa value.scale).2
  natAbs_mantissa_lt :=
    Nat.lt_of_le_of_lt (natAbs_stripZeros_le _ _) value.natAbs_mantissa_lt
  scale_le := Nat.le_trans (scale_stripZeros_le _ _) value.scale_le

def tenPower (places : Nat) : Nat :=
  Nat.pow 10 places

theorem tenPower_pos (places : Nat) : 0 < tenPower places :=
  Nat.pow_pos (by decide)

/-- Any nonzero mantissa leaves the bounds when multiplied by this power of ten. -/
def overflowPower : Nat :=
  29

/-- Multiply by a power of ten, if the product is in bounds. -/
def shiftLeft (value : Decimal) (places : Nat) : Option Decimal :=
  let shortest := value.normalize
  let spent := min shortest.scale places
  let remaining := places - spent
  if shortest.mantissa = 0 then
    ofParts? 0 (shortest.scale - spent)
  else if overflowPower ≤ remaining then
    none
  else
    ofParts? (shortest.mantissa * tenPower remaining) (shortest.scale - spent)

/-- Divide by a positive number, rounding to the nearest integer and a half away
from zero. -/
def roundedQuotient (mantissa : Int) (divisor : Nat) : Int :=
  mantissa.sign * ((2 * mantissa.natAbs + divisor) / (2 * divisor) : Nat)

/-- Any mantissa in bounds rounds to zero when divided by this power of ten. -/
def vanishingPower : Nat :=
  30

def dropDigits (mantissa : Int) (places : Nat) : Int :=
  if vanishingPower ≤ places then 0 else roundedQuotient mantissa (tenPower places)

theorem natAbs_roundedQuotient_le
    (mantissa : Int) {divisor : Nat} (positive : 0 < divisor) :
    (roundedQuotient mantissa divisor).natAbs ≤ mantissa.natAbs := by
  unfold roundedQuotient
  rw [Int.natAbs_mul, Int.natAbs_natCast, Int.natAbs_sign]
  by_cases zero : mantissa = 0
  · simp [zero]
  · have magnitude : 1 ≤ mantissa.natAbs := by omega
    rw [if_neg zero, Nat.one_mul]
    refine Nat.le_of_lt_succ (Nat.div_lt_of_lt_mul ?_)
    calc
      2 * mantissa.natAbs + divisor
          < 2 * mantissa.natAbs * divisor + 2 * divisor := by
            have := Nat.le_mul_of_pos_right (2 * mantissa.natAbs) positive
            omega
      _ = 2 * divisor * mantissa.natAbs.succ := by
            rw [Nat.mul_succ, Nat.mul_right_comm]

theorem natAbs_dropDigits_le
    (mantissa : Int) (places : Nat) :
    (dropDigits mantissa places).natAbs ≤ mantissa.natAbs := by
  unfold dropDigits
  split
  · exact Nat.zero_le _
  · exact natAbs_roundedQuotient_le mantissa (tenPower_pos places)

/-- Divide by a power of ten, rounding once the scale is used up. -/
def shiftRight (value : Decimal) (places : Nat) : Decimal :=
  let shortest := value.normalize
  let scale := shortest.scale + places
  if fits : scale ≤ maxScale then
    ⟨shortest.mantissa, scale, shortest.natAbs_mantissa_lt, fits⟩
  else
    ⟨dropDigits shortest.mantissa (scale - maxScale), maxScale,
      Nat.lt_of_le_of_lt (natAbs_dropDigits_le _ _) shortest.natAbs_mantissa_lt,
      Nat.le_refl _⟩

end NumeralStyle.Decimal
