/-!
# Decimal numbers of bounded size

A decimal number is an integer mantissa divided by a power of ten.  The mantissa
has at most 96 bits beside its sign and the scale, the number of fraction digits,
is at most 28.
-/

namespace NumeralStyle

/-- One more than the largest mantissa of a decimal number, two to the power 96. -/
abbrev Decimal.mantissaBound : Nat :=
  79228162514264337593543950336

abbrev Decimal.maxScale : Nat :=
  28

/-- A mantissa and the number of its digits behind the point, both in bounds. -/
structure Decimal where
  mantissa : Int
  scale : Nat
  natAbs_mantissa_lt : mantissa.natAbs < Decimal.mantissaBound
  scale_le : scale ≤ Decimal.maxScale
  deriving DecidableEq, Repr

namespace Decimal

def ofParts? (mantissa : Int) (scale : Nat) : Option Decimal :=
  if bounds : mantissa.natAbs < mantissaBound ∧ scale ≤ maxScale then
    some ⟨mantissa, scale, bounds.1, bounds.2⟩
  else
    none

end Decimal

end NumeralStyle
