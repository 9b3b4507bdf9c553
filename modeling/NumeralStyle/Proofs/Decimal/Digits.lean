import Mathlib.Algebra.Order.Field.Rat
import Mathlib.Tactic.FieldSimp
import Mathlib.Tactic.Linarith
import Mathlib.Tactic.Positivity
import Mathlib.Tactic.Ring
import NumeralStyle.Proofs.Numeral.Shape

/-!
# Exact values of digits

The regions of a real stand for a rational number: the integer and the fraction give a
mantissa, which is multiplied by a power of ten.  Nothing is rounded here, and neither
the mantissa nor the exponent has a bound.
-/

namespace NumeralStyle

namespace Decimal

/-- The value of one digit. -/
def digitValue (letter : Char) : Nat :=
  letter.toNat - '0'.toNat

/-- The value of digits behind a point, separators left out. -/
def fractionValue (digits : Text) : ℚ :=
  digitsValue digits / 10 ^ (scrub digits).length

theorem digitValue_le_nine {letter : Char} (digit : letter.isDigit = true) :
    digitValue letter ≤ 9 := by
  unfold digitValue
  simp only [Char.isDigit_iff_toNat, Char.reduceToNat] at digit ⊢
  omega

theorem scrub_cons_of_isDigit {letter : Char} (digit : letter.isDigit = true) (rest : Text) :
    scrub (letter :: rest) = letter :: scrub rest :=
  List.filter_cons_of_pos (decide_eq_true (ne_separator_of_isDigit digit))

@[simp]
theorem digitsValue_scrub (digits : Text) : digitsValue (scrub digits) = digitsValue digits := by
  unfold digitsValue
  rw [scrub_scrub]

@[simp]
theorem fractionValue_scrub (digits : Text) :
    fractionValue (scrub digits) = fractionValue digits := by
  unfold fractionValue
  rw [digitsValue_scrub, scrub_scrub]

theorem digitsValue_cons {letter : Char} (digit : letter.isDigit = true) (rest : Text) :
    digitsValue (letter :: rest) =
      10 ^ (scrub rest).length * digitValue letter + digitsValue rest := by
  unfold digitsValue
  rw [scrub_cons_of_isDigit digit, Nat.ofDigitChars_cons, Nat.ofDigitChars_eq_ofDigitChars_zero,
    Nat.mul_zero, Nat.zero_add]
  rfl

theorem fractionValue_nil : fractionValue [] = 0 := by
  unfold fractionValue
  rw [show digitsValue [] = 0 from rfl, Nat.cast_zero, zero_div]

theorem fractionValue_cons {letter : Char} (digit : letter.isDigit = true) (rest : Text) :
    fractionValue (letter :: rest) = (digitValue letter + fractionValue rest) / 10 := by
  unfold fractionValue
  rw [digitsValue_cons digit, scrub_cons_of_isDigit digit, List.length_cons, pow_succ]
  push_cast
  field_simp

theorem fractionValue_nonneg (digits : Text) : 0 ≤ fractionValue digits := by
  unfold fractionValue
  positivity

/-- A fraction is less than one. -/
theorem fractionValue_lt_one
    {digits : Text} (allDigits : ∀ letter ∈ digits, letter.isDigit = true) :
    fractionValue digits < 1 := by
  induction digits with
  | nil =>
      rw [fractionValue_nil]
      exact one_pos
  | cons letter rest inductionHypothesis =>
      have digit : letter.isDigit = true := allDigits letter List.mem_cons_self
      have restSmall := inductionHypothesis fun other member =>
        allDigits other (List.mem_cons_of_mem letter member)
      have digitSmall : (digitValue letter : ℚ) ≤ 9 := by
        exact_mod_cast digitValue_le_nine digit
      rw [fractionValue_cons digit]
      linarith

end Decimal

namespace Regions

/-- The value of the digits in front of the exponent. -/
def mantissaValue (regions : Regions) : ℚ :=
  Decimal.digitsValue regions.integer + regions.fraction.elim 0 Decimal.fractionValue

/-- The value of the exponent.  An absent exponent is zero. -/
def exponentValue (regions : Regions) : ℤ :=
  match regions.exponent with
  | [] => 0
  | _ :: power => Decimal.applySign power (Decimal.digitsValue (dropSign power))

/-- The number for which the regions of a real stand. -/
def value (regions : Regions) : ℚ :=
  regions.mantissaValue * 10 ^ regions.exponentValue

/-- Separators carry no value. -/
@[simp]
theorem mantissaValue_scrubbed (regions : Regions) :
    regions.scrubbed.mantissaValue = regions.mantissaValue := by
  unfold mantissaValue scrubbed
  cases regions.fraction <;> simp

end Regions

end NumeralStyle
