import Mathlib
import NumeralStyle.Numeral.Reading

/-!
# Letters of numerals

Every character of a numeral is a digit, a letter, a separator, a point or a sign.
The classes of characters that the reader tests are given here by code points, so
that arithmetic decides which of them meet.  Two consequences matter later: no
character of a numeral is blank, and of all letters only `x` and `b` can follow the
zero of a mark.
-/

namespace NumeralStyle

theorem isUpper_iff_toNat {letter : Char} :
    letter.isUpper = true ↔ 65 ≤ letter.toNat ∧ letter.toNat ≤ 90 := by
  simp only [Char.isUpper, decide_eq_true_eq, ge_iff_le, UInt32.le_iff_toNat_le]
  exact Iff.rfl

theorem isLower_iff_toNat {letter : Char} :
    letter.isLower = true ↔ 97 ≤ letter.toNat ∧ letter.toNat ≤ 122 := by
  simp only [Char.isLower, Bool.and_eq_true, decide_eq_true_eq, ge_iff_le,
    UInt32.le_iff_toNat_le]
  exact Iff.rfl

theorem isHexadecimalDigit_iff_toNat {letter : Char} :
    Base.hexadecimal.isDigit letter = true ↔
      (48 ≤ letter.toNat ∧ letter.toNat ≤ 57) ∨
        (97 ≤ letter.toNat ∧ letter.toNat ≤ 102) ∨
          (65 ≤ letter.toNat ∧ letter.toNat ≤ 70) := by
  simp only [Base.isDigit, Bool.or_eq_true, Bool.and_eq_true, decide_eq_true_eq,
    Char.isDigit_iff_toNat, Char.le_def, UInt32.le_iff_toNat_le, Char.toNat_val, or_assoc]
  exact Iff.rfl

theorem isBinaryDigit_iff_toNat {letter : Char} :
    Base.binary.isDigit letter = true ↔ letter.toNat = 48 ∨ letter.toNat = 49 := by
  simp only [Base.isDigit, Bool.or_eq_true, decide_eq_true_eq, ← Char.toNat_inj]
  exact Iff.rfl

/-- A letter whose lower case is a given lower-case letter is that letter or the
upper case of it. -/
theorem toLower_eq_iff
    {letter lower : Char} (isLower : 97 ≤ lower.toNat ∧ lower.toNat ≤ 122) :
    letter.toLower = lower ↔ letter = lower ∨ letter = Char.ofNat (lower.toNat - 32) := by
  have validUpper : (lower.toNat - 32).isValidChar := Or.inl (by omega)
  simp only [← Char.toNat_inj, Char.toNat_ofNat, if_pos validUpper]
  by_cases upper : letter.isUpper = true
  · have bounds := isUpper_iff_toNat.1 upper
    have validLower : (letter.toNat + 32).isValidChar := Or.inl (by omega)
    rw [Char.toLower_eq_of_isUpper upper, Char.toNat_ofNat, if_pos validLower]
    omega
  · rw [Char.toLower_eq_of_not_isUpper upper]
    rw [isUpper_iff_toNat] at upper
    omega

/-- The characters that occur in numerals. -/
def isNumeralLetter (letter : Char) : Bool :=
  letter.isAlphanum || letter = separator || letter = '.' || letter = '+' || letter = '-'

theorem isNumeralLetter_iff_toNat {letter : Char} :
    isNumeralLetter letter = true ↔
      (65 ≤ letter.toNat ∧ letter.toNat ≤ 90) ∨ (97 ≤ letter.toNat ∧ letter.toNat ≤ 122) ∨
        (48 ≤ letter.toNat ∧ letter.toNat ≤ 57) ∨ letter.toNat = 95 ∨ letter.toNat = 46 ∨
          letter.toNat = 43 ∨ letter.toNat = 45 := by
  simp only [isNumeralLetter, Char.isAlphanum, Char.isAlpha, Bool.or_eq_true,
    isUpper_iff_toNat, isLower_iff_toNat, Char.isDigit_iff_toNat, decide_eq_true_eq,
    ← Char.toNat_inj, or_assoc]
  exact Iff.rfl

theorem isBlank_of_isNumeralLetter
    {letter : Char} (accepted : isNumeralLetter letter = true) :
    Text.isBlank letter = false := by
  rw [isNumeralLetter_iff_toNat] at accepted
  simp only [Text.isBlank, Text.inRanges, Text.blankRanges, Text.CodeRange.contains,
    List.any_cons, List.any_nil, Bool.or_eq_false_iff, Bool.and_eq_false_iff,
    decide_eq_false_iff_not, and_true]
  omega

theorem isNumeralLetter_of_isIntegerDigit
    {base : Base} {letter : Char} (accepted : Numeral.isIntegerDigit base letter = true) :
    isNumeralLetter letter = true := by
  rw [isNumeralLetter_iff_toNat]
  simp only [Numeral.isIntegerDigit, Bool.or_eq_true, decide_eq_true_eq] at accepted
  rcases accepted with rfl | digit
  · decide
  · cases base with
    | decimal =>
        have bounds := Char.isDigit_iff_toNat.1 digit
        change 48 ≤ letter.toNat ∧ letter.toNat ≤ 57 at bounds
        omega
    | hexadecimal =>
        have bounds := isHexadecimalDigit_iff_toNat.1 digit
        omega
    | binary =>
        have bounds := isBinaryDigit_iff_toNat.1 digit
        omega

end NumeralStyle
