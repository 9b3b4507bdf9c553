import NumeralStyle.Proofs.Decimal.Reading

/-!
# Exponents of decimal numbers

A mantissa is accepted alike without an exponent, with an exponent of zero and with a
negative one, since only a shift to the left can fail.  The further such a shift goes, the
larger is the product that has to fit.  So the exponents with which a mantissa is accepted
have no gap below the largest of them, however they are spelled, and the main statement
says so of every text in front of the exponent.
-/

namespace NumeralStyle.Decimal

/-- The digits of a number behind leading zeros. -/
def paddedDigits (zeros value : Nat) : Text :=
  List.replicate zeros '0' ++ Nat.toDigits 10 value

/-- The spellings of an exponent: a marker of either case, at most one sign, any number of
leading zeros, and the digits. -/
inductive SpellsExponent : Int → Text → Prop
  | unsigned (marker : Char) (zeros value : Nat) :
      isExponentMarker marker = true →
      SpellsExponent value (marker :: paddedDigits zeros value)
  | plus (marker : Char) (zeros value : Nat) :
      isExponentMarker marker = true →
      SpellsExponent value (marker :: '+' :: paddedDigits zeros value)
  | minus (marker : Char) (zeros value : Nat) :
      isExponentMarker marker = true →
      SpellsExponent (-value) (marker :: '-' :: paddedDigits zeros value)

variable {exponent lower upper : Int} {mantissa spelling : Text} {zeros value : Nat}

/-! ## Digits behind leading zeros -/

theorem isDigit_of_mem_paddedDigits {letter : Char} (member : letter ∈ paddedDigits zeros value) :
    letter.isDigit = true := by
  rcases List.mem_append.1 member with leading | digit
  · rw [List.eq_of_mem_replicate leading]
    rfl
  · exact Nat.isDigit_of_mem_toDigits (by decide) (by decide) digit

theorem isDigitRun_paddedDigits (zeros value : Nat) :
    isDigitRun (paddedDigits zeros value) = true :=
  isDigitRun_of_forall_isDigit (List.append_ne_nil_of_right_ne_nil _ Nat.toDigits_ne_nil)
    fun _ => isDigit_of_mem_paddedDigits

/-- Leading zeros do not change the value of digits. -/
theorem digitsValue_paddedDigits (zeros value : Nat) :
    digitsValue (paddedDigits zeros value) = value := by
  induction zeros with
  | zero =>
      have unseparated : separator ∉ paddedDigits 0 value := fun member =>
        ne_separator_of_isDigit (isDigit_of_mem_paddedDigits member) rfl
      rw [digitsValue, scrub_eq_self unseparated]
      exact Nat.ofDigitChars_ten_toDigits
  | succ zeros inductionHypothesis =>
      have zero : digitValue '0' = 0 := rfl
      rw [paddedDigits, List.replicate_succ, List.cons_append, ← paddedDigits,
        digitsValue_cons (by decide), zero, Nat.mul_zero, Nat.zero_add, inductionHypothesis]

/-! ## Reading a spelled exponent -/

/-- A spelling falls into its marker, its sign and its digits. -/
theorem SpellsExponent.exists_parts (spells : SpellsExponent exponent spelling) :
    ∃ marker sign zeros value, isExponentMarker marker = true ∧ sign ∈ signs ∧
      spelling = marker :: (sign ++ paddedDigits zeros value) ∧
        exponent = applySign sign value := by
  cases spells with
  | unsigned marker zeros value marked =>
      exact ⟨marker, [], zeros, value, marked, by decide, rfl, rfl⟩
  | plus marker zeros value marked =>
      exact ⟨marker, ['+'], zeros, value, marked, by decide, rfl, rfl⟩
  | minus marker zeros value marked =>
      exact ⟨marker, ['-'], zeros, value, marked, by decide, rfl, rfl⟩

/-- However an exponent of 32 bits is spelled, the mantissa in front of it is shifted by it. -/
theorem SpellsExponent.ofText?_append
    (spells : SpellsExponent exponent spelling)
    (unmarked : ∀ letter ∈ mantissa, isExponentMarker letter = false)
    (inRange : -exponentBound ≤ exponent ∧ exponent < exponentBound) :
    ofText? (mantissa ++ spelling) =
      (readSigned? mantissa).bind fun number => number.shift exponent := by
  obtain ⟨marker, sign, zeros, value, marked, isSign, rfl, rfl⟩ := spells.exists_parts
  have reading := readExponent?_append isSign (isDigitRun_paddedDigits zeros value)
    fun _ => isDigit_of_mem_paddedDigits
  rw [digitsValue_paddedDigits, if_pos inRange] at reading
  rw [ofText?_append_cons unmarked marked, reading]
  rfl

/-! ## Shifting by a smaller exponent -/

/-- A number that can be shifted can be shifted by every smaller exponent. -/
theorem isSome_shift_of_le
    {number : Decimal} (le : lower ≤ upper) (shifts : (number.shift upper).isSome = true) :
    (number.shift lower).isSome = true := by
  rw [isSome_shift_iff, isSome_shiftLeft_iff] at shifts ⊢
  have power : (10 : ℚ) ^ lower.toNat ≤ 10 ^ upper.toNat :=
    pow_le_pow_right₀ (by norm_num) (Int.toNat_le_toNat le)
  calc
    |number.toRat| * 10 ^ lower.toNat ≤ |number.toRat| * 10 ^ upper.toNat :=
      mul_le_mul_of_nonneg_left power (abs_nonneg _)
    _ ≤ largest := shifts

/-- Exponents that are not positive shift every number. -/
theorem isSome_shift_of_nonpos (number : Decimal) (nonpos : exponent ≤ 0) :
    (number.shift exponent).isSome = true := by
  rw [isSome_shift_iff, Int.toNat_of_nonpos nonpos]
  exact number.isSome_shiftLeft_zero

/-! ## Acceptance -/

/-- A spelled exponent is accepted behind a mantissa that is read and can be shifted. -/
theorem SpellsExponent.accepts_append_iff
    (spells : SpellsExponent exponent spelling)
    (unmarked : ∀ letter ∈ mantissa, isExponentMarker letter = false)
    (inRange : -exponentBound ≤ exponent ∧ exponent < exponentBound) :
    RealType.decimal.accepts (mantissa ++ spelling) = true ↔
      ∃ number, readSigned? mantissa = some number ∧ (number.shift exponent).isSome = true := by
  rw [RealType.accepts, spells.ofText?_append unmarked inRange, Option.isSome_bind,
    Option.any_eq_true]

/-- A spelled exponent that is not positive is accepted behind every mantissa that is
accepted alone. -/
theorem SpellsExponent.accepts_append_iff_of_nonpos
    (spells : SpellsExponent exponent spelling)
    (unmarked : ∀ letter ∈ mantissa, isExponentMarker letter = false)
    (bounded : -exponentBound ≤ exponent) (nonpos : exponent ≤ 0) :
    RealType.decimal.accepts (mantissa ++ spelling) = true ↔
      RealType.decimal.accepts mantissa = true := by
  have below : exponent < exponentBound := nonpos.trans_lt (by decide)
  rw [spells.accepts_append_iff unmarked ⟨bounded, below⟩, RealType.accepts,
    ofText?_of_unmarked unmarked, Option.isSome_iff_exists]
  constructor
  · intro found
    obtain ⟨number, reading, -⟩ := found
    exact ⟨number, reading⟩
  · intro found
    obtain ⟨number, reading⟩ := found
    exact ⟨number, reading, number.isSome_shift_of_nonpos nonpos⟩

/-- A mantissa that is accepted with an exponent is accepted with every smaller one of 32
bits.  It is accepted alone if it is with an exponent of zero, and if it is with a negative
exponent. -/
theorem accepts_append_antitone
    (unmarked : ∀ letter ∈ mantissa, isExponentMarker letter = false) :
    (∀ lower upper lowerSpelling upperSpelling,
      -exponentBound ≤ lower → lower ≤ upper → upper < exponentBound →
      SpellsExponent lower lowerSpelling → SpellsExponent upper upperSpelling →
      RealType.decimal.accepts (mantissa ++ upperSpelling) = true →
        RealType.decimal.accepts (mantissa ++ lowerSpelling) = true) ∧
    (∀ spelling, SpellsExponent 0 spelling →
      (RealType.decimal.accepts mantissa = true ↔
        RealType.decimal.accepts (mantissa ++ spelling) = true)) ∧
    ∀ exponent spelling, -exponentBound ≤ exponent → exponent < 0 →
      SpellsExponent exponent spelling →
      (RealType.decimal.accepts (mantissa ++ spelling) = true ↔
        RealType.decimal.accepts mantissa = true) := by
  refine ⟨?_, ?_, ?_⟩
  · intro lower upper lowerSpelling upperSpelling bounded le below spellsLower spellsUpper accepted
    rw [spellsUpper.accepts_append_iff unmarked ⟨bounded.trans le, below⟩] at accepted
    rw [spellsLower.accepts_append_iff unmarked ⟨bounded, le.trans_lt below⟩]
    obtain ⟨number, reading, shifts⟩ := accepted
    exact ⟨number, reading, isSome_shift_of_le le shifts⟩
  · intro spelling spells
    exact (spells.accepts_append_iff_of_nonpos unmarked (by decide) le_rfl).symm
  · intro exponent spelling bounded negative spells
    exact spells.accepts_append_iff_of_nonpos unmarked bounded negative.le

/-- Seven and a half is accepted up to the exponent 28, and so with the lowest of all. -/
theorem accepts_append_antitone_seven_and_a_half :
    (∀ letter ∈ "-0_7.5_".toList, isExponentMarker letter = false) ∧
      RealType.decimal.accepts "-0_7.5_E+028".toList = true ∧
      RealType.decimal.accepts "-0_7.5_e29".toList = false ∧
      RealType.decimal.accepts "-0_7.5_e-2147483648".toList = true ∧
      RealType.decimal.accepts "-0_7.5_".toList = true ∧
      RealType.decimal.accepts "-0_7.5_e0".toList = true := by
  have unmarked : ∀ letter ∈ "-0_7.5_".toList, isExponentMarker letter = false := by
    simp [isExponentMarker]
  have zero : SpellsExponent 0 "e0".toList := .unsigned 'e' 0 0 rfl
  have upper : SpellsExponent 28 "E+028".toList := .plus 'E' 1 28 rfl
  have lowestDigits : Nat.toDigits 10 2147483648 = "2147483648".toList := by decide
  have lower : SpellsExponent (-2147483648) "e-2147483648".toList := by
    have spells := SpellsExponent.minus 'e' 0 2147483648 rfl
    rw [paddedDigits, lowestDigits] at spells
    exact spells
  have accepted : RealType.decimal.accepts "-0_7.5_E+028".toList = true := rfl
  obtain ⟨antitone, alone, negative⟩ := accepts_append_antitone unmarked
  have lowest := antitone _ _ _ _ (by decide) (by decide) (by decide) lower upper accepted
  have mantissa := (negative _ _ (by decide) (by decide) lower).1 lowest
  exact ⟨unmarked, accepted, rfl, lowest, mantissa, (alone _ zero).1 mantissa⟩

end NumeralStyle.Decimal
