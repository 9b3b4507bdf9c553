import NumeralStyle.Decimal.Reading
import NumeralStyle.Proofs.Decimal.Rounding
import NumeralStyle.Proofs.Numeral.Shape

/-!
# Reading decimal numbers

The digits of a real without separators are read in two steps, the mantissa and the
exponent.  The main statement says which digits are accepted, in terms of their exact
values: the exponent needs 32 bits, and the mantissa has to fit after it was shifted to
the left by the exponent.  A shift to the right rejects nothing.
-/

namespace NumeralStyle

namespace Decimal

/-! ## Decimal numbers fit unless they are shifted -/

theorem abs_toRat_le (number : Decimal) : |number.toRat| ≤ largest := by
  have bounded := natAbs_lt_mantissaBound_iff.1 number.natAbs_mantissa_lt
  rw [toRat, abs_div, abs_of_pos (show (0 : ℚ) < 10 ^ number.scale by positivity)]
  exact (div_le_self (abs_nonneg _) (one_le_pow₀ (by norm_num))).trans bounded

theorem isSome_shiftLeft_zero (number : Decimal) : (number.shiftLeft 0).isSome = true := by
  rw [isSome_shiftLeft_iff, pow_zero, mul_one]
  exact number.abs_toRat_le

theorem isSome_shiftLeft_iff_reaches
    {number : Decimal} {coefficient : Nat} (mantissa : number.mantissa = coefficient)
    (places : Nat) :
    (number.shiftLeft places).isSome ↔ Reaches coefficient number.scale places := by
  have positive : (0 : ℚ) < 10 ^ number.scale := by positivity
  rw [isSome_shiftLeft_iff, toRat, mantissa, Int.cast_natCast, abs_of_nonneg (by positivity),
    div_mul_eq_mul_div, div_le_iff₀ positive]
  rfl

/-! ## The mantissa -/

variable {regions : Regions}

theorem isDigit_of_mem_mantissa
    (shape : regions.hasMantissaShape = true) (unseparated : separator ∉ regions.mantissa) :
    (∀ letter ∈ regions.integer, letter.isDigit = true) ∧
      ∀ letter ∈ regions.fraction.getD [], letter.isDigit = true := by
  have digits : ∀ run : Text, (∀ letter ∈ run, isDigitOrSeparator letter = true) →
      (∀ letter ∈ run, letter ∈ regions.mantissa) →
      ∀ letter ∈ run, letter.isDigit = true := by
    intro run accepted included letter member
    apply isDigit_of_isDigitOrSeparator (accepted letter member)
    intro same
    exact unseparated (same ▸ included letter member)
  constructor
  · apply digits _ (Regions.integer_accepted shape)
    intro letter member
    unfold Regions.mantissa
    split
    · exact member
    · exact List.mem_append_left _ member
  · rcases Regions.hasMantissaShape_iff.1 shape with ⟨absent, _⟩ | ⟨fraction, present, _, run⟩
    · simp [absent]
    · rw [present]
      apply digits _ (isDigitRun_iff.1 run).2.2
      intro letter member
      simp [Regions.mantissa, present, member]

theorem readMantissa?_mantissa
    (shape : regions.hasMantissaShape = true) (unseparated : separator ∉ regions.mantissa)
    (nonempty : regions.integer ≠ []) :
    readMantissa? regions.mantissa =
      if mantissaBound ≤ digitsValue regions.integer then none
      else takeFraction? (digitsValue regions.integer) 0 (regions.fraction.getD []) := by
  obtain ⟨integer, fraction⟩ := isDigit_of_mem_mantissa shape unseparated
  obtain ⟨front, back⟩ := Regions.takeWhile_mantissa shape
  have opened : (regions.integer ++ regions.fraction.getD []).head?.any Char.isDigit = true := by
    rw [List.head?_append_of_ne_nil _ nonempty, List.head?_eq_some_head nonempty]
    exact integer _ (List.head_mem nonempty)
  have accepted : (regions.integer ++ regions.fraction.getD []).all isDigitOrSeparator = true := by
    rw [List.all_eq_true]
    intro letter member
    have digit := (List.mem_append.1 member).elim (integer letter) (fraction letter)
    simp [isDigitOrSeparator, digit]
  unfold readMantissa?
  dsimp only
  rw [front, back, opened, accepted]
  rfl

/-- The regions with a zero in place of an empty integer. -/
def opened (regions : Regions) : Regions :=
  if regions.integer = [] then { regions with integer := ['0'] } else regions

theorem mantissaValue_opened (regions : Regions) :
    (opened regions).mantissaValue = regions.mantissaValue := by
  unfold opened
  split
  · rename_i empty
    unfold Regions.mantissaValue
    rw [empty]
    rfl
  · rfl

/-- A mantissa with an integer opens with a digit. -/
theorem head?_mantissa_of_ne_nil
    (shape : regions.hasMantissaShape = true) (nonempty : regions.integer ≠ []) :
    ∃ first, regions.mantissa.head? = some first ∧ first.isDigit = true := by
  obtain ⟨first, opening, kind⟩ := Regions.head?_mantissa shape
  refine ⟨first, opening, kind.resolve_right ?_⟩
  intro point
  have isFirst : regions.mantissa.head? = regions.integer.head? := by
    unfold Regions.mantissa
    split
    · rfl
    · exact List.head?_append_of_ne_nil _ nonempty
  rw [opening, point] at isFirst
  have accepted := Regions.integer_accepted shape '.' (List.mem_of_mem_head? isFirst.symm)
  exact absurd accepted (by decide)

theorem mantissa_opened (shape : regions.hasMantissaShape = true) :
    (opened regions).mantissa =
      if regions.mantissa.head? = some '.' then '0' :: regions.mantissa else regions.mantissa := by
  unfold opened
  split
  · rename_i empty
    rcases Regions.hasMantissaShape_iff.1 shape with ⟨_, integer⟩ | ⟨fraction, present, _, _⟩
    · exact absurd empty (ne_nil_of_isDigitRun integer)
    · simp [Regions.mantissa, present, empty]
  · rename_i nonempty
    obtain ⟨first, opening, digit⟩ := head?_mantissa_of_ne_nil shape nonempty
    rw [opening, if_neg]
    intro point
    rw [Option.some.inj point] at digit
    exact absurd digit (by decide)

theorem shape_opened (shape : regions.hasMantissaShape = true) :
    (opened regions).hasMantissaShape = true := by
  unfold opened
  split
  · rename_i empty
    rw [Regions.hasMantissaShape_iff] at shape ⊢
    rcases shape with ⟨absent, integer⟩ | ⟨fraction, present, _, run⟩
    · exact absurd empty (ne_nil_of_isDigitRun integer)
    · exact Or.inr ⟨fraction, present, Or.inr rfl, run⟩
  · exact shape

theorem integer_opened_ne_nil (regions : Regions) : (opened regions).integer ≠ [] := by
  unfold opened
  split
  · exact List.cons_ne_nil _ _
  · assumption

theorem separator_not_mem_opened (unseparated : separator ∉ regions.mantissa)
    (shape : regions.hasMantissaShape = true) :
    separator ∉ (opened regions).mantissa := by
  rw [mantissa_opened shape]
  split
  · exact List.not_mem_cons_of_ne_of_not_mem (by decide) unseparated
  · exact unseparated

theorem dropSign_of_isDigit
    {text : Text} {first : Char} (opening : text.head? = some first)
    (digit : first.isDigit = true) :
    dropSign text = text := by
  have noSign : ([] : Text) ∈ signs := List.mem_cons_self
  refine dropSign_append noSign ⟨?_, ?_⟩
  · intro plus
    rw [opening, Option.some_inj] at plus
    exact absurd digit (by rw [plus]; decide)
  · intro minus
    rw [opening, Option.some_inj] at minus
    exact absurd digit (by rw [minus]; decide)

theorem applySign_of_isDigit
    {text : Text} {first : Char} (opening : text.head? = some first)
    (digit : first.isDigit = true) (magnitude : Nat) :
    applySign text magnitude = magnitude := by
  unfold applySign
  rw [if_neg]
  intro minus
  rw [opening, Option.some_inj] at minus
  exact absurd digit (by rw [minus]; decide)

/-- A mantissa is read as the number that was taken from its digits. -/
theorem readSigned?_mantissa (shape : regions.hasMantissaShape = true) :
    readSigned? regions.mantissa =
      (readMantissa? (opened regions).mantissa).bind fun taken => ofParts? taken.1 taken.2 := by
  obtain ⟨first, opening, digit⟩ :=
    head?_mantissa_of_ne_nil (shape_opened shape) (integer_opened_ne_nil regions)
  unfold readSigned?
  dsimp only
  rw [← mantissa_opened shape, dropSign_of_isDigit opening digit]
  cases readMantissa? (opened regions).mantissa with
  | none => rfl
  | some taken =>
      dsimp only
      rw [applySign_of_isDigit opening digit]
      rfl

/-- The number read from a mantissa can be shifted as far as the exact value fits. -/
theorem exists_readSigned?_iff
    (shape : regions.hasMantissaShape = true) (unseparated : separator ∉ regions.mantissa)
    (places : Nat) :
    (∃ number, readSigned? regions.mantissa = some number ∧
      (number.shiftLeft places).isSome = true) ↔
      Fits regions.mantissaValue places := by
  have openedShape := shape_opened shape
  have openedDigits := separator_not_mem_opened unseparated shape
  obtain ⟨_, fraction⟩ := isDigit_of_mem_mantissa openedShape openedDigits
  have value : (opened regions).mantissaValue =
      digitsValue (opened regions).integer +
        fractionValue ((opened regions).fraction.getD []) := by
    unfold Regions.mantissaValue
    cases (opened regions).fraction with
    | none => rw [Option.getD_none, fractionValue_nil]; rfl
    | some fraction => rfl
  rw [readSigned?_mantissa shape,
    readMantissa?_mantissa openedShape openedDigits (integer_opened_ne_nil regions),
    ← mantissaValue_opened, value]
  split
  · rename_i large
    refine iff_of_false (by simp) ?_
    have tooLarge : largest + 1 ≤ digitsValue (opened regions).integer :=
      largest_add_one_le_iff.2 large
    have nonneg := fractionValue_nonneg ((opened regions).fraction.getD [])
    refine not_fits_of_le (by positivity) ?_ places.zero_le (Nat.zero_le _)
    linarith
  · rename_i notLarge
    have bounded := Nat.lt_of_not_le notLarge
    have taken := exists_takeFraction?_iff places fraction bounded (Nat.zero_le maxScale)
    rw [pow_zero, div_one] at taken
    rw [← taken]
    constructor
    · intro found
      obtain ⟨number, reading, shifts⟩ := found
      obtain ⟨⟨coefficient, scale⟩, taking, parts⟩ := Option.bind_eq_some_iff.1 reading
      obtain ⟨mantissa, isScale⟩ := ofParts?_eq_some_iff.1 parts
      rw [isSome_shiftLeft_iff_reaches mantissa, isScale] at shifts
      exact ⟨coefficient, scale, taking, shifts⟩
    · intro found
      obtain ⟨coefficient, scale, taking, reaches⟩ := found
      obtain ⟨small, scaleSmall⟩ :=
        takeFraction?_bounds fraction bounded (Nat.zero_le maxScale) taking
      let number : Decimal := ⟨coefficient, scale, small, scaleSmall⟩
      have parts : ofParts? coefficient scale = some number :=
        ofParts?_eq_some_iff.2 ⟨rfl, rfl⟩
      refine ⟨number, ?_, ?_⟩
      · rw [taking]
        exact parts
      · exact (isSome_shiftLeft_iff_reaches rfl places).2 reaches

/-! ## The exponent -/

theorem applySign_append
    {sign run : Text} (isSign : sign ∈ signs) (isRun : isDigitRun run = true) (magnitude : Nat) :
    applySign (sign ++ run) magnitude = applySign sign magnitude := by
  obtain ⟨⟨first, opening, digit⟩, _⟩ := isDigitRun_iff.1 isRun
  cases sign with
  | nil => exact applySign_of_isDigit opening digit magnitude
  | cons => rfl

theorem exponentValue_eq
    {marker : Char} {sign run : Text} (isSign : sign ∈ signs) (isRun : isDigitRun run = true)
    (present : regions.exponent = marker :: (sign ++ run)) :
    regions.exponentValue = applySign sign (digitsValue run) := by
  unfold Regions.exponentValue
  rw [present]
  dsimp only
  rw [dropSign_append_of_isDigitRun isSign isRun, applySign_append isSign isRun]

theorem exponentValue_scrubbed (real : regions.IsReal) :
    regions.scrubbed.exponentValue = regions.exponentValue := by
  rcases real.exponent with absent | ⟨marker, sign, run, marked, isSign, isRun, present⟩
  · unfold Regions.exponentValue Regions.scrubbed
    rw [absent]
    rfl
  · have unseparated : separator ∉ marker :: sign := by
      rw [List.mem_cons, not_or]
      refine ⟨?_, separator_not_mem_sign isSign⟩
      intro same
      rw [← same] at marked
      cases marked
    have scrubbed : regions.scrubbed.exponent = marker :: (sign ++ scrub run) := by
      unfold Regions.scrubbed
      rw [present, ← List.cons_append, scrub_append, scrub_eq_self unseparated, List.cons_append]
    rw [exponentValue_eq isSign isRun present,
      exponentValue_eq isSign (isDigitRun_scrub isRun) scrubbed, digitsValue_scrub]

/-- Digits behind a sign are read as an exponent if that has no more than 32 bits. -/
theorem readExponent?_append
    {sign run : Text} (isSign : sign ∈ signs) (isRun : isDigitRun run = true)
    (digits : ∀ letter ∈ run, letter.isDigit = true) :
    readExponent? (sign ++ run) =
      if -exponentBound ≤ applySign sign (digitsValue run) ∧
          applySign sign (digitsValue run) < exponentBound then
        some (applySign sign (digitsValue run))
      else
        none := by
  have nonempty : run.isEmpty = false := List.isEmpty_eq_false_iff.2 (ne_nil_of_isDigitRun isRun)
  unfold readExponent?
  dsimp only
  rw [dropSign_append_of_isDigitRun isSign isRun, applySign_append isSign isRun, nonempty,
    List.all_eq_true.2 digits]
  rfl

/-- A number is shifted by every exponent that is negative, and by the others if it fits. -/
theorem isSome_shift_iff (number : Decimal) (exponent : Int) :
    (number.shift exponent).isSome ↔ (number.shiftLeft exponent.toNat).isSome := by
  unfold shift
  split
  · rename_i negative
    rw [Int.toNat_of_nonpos negative.le]
    exact iff_of_true rfl number.isSome_shiftLeft_zero
  · rename_i nonneg
    have same : exponent.natAbs = exponent.toNat := by omega
    rw [same]

/-! ## The digits -/

section Digits

variable {mantissa : Text} (unmarked : ∀ letter ∈ mantissa, isExponentMarker letter = false)

include unmarked

/-- Without a marker the digits are a mantissa. -/
theorem ofText?_of_unmarked : ofText? mantissa = readSigned? mantissa := by
  have accepted : ∀ letter ∈ mantissa, (!isExponentMarker letter) = true := by
    simpa using unmarked
  rw [ofText?, List.takeWhile_eq_self_iff.2 accepted, List.dropWhile_eq_nil_iff.2 accepted]
  cases readSigned? mantissa with
  | none => rfl
  | some number => rfl

/-- The first marker divides the digits into a mantissa and an exponent. -/
theorem ofText?_append_cons {marker : Char} (marked : isExponentMarker marker = true)
    (power : Text) :
    ofText? (mantissa ++ marker :: power) =
      (readSigned? mantissa).bind fun number => (readExponent? power).bind number.shift := by
  have accepted : ∀ letter ∈ mantissa, (!isExponentMarker letter) = true := by
    simpa using unmarked
  have stopped : ∀ letter ∈ (marker :: power).head?, (!isExponentMarker letter) = false := by
    intro letter first
    rw [← Option.some.inj first, marked]
    rfl
  obtain ⟨front, back⟩ := span_append (fun letter => !isExponentMarker letter) accepted stopped
  rw [ofText?, front, back]
  cases readSigned? mantissa with
  | none => rfl
  | some number =>
      dsimp only [Option.bind_some]
      cases readExponent? power with
      | none => rfl
      | some exponent => rfl

end Digits

/-- The digits of a real without separators are a decimal number if the exponent has no
more than 32 bits and the mantissa fits after a shift to the left. -/
theorem isSome_ofText?_iff
    (real : regions.IsReal) (unseparated : separator ∉ regions.text) :
    (ofText? regions.text).isSome ↔
      (-exponentBound ≤ regions.exponentValue ∧ regions.exponentValue < exponentBound) ∧
        Fits regions.mantissaValue regions.exponentValue.toNat := by
  have unmarked := Regions.not_isExponentMarker_of_mem_mantissa real.mantissa
  simp only [Regions.text, List.mem_append, not_or] at unseparated
  obtain ⟨inMantissa, inExponent⟩ := unseparated
  have reading := exists_readSigned?_iff real.mantissa inMantissa regions.exponentValue.toNat
  rw [← reading, Option.isSome_iff_exists, Regions.text]
  rcases real.exponent with absent | ⟨marker, sign, run, marked, isSign, isRun, present⟩
  · -- A number that is not shifted is one that is shifted by no places.
    have zero : regions.exponentValue = 0 := by
      unfold Regions.exponentValue
      rw [absent]
    rw [absent, List.append_nil, ofText?_of_unmarked unmarked, zero]
    simp [isSome_shiftLeft_zero, exponentBound]
  · have digits : ∀ letter ∈ run, letter.isDigit = true := by
      intro letter member
      apply isDigit_of_isDigitOrSeparator ((isDigitRun_iff.1 isRun).2.2 letter member)
      intro same
      rw [present] at inExponent
      exact inExponent (List.mem_cons_of_mem marker (List.mem_append_right sign (same ▸ member)))
    have value := exponentValue_eq isSign isRun present
    rw [present, ofText?_append_cons unmarked marked, readExponent?_append isSign isRun digits,
      ← value]
    constructor
    · intro found
      obtain ⟨shifted, whole⟩ := found
      obtain ⟨number, taken, rest⟩ := Option.bind_eq_some_iff.1 whole
      obtain ⟨exponent, power, shift⟩ := Option.bind_eq_some_iff.1 rest
      obtain ⟨inBounds, same⟩ := Option.ite_none_right_eq_some.1 power
      have shifts : (number.shift regions.exponentValue).isSome = true := by
        rw [Option.some.inj same, shift]
        rfl
      exact ⟨inBounds, number, taken, (isSome_shift_iff number _).1 shifts⟩
    · intro found
      obtain ⟨inBounds, number, taken, shifts⟩ := found
      rw [taken, if_pos inBounds]
      exact Option.isSome_iff_exists.1 ((isSome_shift_iff number _).2 shifts)

end Decimal

end NumeralStyle
