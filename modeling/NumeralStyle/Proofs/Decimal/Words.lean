import NumeralStyle.Proofs.Decimal.Nearest

/-!
# Division in machine words

A mantissa can be divided by a power of ten in signed words of 128 bits.  The quotient is cut
off towards zero, and its remainder tells whether it is moved away from zero again.  A power
of ten beyond the words leaves nothing of any mantissa.  Here every result that leaves its
word is an error, even where it could be taken for a failure.  The main statement says that
no number leads to one, and that the outcome is the exact quotient, rounded once.
-/

namespace NumeralStyle.Decimal

/-- An integer that is out of the range of the word that should hold it. -/
structure Overflow where
  value : Int
  deriving DecidableEq, Repr

/-- The magnitude of the lowest integer in a signed word of 128 bits, two to the power 127,
which is one more than the highest integer. -/
abbrev signedBound : Nat :=
  170141183460469231731687303715884105728

/-- Keep an integer in a signed word of 128 bits. -/
def word (value : Int) : Except Overflow Int :=
  if value.toNat < signedBound ∧ (-value).toNat ≤ signedBound then
    .ok value
  else
    .error ⟨value⟩

/-- Divide with the quotient cut off towards zero.  If the remainder is no less than what it
lacks of the divisor, at least a half was cut off, and the quotient moves away from zero. -/
def divideInWords (mantissa divisor : Int) : Except Overflow Int := do
  let quotient ← word (mantissa.tdiv divisor)
  let remainder ← word (mantissa.tmod divisor)
  let magnitude ← word remainder.natAbs
  let rest ← word (divisor - magnitude)
  if rest ≤ magnitude then word (quotient + mantissa.sign) else return quotient

/-- Drop digits by a division, or all of them if no word holds the power of ten. -/
def dropDigitsInWords (mantissa : Int) (places : Nat) : Except Overflow Int :=
  match word (tenPower places) with
  | .error _ => return 0
  | .ok divisor => divideInWords mantissa divisor

/-- Divide by a power of ten.  There is no such number if the sum of the scales has more than
32 bits. -/
def shiftRightInWords (number : Decimal) (places : Nat) : Except Overflow (Option Decimal) :=
  let shortest := number.normalize
  let scale := shortest.scale + places
  if UInt32.size ≤ scale then
    return none
  else if scale ≤ maxScale then
    return ofParts? shortest.mantissa scale
  else do
    let rounded ← dropDigitsInWords shortest.mantissa (scale - maxScale)
    return ofParts? rounded maxScale

variable {mantissa value : Int} {divisor places : Nat}

/-! ## Results that stay in their words -/

/-- A word holds the integers from the lowest to the highest. -/
theorem word_eq_ok_iff :
    word value = .ok value ↔ -(signedBound : Int) ≤ value ∧ value < signedBound := by
  have positive : 0 < signedBound := by decide
  have inRange : value.toNat < signedBound ∧ (-value).toNat ≤ signedBound ↔
      -(signedBound : Int) ≤ value ∧ value < signedBound := by
    omega
  rw [← inRange]
  unfold word
  split
  · rename_i holds
    exact iff_of_true rfl holds
  · rename_i exceeds
    exact iff_of_false nofun exceeds

theorem word_bind
    {result : Type} (inRange : value.natAbs < signedBound)
    (next : Int → Except Overflow result) :
    (word value >>= next) = next value := by
  rw [word_eq_ok_iff.2 (by omega)]
  rfl

/-! ## Quotients that are cut off -/

/-- A remainder of at least a half raises the quotient. -/
theorem natQuotient_eq (magnitude : Nat) (positive : 0 < divisor) :
    (2 * magnitude + divisor) / (2 * divisor) =
      magnitude / divisor + if divisor ≤ 2 * (magnitude % divisor) then 1 else 0 := by
  have remainderSmall := Nat.mod_lt magnitude positive
  have split : 2 * magnitude + divisor =
      2 * divisor * (magnitude / divisor) + (2 * (magnitude % divisor) + divisor) := by
    conv_lhs => rw [← Nat.div_add_mod magnitude divisor]
    ring
  rw [split, Nat.mul_add_div (by omega)]
  by_cases half : divisor ≤ 2 * (magnitude % divisor)
  · have one : (2 * (magnitude % divisor) + divisor) / (2 * divisor) = 1 :=
      Nat.div_eq_of_lt_le (by omega) (by omega)
    rw [one, if_pos half]
  · have zero : (2 * (magnitude % divisor) + divisor) / (2 * divisor) = 0 :=
      Nat.div_eq_of_lt (by omega)
    rw [zero, if_neg half]

theorem tdiv_eq_sign_mul (mantissa : Int) (divisor : Nat) :
    mantissa.tdiv divisor = mantissa.sign * (mantissa.natAbs / divisor : Nat) := by
  conv_lhs => rw [← Int.sign_mul_natAbs mantissa]
  rcases Int.sign_trichotomy mantissa with sign | sign | sign
  · rw [sign, one_mul, one_mul, Int.ofNat_tdiv]
  · rw [sign, zero_mul, zero_mul, Int.zero_tdiv]
  · rw [sign, neg_one_mul, neg_one_mul, Int.neg_tdiv, Int.ofNat_tdiv]

/-- The rounded quotient is the one that is cut off, moved away from zero from a half on. -/
theorem roundedQuotient_eq_tdiv (mantissa : Int) (positive : 0 < divisor) :
    roundedQuotient mantissa divisor =
      mantissa.tdiv divisor +
        if divisor ≤ 2 * (mantissa.natAbs % divisor) then mantissa.sign else 0 := by
  rw [roundedQuotient, natQuotient_eq _ positive, tdiv_eq_sign_mul]
  by_cases half : divisor ≤ 2 * (mantissa.natAbs % divisor)
  · rw [if_pos half, if_pos half, Nat.cast_add, Nat.cast_one, mul_add, mul_one]
  · rw [if_neg half, if_neg half, Nat.add_zero, add_zero]

/-- Dividing by what a word holds rounds the quotient and leaves no word. -/
theorem divideInWords_eq
    (bounded : mantissa.natAbs < mantissaBound) (positive : 0 < divisor)
    (inRange : divisor < signedBound) :
    divideInWords mantissa divisor = .ok (roundedQuotient mantissa divisor) := by
  have mantissaSmall : mantissaBound < signedBound := by decide
  have remainder : (mantissa.tmod divisor).natAbs = mantissa.natAbs % divisor := by
    rw [Int.natAbs_tmod, Int.natAbs_natCast]
  have remainderSmall : mantissa.natAbs % divisor < divisor := Nat.mod_lt _ positive
  have quotientSmall : (mantissa.tdiv divisor).natAbs ≤ mantissa.natAbs :=
    Int.natAbs_tdiv_le_natAbs mantissa divisor
  have roundedSmall := natAbs_roundedQuotient_le mantissa positive
  rw [roundedQuotient_eq_tdiv mantissa positive] at roundedSmall ⊢
  unfold divideInWords
  rw [word_bind (by omega), word_bind (by omega), remainder, word_bind (by omega),
    word_bind (by omega)]
  by_cases half : divisor ≤ 2 * (mantissa.natAbs % divisor)
  · rw [if_pos half] at roundedSmall ⊢
    rw [if_pos (by omega)]
    exact word_eq_ok_iff.2 (by omega)
  · rw [if_neg half, if_neg (by omega), add_zero]
    rfl

/-! ## Shifting to the right -/

/-- A power of ten beyond the words is also beyond twice every mantissa. -/
theorem dropDigitsInWords_eq
    (bounded : mantissa.natAbs < mantissaBound) (places : Nat) :
    dropDigitsInWords mantissa places = .ok (roundedQuotient mantissa (tenPower places)) := by
  unfold dropDigitsInWords
  by_cases inRange : tenPower places < signedBound
  · have kept : word (tenPower places) = .ok (tenPower places : Int) :=
      word_eq_ok_iff.2 (by omega)
    rw [kept]
    exact divideInWords_eq bounded (tenPower_pos places) inRange
  · have refused : word (tenPower places) = .error ⟨tenPower places⟩ := if_neg (by omega)
    have twice : 2 * mantissaBound < signedBound := by decide
    rw [refused, roundedQuotient_eq_zero (by omega)]
    rfl

/-- Dividing in words by a power of ten leads to no error and never fails, up to the largest
magnitude of an exponent of 32 bits.  The outcome is the exact quotient rounded to the largest
scale, with a half going away from zero, and the quotient itself if it needs no more digits. -/
theorem shiftRightInWords_eq_ok (number : Decimal) (few : places ≤ 2 ^ 31) :
    number.shiftRightInWords places = .ok (some (number.shiftRight places)) ∧
      RoundsTo maxScale (number.toRat / 10 ^ places) (number.shiftRight places).toRat ∧
      ∀ units : ℤ, number.toRat / 10 ^ places = units / 10 ^ maxScale →
        (number.shiftRight places).toRat = number.toRat / 10 ^ places := by
  have rounds := number.roundsTo_shiftRight places
  refine ⟨?_, rounds, fun units exact => rounds.unique (roundsTo_of_eq_div units exact)⟩
  have scaleLimit : number.normalize.scale ≤ 28 := number.normalize.scale_le
  have wordSize : UInt32.size = 4294967296 := rfl
  unfold shiftRightInWords
  dsimp only
  rw [if_neg (by omega)]
  rcases Nat.lt_or_ge maxScale (number.normalize.scale + places) with exceeds | fits
  · have parts := ofParts?_eq_some_iff.2 (parts_shiftRight_of_lt exceeds)
    rw [if_neg (Nat.not_le_of_lt exceeds),
      dropDigitsInWords_eq number.normalize.natAbs_mantissa_lt, ← parts]
    rfl
  · have parts := ofParts?_eq_some_iff.2 (parts_shiftRight_of_le fits)
    rw [if_pos fits, ← parts]
    rfl

/-- Half a unit of the largest scale goes away from zero, and the lowest number is divided by a
power of ten that is far beyond the words. -/
theorem shiftRightInWords_eq_ok_half_unit :
    (1 ≤ 2 ^ 31 ∧
      (⟨-5, 28, by decide, by decide⟩ : Decimal).shiftRightInWords 1 =
        .ok (some ⟨-1, 28, by decide, by decide⟩) ∧
      RoundsTo maxScale ((-5 : ℤ) / 10 ^ 28 / 10 ^ 1) ((-1 : ℤ) / 10 ^ 28)) ∧
    (⟨-79228162514264337593543950335, 0, by decide, by decide⟩ : Decimal).shiftRightInWords
        (2 ^ 31) =
      .ok (some ⟨0, 28, by decide, by decide⟩) := by
  obtain ⟨division, rounds, -⟩ :=
    shiftRightInWords_eq_ok ⟨-5, 28, by decide, by decide⟩ (show 1 ≤ 2 ^ 31 by decide)
  have vanishes :
      (⟨-79228162514264337593543950335, 0, by decide, by decide⟩ : Decimal).shiftRight
          (2 ^ 31) =
        ⟨0, 28, by decide, by decide⟩ := by
    decide
  refine ⟨⟨by decide, division, rounds⟩, ?_⟩
  rw [← vanishes]
  exact (shiftRightInWords_eq_ok _ le_rfl).1

end NumeralStyle.Decimal
