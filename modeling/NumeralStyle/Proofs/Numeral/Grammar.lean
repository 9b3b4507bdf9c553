import NumeralStyle.Proofs.Numeral.WellFormed

/-!
# The grammar of numerals

The language of numerals is given by four productions over regular languages, each
of them a mark, digits and a suffix.  The last production, of reals, leaves out the
texts of decimal integers and, with a decimal marker, the digits that the decimal
type does not accept.  The main statement says that reading finds the derivation of
the trimmed text, that a text is read exactly when it is in the language, and that no
text has two derivations.
-/

namespace NumeralStyle.Grammar

open Computability

/-- The texts that consist of one letter out of a list. -/
def oneOf (letters : String) : Language Char :=
  {text | ∃ letter ∈ letters.toList, text = [letter]}

/-- The texts of a language and the empty text. -/
def optional (language : Language Char) : Language Char :=
  1 + language

/-- Decimal digits with separators strictly inside. -/
def digitRun : Language Char :=
  oneOf "0123456789" * optional ((oneOf "0123456789_")∗ * oneOf "0123456789")

/-- Hexadecimal digits and separators, of which the last is a digit. -/
def hexadecimalDigits : Language Char :=
  (oneOf "0123456789abcdefABCDEF_")∗ * oneOf "0123456789abcdefABCDEF"

/-- Binary digits and separators, of which the last is a digit. -/
def binaryDigits : Language Char :=
  (oneOf "01_")∗ * oneOf "01"

/-- At most one unsigned and one long marker, in either order and any case. -/
def integerSuffix : Language Char :=
  1 + oneOf "uUlL" + oneOf "uU" * oneOf "lL" + oneOf "lL" * oneOf "uU"

/-- A run of digits, or an optional run, a point and a run. -/
def mantissa : Language Char :=
  digitRun + optional digitRun * oneOf "." * digitRun

/-- An exponent marker, an optional sign and a run of digits. -/
def exponent : Language Char :=
  oneOf "eE" * optional (oneOf "+-") * digitRun

/-- A mantissa and an optional exponent. -/
def realDigits : Language Char :=
  mantissa * optional exponent

/-- The ways to spell a numeral. -/
inductive Production where
  | decimalInteger
  | hexadecimalInteger
  | binaryInteger
  | real
  deriving DecidableEq, Repr

namespace Production

/-- The base of the numerals that a production spells. -/
def base : Production → Base
  | .decimalInteger => .decimal
  | .hexadecimalInteger => .hexadecimal
  | .binaryInteger => .binary
  | .real => .decimal

/-- The marks of a production. -/
def marks : Production → Language Char
  | .decimalInteger => 1
  | .hexadecimalInteger => oneOf "0" * oneOf "xX"
  | .binaryInteger => oneOf "0" * oneOf "bB"
  | .real => 1

/-- The digits of a production. -/
def digits : Production → Language Char
  | .decimalInteger => digitRun
  | .hexadecimalInteger => hexadecimalDigits
  | .binaryInteger => binaryDigits
  | .real => realDigits

/-- The suffixes of a production. -/
def suffixes : Production → Language Char
  | .decimalInteger => integerSuffix
  | .hexadecimalInteger => integerSuffix
  | .binaryInteger => integerSuffix
  | .real => optional (oneOf "fFdDmM")

/-- Whether a production spells integers. -/
def isInteger : Production → Bool
  | .decimalInteger => true
  | .hexadecimalInteger => true
  | .binaryInteger => true
  | .real => false

/-- The texts of a production, its side conditions aside. -/
def language (production : Production) : Language Char :=
  production.marks * production.digits * production.suffixes

end Production

/-- The side condition of reals with the given digits and marker: the text is not
that of a decimal integer, and a decimal marker asks for digits that the decimal type
accepts. -/
structure RealCondition (digits marker : Text) : Prop where
  notInteger : digits ++ marker ∉ Production.decimalInteger.language
  accepted : marker ∈ oneOf "mM" → RealType.decimal.accepts (scrub digits) = true

/-- A numeral with the parts that a production asks for. -/
structure Derivation (production : Production) (numeral : Numeral) : Prop where
  base : numeral.base = production.base
  mark : numeral.mark ∈ production.marks
  digits : numeral.digits ∈ production.digits
  suffix : numeral.suffix ∈ production.suffixes
  isInteger : numeral.isInteger = production.isInteger
  real : production = .real → RealCondition numeral.digits numeral.suffix

/-- The texts of reals that meet the side condition. -/
def realTexts : Language Char :=
  {text | ∃ digits ∈ realDigits, ∃ marker ∈ optional (oneOf "fFdDmM"),
    digits ++ marker = text ∧ RealCondition digits marker}

/-- The texts of numerals. -/
def numeralTexts : Language Char :=
  Production.decimalInteger.language + Production.hexadecimalInteger.language +
    Production.binaryInteger.language + realTexts

/-! ## Classes of letters -/

theorem mem_oneOf {letters : String} {text : Text} :
    text ∈ oneOf letters ↔ ∃ letter ∈ letters.toList, text = [letter] :=
  Iff.rfl

theorem mem_optional {language : Language Char} {text : Text} :
    text ∈ optional language ↔ text = [] ∨ text ∈ language :=
  Iff.rfl

/-- Repeating a class of letters gives the texts over that class. -/
theorem mem_kstar_oneOf {letters : String} {text : Text} :
    text ∈ (oneOf letters)∗ ↔ ∀ letter ∈ text, letter ∈ letters.toList := by
  rw [Language.mem_kstar]
  constructor
  · intro pieces letter member
    obtain ⟨words, rfl, single⟩ := pieces
    obtain ⟨word, inWords, inWord⟩ := List.mem_flatten.1 member
    obtain ⟨only, listed, rfl⟩ := single word inWords
    rw [List.mem_singleton] at inWord
    exact inWord ▸ listed
  · intro listed
    refine ⟨text.map fun letter => [letter], ?_, ?_⟩
    · rw [← List.flatMap_def, List.flatMap_singleton']
    · intro word inWords
      obtain ⟨letter, member, rfl⟩ := List.mem_map.1 inWords
      exact ⟨letter, listed letter member, rfl⟩

theorem mem_decimalLetters {letter : Char} :
    letter ∈ "0123456789".toList ↔ letter.isDigit = true := by
  simp only [String.reduceToList, List.mem_cons, List.not_mem_nil, or_false, ← Char.toNat_inj,
    Char.isDigit_iff_toNat, Char.reduceToNat]
  omega

theorem mem_hexadecimalLetters {letter : Char} :
    letter ∈ "0123456789abcdefABCDEF".toList ↔ Base.hexadecimal.isDigit letter = true := by
  simp only [String.reduceToList, List.mem_cons, List.not_mem_nil, or_false, ← Char.toNat_inj,
    isHexadecimalDigit_iff_toNat, Char.reduceToNat]
  omega

theorem mem_binaryLetters {letter : Char} :
    letter ∈ "01".toList ↔ Base.binary.isDigit letter = true := by
  simp only [String.reduceToList, List.mem_cons, List.not_mem_nil, or_false, ← Char.toNat_inj,
    isBinaryDigit_iff_toNat, Char.reduceToNat]

theorem mem_decimalLettersOrSeparator {letter : Char} :
    letter ∈ "0123456789_".toList ↔ isDigitOrSeparator letter = true := by
  simp only [isDigitOrSeparator, Bool.or_eq_true, ← mem_decimalLetters, decide_eq_true_eq]
  simp [separator, or_assoc]

theorem mem_hexadecimalLettersOrSeparator {letter : Char} :
    letter ∈ "0123456789abcdefABCDEF_".toList ↔
      Numeral.isIntegerDigit .hexadecimal letter = true := by
  simp only [Numeral.isIntegerDigit, Bool.or_eq_true, ← mem_hexadecimalLetters,
    decide_eq_true_eq, or_comm (a := letter = separator)]
  simp [separator, or_assoc]

theorem mem_binaryLettersOrSeparator {letter : Char} :
    letter ∈ "01_".toList ↔ Numeral.isIntegerDigit .binary letter = true := by
  simp only [Numeral.isIntegerDigit, Bool.or_eq_true, ← mem_binaryLetters,
    decide_eq_true_eq, or_comm (a := letter = separator)]
  simp [separator, or_assoc]

/-! ## Digits -/

theorem mem_digitRun {text : Text} : text ∈ digitRun ↔ isDigitRun text = true := by
  unfold digitRun
  rw [Language.mem_mul, isDigitRun_iff]
  constructor
  · intro parts
    obtain ⟨_, ⟨first, firstListed, rfl⟩, rest, optionalRest, rfl⟩ := parts
    have firstDigit := mem_decimalLetters.1 firstListed
    rcases mem_optional.1 optionalRest with rfl | inRest
    · simp [firstDigit, isDigitOrSeparator]
    · obtain ⟨middle, inMiddle, _, ⟨last, lastListed, rfl⟩, rfl⟩ := Language.mem_mul.1 inRest
      have lastDigit := mem_decimalLetters.1 lastListed
      have closing : ([first] ++ (middle ++ [last])).getLast? = some last := by
        rw [← List.append_assoc, List.getLast?_concat]
      refine ⟨⟨first, rfl, firstDigit⟩, ⟨last, closing, lastDigit⟩, ?_⟩
      intro letter member
      simp only [List.mem_append, List.mem_singleton] at member
      rcases member with rfl | inside | rfl
      · simp [isDigitOrSeparator, firstDigit]
      · exact mem_decimalLettersOrSeparator.1 (mem_kstar_oneOf.1 inMiddle letter inside)
      · simp [isDigitOrSeparator, lastDigit]
  · intro run
    obtain ⟨⟨first, opening, firstDigit⟩, ⟨last, closing, lastDigit⟩, accepted⟩ := run
    obtain ⟨rest, rfl⟩ := List.head?_eq_some_iff.1 opening
    refine ⟨[first], ⟨first, mem_decimalLetters.2 firstDigit, rfl⟩, rest, ?_, rfl⟩
    rw [mem_optional]
    by_cases empty : rest = []
    · exact Or.inl empty
    · right
      rw [List.getLast?_cons, List.getLast?_eq_some_getLast empty] at closing
      cases closing
      refine Language.mem_mul.2 ⟨rest.dropLast, ?_, [rest.getLast empty],
        ⟨_, mem_decimalLetters.2 lastDigit, rfl⟩, List.dropLast_append_getLast empty⟩
      rw [mem_kstar_oneOf]
      intro letter member
      have inText := List.mem_cons_of_mem first (List.dropLast_subset rest member)
      exact mem_decimalLettersOrSeparator.2 (accepted letter inText)

/-- Behind a mark, digits and separators need a digit at the end and no more. -/
theorem mem_markedDigits
    {base : Base} {digits digitsOrSeparator : String} {text : Text}
    (marked : base ≠ .decimal)
    (digit : ∀ letter, letter ∈ digits.toList ↔ base.isDigit letter = true)
    (digitOrSeparator : ∀ letter,
      letter ∈ digitsOrSeparator.toList ↔ Numeral.isIntegerDigit base letter = true) :
    text ∈ (oneOf digitsOrSeparator)∗ * oneOf digits ↔ base.IsIntegerDigits text := by
  rw [Language.mem_mul]
  constructor
  · intro parts
    obtain ⟨front, inFront, _, ⟨last, lastListed, rfl⟩, rfl⟩ := parts
    have lastDigit := (digit last).1 lastListed
    refine ⟨by simp, ?_, ?_, fun decimal => absurd decimal marked⟩
    · intro letter member
      rcases List.mem_append.1 member with inside | isLast
      · exact (digitOrSeparator letter).1 (mem_kstar_oneOf.1 inFront letter inside)
      · rw [List.mem_singleton.1 isLast, Numeral.isIntegerDigit, lastDigit, Bool.or_true]
    · rw [List.getLast?_concat]
      intro same
      rw [Option.some.inj same, not_isDigit_separator] at lastDigit
      cases lastDigit
  · intro form
    have closing := List.dropLast_append_getLast form.nonempty
    have lastAccepted := form.accepted _ (List.getLast_mem form.nonempty)
    have lastDiffers : text.getLast form.nonempty ≠ separator := by
      intro same
      apply form.closed
      rw [List.getLast?_eq_some_getLast form.nonempty, same]
    have lastDigit : base.isDigit (text.getLast form.nonempty) = true := by
      simpa [Numeral.isIntegerDigit, lastDiffers] using lastAccepted
    refine ⟨text.dropLast, ?_, [_], ⟨_, (digit _).2 lastDigit, rfl⟩, closing⟩
    rw [mem_kstar_oneOf]
    intro letter member
    exact (digitOrSeparator letter).2 (form.accepted letter (List.dropLast_subset text member))

/-! ## Marks and suffixes -/

theorem mem_oneOf_mul_oneOf {first second : String} {text : Text} :
    text ∈ oneOf first * oneOf second ↔
      ∃ left ∈ first.toList, ∃ right ∈ second.toList, text = [left, right] := by
  rw [Language.mem_mul]
  constructor
  · intro parts
    obtain ⟨_, ⟨left, leftListed, rfl⟩, _, ⟨right, rightListed, rfl⟩, rfl⟩ := parts
    exact ⟨left, leftListed, right, rightListed, rfl⟩
  · intro letters
    obtain ⟨left, leftListed, right, rightListed, rfl⟩ := letters
    exact ⟨[left], ⟨left, leftListed, rfl⟩, [right], ⟨right, rightListed, rfl⟩, rfl⟩

theorem mem_unsignedLetters {letter : Char} :
    letter ∈ "uU".toList ↔ Numeral.isUnsignedMarker letter = true := by
  simp [Numeral.isUnsignedMarker]

theorem mem_longLetters {letter : Char} :
    letter ∈ "lL".toList ↔ Numeral.isLongMarker letter = true := by
  simp [Numeral.isLongMarker]

theorem mem_unsignedOrLongLetters {letter : Char} :
    letter ∈ "uUlL".toList ↔
      Numeral.isUnsignedMarker letter = true ∨ Numeral.isLongMarker letter = true := by
  simp [Numeral.isUnsignedMarker, Numeral.isLongMarker, or_assoc]

theorem mem_integerSuffix {suffix : Text} :
    suffix ∈ integerSuffix ↔ Numeral.isIntegerSuffix suffix = true := by
  unfold integerSuffix
  simp only [Language.mem_add, Language.mem_one, mem_oneOf_mul_oneOf, mem_oneOf,
    mem_unsignedLetters, mem_longLetters, mem_unsignedOrLongLetters]
  unfold Numeral.isIntegerSuffix
  split
  · simp
  · simp
  · simp
  · rename_i notEmpty notSingle notPair
    simp only [Bool.false_eq_true, iff_false, not_or, not_exists, not_and]
    refine ⟨⟨⟨notEmpty, ?_⟩, ?_⟩, ?_⟩
    · intro letter _ same
      exact notSingle letter same
    · intro left _ right _ same
      exact notPair left right same
    · intro left _ right _ same
      exact notPair left right same

theorem mem_realMarker {marker : Text} :
    marker ∈ optional (oneOf "fFdDmM") ↔ ∃ type, Numeral.realType? marker = some type := by
  rw [mem_optional, mem_oneOf]
  constructor
  · intro kind
    rcases kind with rfl | ⟨letter, listed, rfl⟩
    · exact ⟨.double, rfl⟩
    · simp only [String.reduceToList, List.mem_cons, List.not_mem_nil, or_false] at listed
      rcases listed with rfl | rfl | rfl | rfl | rfl | rfl
      · exact ⟨.single, rfl⟩
      · exact ⟨.single, rfl⟩
      · exact ⟨.double, rfl⟩
      · exact ⟨.double, rfl⟩
      · exact ⟨.decimal, rfl⟩
      · exact ⟨.decimal, rfl⟩
  · intro kind
    obtain ⟨type, marked⟩ := kind
    unfold Numeral.realType? at marked
    split at marked
    · exact Or.inl rfl
    · rename_i letter
      have listed := Numeral.marker_of_ofMarker? marked
      refine Or.inr ⟨letter, ?_, rfl⟩
      simp only [List.mem_cons, List.not_mem_nil, or_false] at listed
      rcases listed with rfl | rfl | rfl | rfl | rfl | rfl <;> simp
    · cases marked

theorem mem_decimalMarker {marker : Text} :
    marker ∈ oneOf "mM" ↔ Numeral.realType? marker = some .decimal := by
  rw [mem_oneOf]
  constructor
  · intro kind
    obtain ⟨letter, listed, rfl⟩ := kind
    simp only [String.reduceToList, List.mem_cons, List.not_mem_nil, or_false] at listed
    rcases listed with rfl | rfl <;> rfl
  · intro marked
    unfold Numeral.realType? at marked
    split at marked
    · cases marked
    · rename_i letter
      refine ⟨letter, ?_, rfl⟩
      unfold RealType.ofMarker? at marked
      split at marked <;> simp_all
    · cases marked

/-! ## Digits of reals -/

theorem mem_exponentLetters {letter : Char} :
    letter ∈ "eE".toList ↔ isExponentMarker letter = true := by
  simp [isExponentMarker]

theorem mem_sign {sign : Text} : sign ∈ optional (oneOf "+-") ↔ sign ∈ signs := by
  rw [mem_optional, mem_oneOf]
  simp [signs]

theorem mem_exponent {text : Text} : text ∈ exponent ↔ Regions.IsExponent text := by
  unfold exponent
  rw [Language.mem_mul]
  constructor
  · intro parts
    obtain ⟨_, inFront, run, isRun, rfl⟩ := parts
    obtain ⟨_, ⟨marker, listed, rfl⟩, sign, isSign, rfl⟩ := Language.mem_mul.1 inFront
    exact ⟨marker, sign, run, mem_exponentLetters.1 listed, mem_sign.1 isSign,
      mem_digitRun.1 isRun, rfl⟩
  · intro form
    obtain ⟨marker, sign, run, marked, isSign, isRun, rfl⟩ := form
    exact ⟨[marker] ++ sign,
      Language.mem_mul.2 ⟨[marker], ⟨marker, mem_exponentLetters.2 marked, rfl⟩, sign,
        mem_sign.2 isSign, rfl⟩, run, mem_digitRun.2 isRun, rfl⟩

theorem mem_mantissa {text : Text} :
    text ∈ mantissa ↔
      ∃ regions : Regions, regions.hasMantissaShape = true ∧ regions.mantissa = text := by
  unfold mantissa
  rw [Language.mem_add]
  constructor
  · intro kind
    rcases kind with run | pointed
    · exact ⟨⟨text, none, []⟩, mem_digitRun.1 run, rfl⟩
    · obtain ⟨_, inFront, fraction, isFraction, rfl⟩ := Language.mem_mul.1 pointed
      obtain ⟨integer, isInteger, _, ⟨point, isPoint, rfl⟩, rfl⟩ := Language.mem_mul.1 inFront
      simp only [String.reduceToList, List.mem_singleton] at isPoint
      refine ⟨⟨integer, some fraction, []⟩, ?_, ?_⟩
      · exact Regions.hasMantissaShape_iff.2 (Or.inr ⟨fraction, rfl,
          (mem_optional.1 isInteger).imp_right mem_digitRun.1, mem_digitRun.1 isFraction⟩)
      · simp [Regions.mantissa, isPoint]
  · intro form
    obtain ⟨regions, shape, rfl⟩ := form
    unfold Regions.mantissa
    rcases Regions.hasMantissaShape_iff.1 shape with
      ⟨absent, isRun⟩ | ⟨fraction, present, integer, isRun⟩
    · rw [absent]
      exact Or.inl (mem_digitRun.2 isRun)
    · rw [present]
      refine Or.inr (Language.mem_mul.2 ⟨regions.integer ++ ['.'], ?_, fraction,
        mem_digitRun.2 isRun, by simp⟩)
      exact Language.mem_mul.2 ⟨regions.integer,
        mem_optional.2 (integer.imp_right mem_digitRun.2), ['.'], ⟨'.', by simp, rfl⟩, rfl⟩

theorem mem_realDigits {digits : Text} :
    digits ∈ realDigits ↔ (Regions.ofReal digits).IsReal := by
  unfold realDigits
  rw [Language.mem_mul]
  constructor
  · intro parts
    obtain ⟨_, inMantissa, exponent, isExponent, rfl⟩ := parts
    obtain ⟨regions, shape, rfl⟩ := mem_mantissa.1 inMantissa
    have real : Regions.IsReal ⟨regions.integer, regions.fraction, exponent⟩ :=
      ⟨shape, (mem_optional.1 isExponent).imp_right mem_exponent.1⟩
    have split := real.ofReal_text
    exact split.symm ▸ real
  · intro real
    refine ⟨(Regions.ofReal digits).mantissa, mem_mantissa.2 ⟨_, real.mantissa, rfl⟩,
      (Regions.ofReal digits).exponent,
      mem_optional.2 (real.exponent.imp_right mem_exponent.2), Regions.text_ofReal digits⟩

/-! ## Productions and forms -/

variable {production : Production} {numeral other : Numeral}

theorem mem_marks {mark : Text} : mark ∈ production.marks ↔ mark ∈ production.base.marks := by
  cases production with
  | decimalInteger => exact List.mem_singleton.symm
  | real => exact List.mem_singleton.symm
  | hexadecimalInteger =>
      simp [Production.marks, Production.base, Base.marks, mem_oneOf_mul_oneOf]
  | binaryInteger =>
      simp [Production.marks, Production.base, Base.marks, mem_oneOf_mul_oneOf]

theorem mem_integerDigits {digits : Text} (integer : production ≠ .real) :
    digits ∈ production.digits ↔ production.base.IsIntegerDigits digits := by
  cases production with
  | decimalInteger => exact mem_digitRun.trans isIntegerDigits_decimal_iff.symm
  | hexadecimalInteger =>
      exact mem_markedDigits (by decide) (fun _ => mem_hexadecimalLetters)
        fun _ => mem_hexadecimalLettersOrSeparator
  | binaryInteger =>
      exact mem_markedDigits (by decide) (fun _ => mem_binaryLetters)
        fun _ => mem_binaryLettersOrSeparator
  | real => exact absurd rfl integer

theorem suffixes_of_integer (integer : production ≠ .real) :
    production.suffixes = integerSuffix := by
  cases production with
  | decimalInteger => rfl
  | hexadecimalInteger => rfl
  | binaryInteger => rfl
  | real => exact absurd rfl integer

theorem isInteger_iff : production.isInteger = true ↔ production ≠ .real := by
  cases production <;> decide

/-- Apart from the last, a production derives the integers of its base. -/
theorem derivation_integer_iff (integer : production ≠ .real) :
    Derivation production numeral ↔ numeral.IntegerForm ∧ numeral.base = production.base := by
  constructor
  · intro derivation
    refine ⟨⟨?_, ?_, ?_, ?_⟩, derivation.base⟩
    · rw [derivation.isInteger, isInteger_iff]
      exact integer
    · rw [derivation.base]
      exact mem_marks.1 derivation.mark
    · rw [derivation.base]
      exact (mem_integerDigits integer).1 derivation.digits
    · have suffix := derivation.suffix
      rw [suffixes_of_integer integer] at suffix
      exact mem_integerSuffix.1 suffix
  · intro form
    obtain ⟨form, sameBase⟩ := form
    refine ⟨sameBase, ?_, ?_, ?_, ?_, fun real => absurd real integer⟩
    · rw [mem_marks, ← sameBase]
      exact form.mark
    · rw [mem_integerDigits integer, ← sameBase]
      exact form.digits
    · rw [suffixes_of_integer integer]
      exact mem_integerSuffix.2 form.suffix
    · rw [form.isInteger]
      exact (isInteger_iff.2 integer).symm

/-- A text belongs to a production when it consists of parts that do. -/
theorem mem_language {text : Text} :
    text ∈ production.language ↔
      ∃ mark ∈ production.marks, ∃ digits ∈ production.digits,
        ∃ suffix ∈ production.suffixes, mark ++ digits ++ suffix = text := by
  unfold Production.language
  rw [Language.mem_mul]
  constructor
  · intro parts
    obtain ⟨_, inFront, suffix, isSuffix, rfl⟩ := parts
    obtain ⟨mark, isMark, digits, isDigits, rfl⟩ := Language.mem_mul.1 inFront
    exact ⟨mark, isMark, digits, isDigits, suffix, isSuffix, rfl⟩
  · intro parts
    obtain ⟨mark, isMark, digits, isDigits, suffix, isSuffix, rfl⟩ := parts
    exact ⟨mark ++ digits, Language.append_mem_mul isMark isDigits, suffix, isSuffix, rfl⟩

theorem mem_integer_language {text : Text} (integer : production ≠ .real) :
    text ∈ production.language ↔
      ∃ numeral, Derivation production numeral ∧ numeral.text = text := by
  rw [mem_language]
  constructor
  · intro parts
    obtain ⟨mark, isMark, digits, isDigits, suffix, isSuffix, rfl⟩ := parts
    exact ⟨⟨production.base, mark, digits, suffix, production.isInteger⟩,
      ⟨rfl, isMark, isDigits, isSuffix, rfl, fun real => absurd real integer⟩, rfl⟩
  · intro derived
    obtain ⟨numeral, derivation, rfl⟩ := derived
    exact ⟨numeral.mark, derivation.mark, numeral.digits, derivation.digits,
      numeral.suffix, derivation.suffix, rfl⟩

/-- The text of a real is that of a decimal integer exactly when the real is bare. -/
theorem mem_decimalInteger_iff_isBare (real : numeral.RealForm) :
    numeral.text ∈ Production.decimalInteger.language ↔ numeral.IsBare := by
  have integer : Production.decimalInteger ≠ .real := by decide
  rw [mem_integer_language integer]
  constructor
  · intro derived
    obtain ⟨other, derivation, sameText⟩ := derived
    exact ((derivation_integer_iff integer).1 derivation).1.isBare_of_real real sameText
  · intro bare
    obtain ⟨other, form, sameText⟩ := real.exists_integer_of_isBare bare
    have decimal := (form.same_digits_of_real real sameText).1
    exact ⟨other, (derivation_integer_iff integer).2 ⟨form, decimal⟩, sameText⟩

/-- The two binary types accept all digits of reals, so that only a decimal marker
asks for more than real digits. -/
theorem exists_realType?_iff {digits suffix : Text} (real : (Regions.ofReal digits).IsReal) :
    (∃ type, Numeral.realType? suffix = some type ∧ type.accepts (scrub digits) = true) ↔
      suffix ∈ optional (oneOf "fFdDmM") ∧
        (suffix ∈ oneOf "mM" → RealType.decimal.accepts (scrub digits) = true) := by
  rw [mem_realMarker, mem_decimalMarker]
  constructor
  · intro kind
    obtain ⟨type, marked, accepted⟩ := kind
    refine ⟨⟨type, marked⟩, fun decimal => ?_⟩
    rw [marked, Option.some.injEq] at decimal
    rwa [decimal] at accepted
  · intro kind
    obtain ⟨⟨type, marked⟩, accepted⟩ := kind
    refine ⟨type, marked, ?_⟩
    by_cases decimal : type = .decimal
    · rw [decimal] at marked ⊢
      exact accepted marked
    · exact RealType.accepts_scrub real decimal

/-- The last production derives the reals that are not integers. -/
theorem derivation_real_iff :
    Derivation .real numeral ↔ numeral.RealForm ∧ ¬ numeral.IsBare := by
  constructor
  · intro derivation
    have unmarked : numeral.mark = [] := derivation.mark
    have digits := mem_realDigits.1 derivation.digits
    have condition := derivation.real rfl
    have form : numeral.RealForm :=
      ⟨derivation.isInteger, derivation.base, unmarked, digits,
        (exists_realType?_iff digits).2 ⟨derivation.suffix, condition.accepted⟩⟩
    refine ⟨form, fun bare => condition.notInteger ?_⟩
    have inLanguage := (mem_decimalInteger_iff_isBare form).2 bare
    rwa [Numeral.text, unmarked, List.nil_append] at inLanguage
  · intro form
    obtain ⟨form, notBare⟩ := form
    obtain ⟨suffix, accepted⟩ := (exists_realType?_iff form.digits).1 form.suffix
    refine ⟨form.base, form.mark, mem_realDigits.2 form.digits, suffix, form.isInteger,
      fun _ => ⟨fun inLanguage => notBare ?_, accepted⟩⟩
    rw [← mem_decimalInteger_iff_isBare form]
    rwa [Numeral.text, form.mark, List.nil_append]

/-- The well-formed numerals are those with a derivation. -/
theorem wellFormed_iff_exists_derivation :
    numeral.WellFormed ↔ ∃ production, Derivation production numeral := by
  constructor
  · intro form
    rcases form with integer | real
    · cases base : numeral.base with
      | decimal =>
          exact ⟨.decimalInteger, (derivation_integer_iff (by decide)).2 ⟨integer, base⟩⟩
      | hexadecimal =>
          exact ⟨.hexadecimalInteger, (derivation_integer_iff (by decide)).2 ⟨integer, base⟩⟩
      | binary =>
          exact ⟨.binaryInteger, (derivation_integer_iff (by decide)).2 ⟨integer, base⟩⟩
    · exact ⟨.real, derivation_real_iff.2 real⟩
  · intro derived
    obtain ⟨production, derivation⟩ := derived
    by_cases real : production = .real
    · subst real
      exact Or.inr (derivation_real_iff.1 derivation)
    · exact Or.inl ((derivation_integer_iff real).1 derivation).1

/-- A numeral has at most one derivation. -/
theorem Derivation.production_unique
    {left right : Production} (derivation : Derivation left numeral)
    (otherDerivation : Derivation right numeral) :
    left = right := by
  have sameBase := derivation.base.symm.trans otherDerivation.base
  have sameKind := derivation.isInteger.symm.trans otherDerivation.isInteger
  cases left <;> cases right <;> simp_all [Production.base, Production.isInteger]

theorem mem_realTexts {text : Text} :
    text ∈ realTexts ↔ ∃ numeral, Derivation .real numeral ∧ numeral.text = text := by
  constructor
  · intro parts
    obtain ⟨digits, isDigits, marker, isMarker, rfl, condition⟩ := parts
    exact ⟨⟨.decimal, [], digits, marker, false⟩,
      ⟨rfl, rfl, isDigits, isMarker, rfl, fun _ => condition⟩, rfl⟩
  · intro derived
    obtain ⟨numeral, derivation, rfl⟩ := derived
    have unmarked : numeral.mark = [] := derivation.mark
    refine ⟨numeral.digits, derivation.digits, numeral.suffix, derivation.suffix, ?_,
      derivation.real rfl⟩
    rw [Numeral.text, unmarked, List.nil_append]

/-- The language consists of the texts that have a derivation. -/
theorem mem_numeralTexts {text : Text} :
    text ∈ numeralTexts ↔
      ∃ production numeral, Derivation production numeral ∧ numeral.text = text := by
  unfold numeralTexts
  simp only [Language.mem_add, mem_realTexts, or_assoc]
  rw [mem_integer_language (by decide), mem_integer_language (by decide),
    mem_integer_language (by decide)]
  constructor
  · intro kind
    rcases kind with derived | derived | derived | derived
    · exact ⟨_, derived⟩
    · exact ⟨_, derived⟩
    · exact ⟨_, derived⟩
    · exact ⟨_, derived⟩
  · intro derived
    obtain ⟨production, derived⟩ := derived
    cases production with
    | decimalInteger => exact Or.inl derived
    | hexadecimalInteger => exact Or.inr (Or.inl derived)
    | binaryInteger => exact Or.inr (Or.inr (Or.inl derived))
    | real => exact Or.inr (Or.inr (Or.inr derived))

/-- Reading finds the derivation of the trimmed text: a text is read exactly when its
trimmed form is in the language of numerals, what is read are the parts that a
production asks for, and they are the only such parts of that text. -/
theorem parse?_iff_derivation (text : Text) :
    ((Numeral.parse? text).isSome = true ↔ Text.trim text ∈ numeralTexts) ∧
      (∀ numeral, Numeral.parse? text = some numeral ↔
        numeral.text = Text.trim text ∧ ∃ production, Derivation production numeral) ∧
      (∀ (left right : Production) (numeral other : Numeral),
        Derivation left numeral → Derivation right other →
          numeral.text = Text.trim text → other.text = Text.trim text →
            left = right ∧ numeral = other) := by
  have reading : ∀ numeral, Numeral.parse? text = some numeral ↔
      numeral.text = Text.trim text ∧ ∃ production, Derivation production numeral := by
    intro numeral
    rw [Numeral.parse?_eq_some_iff, wellFormed_iff_exists_derivation, and_comm]
  refine ⟨?_, reading, ?_⟩
  · rw [mem_numeralTexts, Option.isSome_iff_exists]
    constructor
    · intro found
      obtain ⟨numeral, found⟩ := found
      obtain ⟨spelled, production, derivation⟩ := (reading numeral).1 found
      exact ⟨production, numeral, derivation, spelled⟩
    · intro derived
      obtain ⟨production, numeral, derivation, spelled⟩ := derived
      exact ⟨numeral, (reading numeral).2 ⟨spelled, production, derivation⟩⟩
  · intro left right numeral other derivation otherDerivation spelled otherSpelled
    have same : numeral = other :=
      (wellFormed_iff_exists_derivation.2 ⟨left, derivation⟩).unique
        (wellFormed_iff_exists_derivation.2 ⟨right, otherDerivation⟩)
        (spelled.trans otherSpelled.symm)
    subst same
    exact ⟨derivation.production_unique otherDerivation, rfl⟩

end NumeralStyle.Grammar
