import NumeralStyle.Proofs.Numeral.Form
import NumeralStyle.Proofs.Numeral.Places
import NumeralStyle.Proofs.Text.LetterCase

/-!
# Numerals without regard to case

Marks, digits of base sixteen, suffixes, exponent markers, types of reals and the names of
floating-point values are all read in either case.  Each of these places ignores case by
itself, and the readers built from them commute with changing a text to lower case.  The
main statement says that reading does: a text in lower case is read as the numeral in
lower case, or rejected for the same reason.
-/

namespace NumeralStyle

open Text

/-- The regions with their letters in lower case. -/
def Regions.lower (regions : Regions) : Regions :=
  ⟨Text.lower regions.integer, regions.fraction.map Text.lower, Text.lower regions.exponent⟩

/-- The numeral with its letters in lower case. -/
def Numeral.lower (numeral : Numeral) : Numeral :=
  { numeral with
    mark := Text.lower numeral.mark
    digits := Text.lower numeral.digits
    suffix := Text.lower numeral.suffix }

/-! ## Runs and regions -/

theorem scrub_lower (text : Text) : scrub (lower text) = lower (scrub text) :=
  filter_lower (ignoresCase_of_upperLetters (by decide))

theorem dropSign_eq_self
    {text : Text} (opened : text.head? ≠ some '+' ∧ text.head? ≠ some '-') :
    dropSign text = text :=
  @dropSign_append [] text (by decide) opened

theorem dropSign_lower (text : Text) : dropSign (lower text) = lower (dropSign text) := by
  by_cases plus : text.head? = some '+'
  · obtain ⟨rest, rfl⟩ := List.head?_eq_some_iff.1 plus
    rfl
  · by_cases minus : text.head? = some '-'
    · obtain ⟨rest, rfl⟩ := List.head?_eq_some_iff.1 minus
      rfl
    · have opened : (lower text).head? ≠ some '+' ∧ (lower text).head? ≠ some '-' := by
        rw [ne_eq, ne_eq, head?_lower_eq_some_iff (by decide), head?_lower_eq_some_iff (by decide)]
        exact ⟨plus, minus⟩
      rw [dropSign_eq_self ⟨plus, minus⟩, dropSign_eq_self opened]

theorem isDigitRun_lower (run : Text) : isDigitRun (lower run) = isDigitRun run := by
  rw [isDigitRun, isDigitRun, any_head?_lower ignoresCase_isDigit,
    any_getLast?_lower ignoresCase_isDigit, all_lower ignoresCase_isDigitOrSeparator]

theorem isEmpty_lower (text : Text) : (lower text).isEmpty = text.isEmpty :=
  List.isEmpty_map

/-- An absent text counts as empty in either case. -/
theorem getD_map_lower (part : Option Text) : (part.map lower).getD [] = lower (part.getD []) := by
  cases part with
  | none => rfl
  | some text => rfl

namespace Regions

theorem ignoresCase_point : IgnoresCase fun letter => decide (letter ≠ '.') :=
  ignoresCase_of_upperLetters (by decide)

theorem fractionOf_lower (mantissa : Text) :
    fractionOf (Text.lower mantissa) = (fractionOf mantissa).map Text.lower := by
  rw [fractionOf, fractionOf, dropWhile_lower ignoresCase_point]
  cases mantissa.dropWhile (· ≠ '.') with
  | nil => rfl
  | cons point fraction => rfl

theorem ofReal_lower (digits : Text) : ofReal (Text.lower digits) = (ofReal digits).lower := by
  simp only [ofReal, Regions.lower, takeWhile_lower ignoresCase_not_isExponentMarker,
    dropWhile_lower ignoresCase_not_isExponentMarker,
    takeWhile_lower ignoresCase_point, fractionOf_lower]

variable (regions : Regions)

theorem hasMantissaShape_lower : regions.lower.hasMantissaShape = regions.hasMantissaShape := by
  rw [hasMantissaShape, hasMantissaShape, Regions.lower]
  cases regions.fraction with
  | none => exact isDigitRun_lower _
  | some fraction =>
      simp only [Option.map_some, isDigitRun_lower, isEmpty_lower]

theorem hasExponentShape_lower : regions.lower.hasExponentShape = regions.hasExponentShape := by
  rw [hasExponentShape, hasExponentShape, Regions.lower]
  cases regions.exponent with
  | nil => rfl
  | cons marker power => simp only [lower_cons, dropSign_lower, isDigitRun_lower]

theorem hasRealShape_lower : regions.lower.hasRealShape = regions.hasRealShape := by
  rw [hasRealShape, hasRealShape, hasMantissaShape_lower, hasExponentShape_lower]

theorem text_lower : regions.lower.text = Text.lower regions.text := by
  rw [text, text, mantissa, mantissa, Regions.lower]
  cases regions.fraction with
  | none => exact (lower_append _ _).symm
  | some fraction => simp only [Option.map_some, lower_append, lower_cons]; rfl

theorem size_lower : regions.lower.size = regions.size := by
  rw [size, size, Regions.lower]
  cases regions.fraction with
  | none => simp only [length_lower, Option.map_none, Option.elim_none]
  | some fraction => simp only [length_lower, Option.map_some, Option.elim_some]

end Regions

/-! ## Values -/

theorem RealType.isFloatDigits_lower (regions : Regions) :
    isFloatDigits regions.lower = isFloatDigits regions := by
  rw [isFloatDigits, isFloatDigits, Regions.lower]
  simp only [getD_map_lower, isEmpty_lower, all_lower ignoresCase_isDigit]
  congr 1
  cases regions.exponent with
  | nil => rfl
  | cons marker power =>
      simp only [lower_cons, dropSign_lower, isEmpty_lower, all_lower ignoresCase_isDigit]

theorem RealType.isFloatText_lower (text : Text) :
    isFloatText (lower text) = isFloatText text := by
  have name : (lower (dropSign text)).map Char.toLower = (dropSign text).map Char.toLower :=
    lower_lower (dropSign text)
  rw [isFloatText, isFloatText, dropSign_lower, Regions.ofReal_lower, isFloatDigits_lower, name]

namespace Decimal

theorem applySign_lower (text : Text) (magnitude : Nat) :
    applySign (lower text) magnitude = applySign text magnitude := by
  simp only [applySign, head?_lower_eq_some_iff (show '-'.isAlpha = false by decide)]

/-- Digits have no case, and other exponents are rejected in either case. -/
theorem readExponent?_lower (text : Text) : readExponent? (lower text) = readExponent? text := by
  simp only [readExponent?, dropSign_lower, isEmpty_lower, all_lower ignoresCase_isDigit,
    applySign_lower]
  by_cases digits : (dropSign text).all Char.isDigit = true
  · have caseless : lower (dropSign text) = dropSign text := by
      apply lower_eq_self
      intro letter member
      rw [isDigitOrSeparator, List.all_eq_true.1 digits letter member, Bool.true_or]
    rw [caseless]
  · simp only [digits, Bool.not_false, Bool.or_true, if_true]

/-- The digits of a mantissa that is not rejected have no case either. -/
theorem readMantissa?_lower (text : Text) : readMantissa? (lower text) = readMantissa? text := by
  simp only [readMantissa?, takeWhile_lower Regions.ignoresCase_point, Regions.fractionOf_lower,
    getD_map_lower, ← lower_append, any_head?_lower ignoresCase_isDigit,
    all_lower ignoresCase_isDigitOrSeparator]
  by_cases digits : (text.takeWhile (· ≠ '.') ++ (Regions.fractionOf text).getD []).all
      isDigitOrSeparator = true
  · rw [List.all_eq_true] at digits
    have integer : lower (text.takeWhile (· ≠ '.')) = text.takeWhile (· ≠ '.') :=
      lower_eq_self fun letter member => digits letter (List.mem_append_left _ member)
    have behind : lower ((Regions.fractionOf text).getD []) = (Regions.fractionOf text).getD [] :=
      lower_eq_self fun letter member => digits letter (List.mem_append_right _ member)
    rw [integer, behind]
  · simp only [digits, Bool.not_false, Bool.or_true, if_true]

theorem readSigned?_lower (text : Text) : readSigned? (lower text) = readSigned? text := by
  have opened : (if (lower text).head? = some '.' then '0' :: lower text else lower text) =
      lower (if text.head? = some '.' then '0' :: text else text) := by
    simp only [head?_lower_eq_some_iff (show '.'.isAlpha = false by decide), apply_ite lower]
    rfl
  simp only [readSigned?, opened, dropSign_lower, readMantissa?_lower, applySign_lower]

theorem ofText?_lower (digits : Text) : ofText? (lower digits) = ofText? digits := by
  rw [ofText?, ofText?, takeWhile_lower ignoresCase_not_isExponentMarker,
    dropWhile_lower ignoresCase_not_isExponentMarker, readSigned?_lower]
  cases digits.dropWhile fun letter => !isExponentMarker letter with
  | nil => rfl
  | cons marker power => simp only [lower_cons, readExponent?_lower]

end Decimal

theorem RealType.accepts_lower (type : RealType) (digits : Text) :
    type.accepts (lower digits) = type.accepts digits := by
  cases type with
  | single => exact isFloatText_lower digits
  | double => exact isFloatText_lower digits
  | decimal => exact congrArg Option.isSome (Decimal.ofText?_lower digits)

/-! ## Integers -/

theorem Base.splitMark?_eq_none
    {base : Base} {text : Text} (marked : base.marker? ≠ none)
    (opened : text.head? ≠ some '0') :
    base.splitMark? text = none := by
  cases split : base.splitMark? text with
  | none => rfl
  | some parts =>
      obtain ⟨isMark, rfl⟩ := splitMark?_eq_some_iff.1 split
      rcases mem_marks_iff.1 isMark with ⟨unmarked, -⟩ | ⟨letter, -, shape⟩
      · exact absurd unmarked marked
      · rw [shape] at opened
        exact absurd rfl opened

theorem Base.splitMark?_lower (base : Base) (text : Text) :
    base.splitMark? (Text.lower text) =
      (base.splitMark? text).map fun parts => (Text.lower parts.1, Text.lower parts.2) := by
  by_cases unmarked : base.marker? = none
  · rw [splitMark?, splitMark?, unmarked]
    rfl
  · by_cases opened : text.head? = some '0'
    · obtain ⟨behind, rfl⟩ := List.head?_eq_some_iff.1 opened
      obtain ⟨marker, marked⟩ := Option.ne_none_iff_exists'.1 unmarked
      rw [splitMark?, splitMark?, marked]
      cases behind with
      | nil => rfl
      | cons letter rest =>
          have same : letter.toLower.toLower = letter.toLower := ignoresCase_toLower letter
          simp only [lower_cons, show '0'.toLower = '0' by decide, same]
          rw [apply_ite (Option.map _)]
          rfl
    · have lowerOpened : (Text.lower text).head? ≠ some '0' := by
        rwa [ne_eq, head?_lower_eq_some_iff (by decide)]
      rw [splitMark?_eq_none unmarked opened, splitMark?_eq_none unmarked lowerOpened]
      rfl

namespace Numeral

theorem ignoresCase_isUnsignedMarker : IgnoresCase isUnsignedMarker :=
  ignoresCase_of_upperLetters (by decide)

theorem ignoresCase_isLongMarker : IgnoresCase isLongMarker :=
  ignoresCase_of_upperLetters (by decide)

theorem ignoresCase_isIntegerDigit (base : Base) : IgnoresCase (isIntegerDigit base) := by
  apply ignoresCase_of_upperLetters
  cases base with
  | decimal => decide
  | hexadecimal => decide
  | binary => decide

theorem isIntegerSuffix_lower (suffix : Text) :
    isIntegerSuffix (Text.lower suffix) = isIntegerSuffix suffix := by
  cases suffix with
  | nil => rfl
  | cons first behind =>
      cases behind with
      | nil =>
          simp only [lower_cons, lower_nil, isIntegerSuffix, ignoresCase_isUnsignedMarker first,
            ignoresCase_isLongMarker first]
      | cons second rest =>
          cases rest with
          | nil =>
              simp only [lower_cons, lower_nil, isIntegerSuffix,
                ignoresCase_isUnsignedMarker first, ignoresCase_isLongMarker first,
                ignoresCase_isUnsignedMarker second, ignoresCase_isLongMarker second]
          | cons third rest => rfl

theorem integer?_lower (base : Base) (text : Text) :
    integer? base (Text.lower text) = (integer? base text).map lower := by
  rw [integer?, integer?, Base.splitMark?_lower]
  cases base.splitMark? text with
  | none => rfl
  | some parts =>
      simp only [Option.map_some, takeWhile_lower (ignoresCase_isIntegerDigit base),
        dropWhile_lower (ignoresCase_isIntegerDigit base), isIntegerSuffix_lower,
        ne_eq, lower_eq_nil_iff, head?_lower_eq_some_iff (show separator.isAlpha = false by decide),
        getLast?_lower_eq_some_iff (show separator.isAlpha = false by decide)]
      rw [apply_ite (Option.map lower)]
      rfl

/-! ## Reals -/

theorem ignoresCase_ofMarker? : IgnoresCase RealType.ofMarker? :=
  ignoresCase_of_upperLetters (by decide)

theorem splitMarker_lower (text : Text) :
    splitMarker (Text.lower text) =
      (Text.lower (splitMarker text).1, Text.lower (splitMarker text).2.1,
        (splitMarker text).2.2) := by
  rw [splitMarker, splitMarker, getLast?_lower]
  cases text.getLast? with
  | none => rfl
  | some last =>
      simp only [Option.map_some, ignoresCase_ofMarker? last]
      cases RealType.ofMarker? last with
      | none => rfl
      | some type =>
          simp only [Text.lower, List.map_dropLast, List.map_cons, List.map_nil]

/-- The reason of a rejection is the same in either case. -/
theorem real_lower (text : Text) : real (Text.lower text) = (real text).map lower := by
  simp only [real, splitMarker_lower, lower_eq_nil_iff, Regions.ofReal_lower,
    Regions.hasRealShape_lower, scrub_lower, RealType.accepts_lower]
  rw [apply_ite (Except.map lower), apply_ite (Except.map lower), apply_ite (Except.map lower)]
  rfl

theorem read_lower (text : Text) : read (Text.lower text) = (read text).map lower := by
  have integers : (Base.all.findSome? fun base => integer? base (Text.lower (trim text))) =
      (Base.all.findSome? fun base => integer? base (trim text)).map lower := by
    simp only [integer?_lower, List.map_findSome?]
    rfl
  simp only [read, trim_lower, lower_eq_nil_iff, integers, real_lower]
  by_cases blank : trim text = []
  · rw [if_pos blank, if_pos blank]
    rfl
  · rw [if_neg blank, if_neg blank]
    cases Base.all.findSome? fun base => integer? base (trim text) with
    | none => rfl
    | some numeral => rfl

theorem parse?_lower (text : Text) : parse? (Text.lower text) = (parse? text).map lower := by
  rw [parse?, parse?, read_lower]
  cases read text with
  | error rejection => rfl
  | ok numeral => rfl

/-! ## What is made of a numeral -/

variable (numeral : Numeral)

theorem base_lower : numeral.lower.base = numeral.base :=
  rfl

theorem isInteger_lower : numeral.lower.isInteger = numeral.isInteger :=
  rfl

theorem text_lower : numeral.lower.text = Text.lower numeral.text := by
  rw [Numeral.text, Numeral.text, lower_append, lower_append]
  rfl

theorem scrubbedDigits_lower : numeral.lower.scrubbedDigits = Text.lower numeral.scrubbedDigits :=
  scrub_lower numeral.digits

theorem hasSeparators_lower : numeral.lower.hasSeparators = numeral.hasSeparators := by
  rw [Bool.eq_iff_iff, hasSeparators, hasSeparators, List.contains_iff_mem,
    List.contains_iff_mem]
  exact mem_lower_iff (by decide)

theorem regions_lower : numeral.lower.regions = numeral.regions.lower := by
  rw [regions, regions, scrubbedDigits_lower, Regions.ofReal_lower, apply_ite Regions.lower]
  rfl

theorem size_lower : numeral.lower.size = numeral.size := by
  rw [size, size, regions_lower, Regions.size_lower, scrubbedDigits_lower, length_lower]
  rfl

end Numeral

/-! ## Grouping puts the same separators -/

theorem groupFromRight_lower (groupSize : Nat) (run : Text) :
    groupFromRight groupSize (lower run) = lower (groupFromRight groupSize run) := by
  induction run with
  | nil => rfl
  | cons digit rest inductionHypothesis =>
      simp only [lower_cons, groupFromRight, length_lower, inductionHypothesis,
        apply_ite lower]
      rfl

theorem groupInteger_lower (groupSize : Nat) (marked : Bool) (run : Text) :
    groupInteger groupSize marked (lower run) = lower (groupInteger groupSize marked run) := by
  cases run with
  | nil => rfl
  | cons digit rest =>
      cases marked with
      | true => exact groupFromRight_lower groupSize (digit :: rest)
      | false => exact congrArg (digit.toLower :: ·) (groupFromRight_lower groupSize rest)

theorem groupFromLeft_lower (groupSize preceding : Nat) (run : Text) :
    groupFromLeft groupSize preceding (lower run) =
      lower (groupFromLeft groupSize preceding run) := by
  induction run generalizing preceding with
  | nil => rfl
  | cons digit rest inductionHypothesis =>
      simp only [lower_cons, groupFromLeft, inductionHypothesis, apply_ite lower]
      rfl

theorem Regions.grouped_lower (groupSize : Nat) (marked : Bool) (regions : Regions) :
    regions.lower.grouped groupSize marked = (regions.grouped groupSize marked).lower := by
  rw [grouped, grouped, Regions.lower, Regions.lower, groupInteger_lower]
  cases regions.fraction with
  | none => rfl
  | some fraction => simp only [Option.map_some, groupFromLeft_lower]

theorem Numeral.grouped_lower (numeral : Numeral) (groupSize : Nat) :
    numeral.lower.grouped groupSize = Text.lower (numeral.grouped groupSize) := by
  have marked : numeral.lower.mark.isEmpty = numeral.mark.isEmpty := isEmpty_lower numeral.mark
  rw [grouped_eq, grouped_eq, regions_lower, marked, Regions.grouped_lower, Regions.text_lower,
    lower_append, lower_append]
  rfl

theorem separatorPlaces_lower (text : Text) :
    separatorPlaces (lower text) = separatorPlaces text := by
  induction text with
  | nil => rfl
  | cons letter rest inductionHypothesis =>
      simp only [lower_cons, separatorPlaces, inductionHypothesis,
        toLower_eq_iff_of_not_isAlpha (show separator.isAlpha = false by decide)]

end NumeralStyle
