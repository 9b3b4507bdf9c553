import NumeralStyle.Proofs.Numeral.Letters
import NumeralStyle.Proofs.Numeral.Shape

/-!
# Forms of numerals

The reader takes a text apart; a form says what it may find.  An integer form is a
mark of the base, digits with separators and an integer suffix.  A real form is
digits of real shape and the marker of a type that accepts them.  The main
statements say that the two readers succeed with exactly the numerals of their form
that spell the text.
-/

namespace NumeralStyle

/-! ## Marks -/

/-- The marks of a base, in either case.  Base ten has the empty mark only. -/
def Base.marks : Base → List Text
  | .decimal => [[]]
  | .hexadecimal => [['0', 'x'], ['0', 'X']]
  | .binary => [['0', 'b'], ['0', 'B']]

theorem toLower_eq_x_iff {letter : Char} :
    letter.toLower = 'x' ↔ letter = 'x' ∨ letter = 'X' :=
  toLower_eq_iff (by decide)

theorem toLower_eq_b_iff {letter : Char} :
    letter.toLower = 'b' ↔ letter = 'b' ∨ letter = 'B' :=
  toLower_eq_iff (by decide)

theorem Base.mem_marks_iff {base : Base} {mark : Text} :
    mark ∈ base.marks ↔
      (base.marker? = none ∧ mark = []) ∨
        ∃ letter, base.marker? = some letter.toLower ∧ mark = ['0', letter] := by
  cases base with
  | decimal => simp [marks, marker?]
  | hexadecimal =>
      simp [marks, marker?, eq_comm (a := 'x'), toLower_eq_x_iff, or_and_right, exists_or]
  | binary =>
      simp [marks, marker?, eq_comm (a := 'b'), toLower_eq_b_iff, or_and_right, exists_or]

theorem Base.eq_decimal_of_marker? {base : Base} (unmarked : base.marker? = none) :
    base = .decimal := by
  cases base with
  | decimal => rfl
  | hexadecimal => cases unmarked
  | binary => cases unmarked

theorem Base.splitMark?_eq_some_iff
    {base : Base} {text mark rest : Text} :
    base.splitMark? text = some (mark, rest) ↔ mark ∈ base.marks ∧ mark ++ rest = text := by
  rw [mem_marks_iff]
  constructor
  · intro split
    refine ⟨?_, splitMark?_eq_some split⟩
    unfold splitMark? at split
    split at split
    · rename_i unmarked
      cases split
      exact Or.inl ⟨unmarked, rfl⟩
    · rename_i marker marked
      split at split
      · rename_i letter _
        split at split
        · rename_i same
          cases split
          exact Or.inr ⟨letter, same ▸ marked, rfl⟩
        · cases split
      · cases split
  · rintro ⟨⟨unmarked, rfl⟩ | ⟨letter, marked, rfl⟩, rfl⟩
    · simp [splitMark?, unmarked]
    · simp [splitMark?, marked]

/-! ## Digits of integers -/

/-- The digits of an integer: digits of the base and separators, with no separator
at the end, nor at the start unless a mark precedes. -/
structure Base.IsIntegerDigits (base : Base) (digits : Text) : Prop where
  nonempty : digits ≠ []
  accepted : ∀ letter ∈ digits, Numeral.isIntegerDigit base letter = true
  closed : digits.getLast? ≠ some separator
  opened : base = .decimal → digits.head? ≠ some separator

theorem isIntegerDigit_decimal (letter : Char) :
    Numeral.isIntegerDigit .decimal letter = isDigitOrSeparator letter :=
  Bool.or_comm _ _

theorem not_isDigit_separator (base : Base) : base.isDigit separator = false := by
  cases base <;> rfl

theorem isIntegerDigits_decimal_iff {digits : Text} :
    Base.decimal.IsIntegerDigits digits ↔ isDigitRun digits = true := by
  rw [isDigitRun_iff]
  constructor
  · intro form
    have accepted : ∀ letter ∈ digits, isDigitOrSeparator letter = true := by
      intro letter member
      rw [← isIntegerDigit_decimal]
      exact form.accepted letter member
    refine ⟨⟨digits.head form.nonempty, List.head?_eq_some_head _, ?_⟩,
      ⟨digits.getLast form.nonempty, List.getLast?_eq_some_getLast _, ?_⟩, accepted⟩
    · apply isDigit_of_isDigitOrSeparator (accepted _ (List.head_mem _))
      intro same
      apply form.opened rfl
      rw [← same]
      exact List.head?_eq_some_head _
    · apply isDigit_of_isDigitOrSeparator (accepted _ (List.getLast_mem _))
      intro same
      apply form.closed
      rw [← same]
      exact List.getLast?_eq_some_getLast _
  · rintro ⟨⟨first, opening, firstDigit⟩, ⟨last, closing, lastDigit⟩, accepted⟩
    refine ⟨?_, ?_, ?_, ?_⟩
    · rintro rfl
      cases opening
    · intro letter member
      rw [isIntegerDigit_decimal]
      exact accepted letter member
    · rw [closing]
      rintro ⟨⟩
      exact absurd lastDigit (by decide)
    · rw [opening]
      rintro _ ⟨⟩
      exact absurd firstDigit (by decide)

namespace Numeral

/-! ## Integer forms -/

theorem marker_of_mem_integerSuffix
    {suffix : Text} {letter : Char}
    (form : isIntegerSuffix suffix = true) (member : letter ∈ suffix) :
    letter = 'u' ∨ letter = 'U' ∨ letter = 'l' ∨ letter = 'L' := by
  have marker : isUnsignedMarker letter = true ∨ isLongMarker letter = true := by
    unfold isIntegerSuffix at form
    split at form
    · cases member
    · rw [List.mem_singleton] at member
      rwa [member, ← Bool.or_eq_true]
    · simp only [Bool.or_eq_true, Bool.and_eq_true] at form
      simp only [List.mem_cons, List.not_mem_nil, or_false] at member
      rcases member with rfl | rfl
      · exact form.imp And.left And.left
      · exact (form.imp And.right And.right).symm
    · cases form
  simpa only [isUnsignedMarker, isLongMarker, Bool.or_eq_true, decide_eq_true_eq,
    or_assoc] using marker

theorem isIntegerDigit_of_mem_integerSuffix
    {suffix : Text} {letter : Char} (base : Base)
    (form : isIntegerSuffix suffix = true) (member : letter ∈ suffix) :
    isIntegerDigit base letter = false := by
  rcases marker_of_mem_integerSuffix form member with rfl | rfl | rfl | rfl <;>
    cases base <;> decide

/-- What it takes to be read as an integer. -/
structure IntegerForm (numeral : Numeral) : Prop where
  isInteger : numeral.isInteger = true
  mark : numeral.mark ∈ numeral.base.marks
  digits : numeral.base.IsIntegerDigits numeral.digits
  suffix : isIntegerSuffix numeral.suffix = true

/-- Only behind a mark may a separator open the digits. -/
theorem head?_text_ne_separator_iff
    {numeral : Numeral} (isMark : numeral.mark ∈ numeral.base.marks)
    (nonempty : numeral.digits ≠ []) :
    numeral.text.head? ≠ some separator ↔
      (numeral.base = .decimal → numeral.digits.head? ≠ some separator) := by
  unfold Numeral.text
  rcases Base.mem_marks_iff.1 isMark with ⟨unmarked, empty⟩ | ⟨letter, marked, shape⟩
  · have decimal := Base.eq_decimal_of_marker? unmarked
    rw [empty, List.nil_append, List.head?_append_of_ne_nil _ nonempty]
    exact ⟨fun opened _ => opened, fun opened => opened decimal⟩
  · have based : numeral.base ≠ .decimal := by
      intro decimal
      simp [decimal, Base.marker?] at marked
    rw [shape]
    exact ⟨fun _ decimal => absurd decimal based, fun _ => by simp [separator]⟩

/-- The integers of base ten are those without a mark. -/
theorem IntegerForm.base_eq_decimal_iff {numeral : Numeral} (form : numeral.IntegerForm) :
    numeral.base = .decimal ↔ numeral.mark = [] := by
  rcases Base.mem_marks_iff.1 form.mark with ⟨unmarked, empty⟩ | ⟨letter, marked, shape⟩
  · exact ⟨fun _ => empty, fun _ => Base.eq_decimal_of_marker? unmarked⟩
  · rw [shape]
    refine ⟨fun decimal => ?_, nofun⟩
    rw [decimal] at marked
    cases marked

theorem integer?_eq_some_iff
    {base : Base} {text : Text} {numeral : Numeral} :
    integer? base text = some numeral ↔
      numeral.IntegerForm ∧ numeral.base = base ∧ numeral.text = text := by
  constructor
  · intro reading
    have spelled := text_of_integer? reading
    unfold integer? at reading
    split at reading
    · cases reading
    · rename_i mark rest split
      obtain ⟨isMark, whole⟩ := Base.splitMark?_eq_some_iff.1 split
      dsimp only at reading
      split at reading
      · rename_i conditions
        obtain ⟨nonempty, opened, closed, suffix⟩ := conditions
        cases reading
        refine ⟨⟨rfl, isMark, ⟨nonempty, ?_, closed, ?_⟩, suffix⟩, rfl, spelled⟩
        · intro letter member
          exact List.mem_takeWhile_imp member
        · rw [← spelled] at opened
          exact (head?_text_ne_separator_iff isMark nonempty).1 opened
      · cases reading
  · rintro ⟨form, rfl, rfl⟩
    obtain ⟨digitsSpan, suffixSpan⟩ := span_append (isIntegerDigit numeral.base)
      form.digits.accepted fun _ first =>
        isIntegerDigit_of_mem_integerSuffix numeral.base form.suffix (List.mem_of_mem_head? first)
    have split : numeral.base.splitMark? numeral.text =
        some (numeral.mark, numeral.digits ++ numeral.suffix) :=
      Base.splitMark?_eq_some_iff.2 ⟨form.mark, (List.append_assoc _ _ _).symm⟩
    have opened :=
      (head?_text_ne_separator_iff form.mark form.digits.nonempty).2 form.digits.opened
    unfold integer?
    rw [split]
    dsimp only
    rw [digitsSpan, suffixSpan,
      if_pos ⟨form.digits.nonempty, opened, form.digits.closed, form.suffix⟩, ← form.isInteger]

/-! ## Real forms -/

/-- The type of number for which the suffix of a real stands. -/
def realType? : Text → Option RealType
  | [] => some .double
  | [letter] => RealType.ofMarker? letter
  | _ => none

/-- What it takes to be read as a real. -/
structure RealForm (numeral : Numeral) : Prop where
  isInteger : numeral.isInteger = false
  base : numeral.base = .decimal
  mark : numeral.mark = []
  digits : (Regions.ofReal numeral.digits).IsReal
  suffix : ∃ type, realType? numeral.suffix = some type ∧
    type.accepts (scrub numeral.digits) = true

theorem marker_of_ofMarker?
    {letter : Char} {type : RealType} (marker : RealType.ofMarker? letter = some type) :
    letter ∈ ['F', 'f', 'D', 'd', 'M', 'm'] := by
  unfold RealType.ofMarker? at marker
  split at marker <;> simp_all

theorem realType?_splitMarker (text : Text) :
    realType? (splitMarker text).2.1 = some (splitMarker text).2.2 := by
  unfold splitMarker
  split
  · rfl
  · split
    · rfl
    · rename_i marker
      exact marker

theorem splitMarker_digits_append_suffix
    {digits suffix : Text} {type : RealType}
    (closed : ∃ last, digits.getLast? = some last ∧ last.isDigit = true)
    (marked : realType? suffix = some type) :
    splitMarker (digits ++ suffix) = (digits, suffix, type) := by
  obtain ⟨last, closing, digit⟩ := closed
  unfold realType? at marked
  split at marked
  · cases marked
    have unmarked : RealType.ofMarker? last = none := by
      cases case : RealType.ofMarker? last with
      | none => rfl
      | some type =>
          have marker := marker_of_ofMarker? case
          simp only [List.mem_cons, List.not_mem_nil, or_false] at marker
          rcases marker with rfl | rfl | rfl | rfl | rfl | rfl <;> cases digit
    simp [splitMarker, closing, unmarked]
  · simp [splitMarker, marked]
  · cases marked

theorem real_eq_ok_iff {text : Text} {numeral : Numeral} :
    real text = .ok numeral ↔ numeral.RealForm ∧ numeral.text = text := by
  constructor
  · intro reading
    have spelled := text_of_real reading
    have marked := realType?_splitMarker text
    unfold real at reading
    dsimp only at reading
    split at reading
    · cases reading
    · split at reading
      · cases reading
      · rename_i shape
        split at reading
        · cases reading
        · rename_i accepted
          cases reading
          refine ⟨⟨rfl, rfl, rfl, ?_, _, marked, ?_⟩, spelled⟩
          · exact Regions.isReal_ofReal_iff.2 (by simpa using shape)
          · simpa using accepted
  · rintro ⟨form, rfl⟩
    obtain ⟨type, marked, accepted⟩ := form.suffix
    have closed := form.digits.getLast?_text
    rw [Regions.text_ofReal] at closed
    have nonempty : numeral.digits ≠ [] := by
      rintro empty
      simp [empty] at closed
    have split : splitMarker numeral.text = (numeral.digits, numeral.suffix, type) := by
      unfold Numeral.text
      rw [form.mark, List.nil_append]
      exact splitMarker_digits_append_suffix closed marked
    have shape := Regions.isReal_ofReal_iff.1 form.digits
    unfold real
    rw [split]
    dsimp only
    rw [if_neg nonempty, if_neg (by simp [shape]), if_neg (by simp [accepted]),
      ← form.base, ← form.mark, ← form.isInteger]

end Numeral

end NumeralStyle
