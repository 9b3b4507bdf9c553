import Mathlib
import NumeralStyle.Numeral.RealType

/-!
# Shapes of reals

Real shape is a property of regions: runs of digits where the mantissa needs them
and a run of digits in the exponent.  The main statements say that splitting the
text of such regions gives them back, that the shape survives scrubbing, and that
scrubbed digits of that shape are a floating-point text.
-/

namespace NumeralStyle

/-- A text splits where a class of characters ends. -/
theorem span_append
    (accept : Char → Bool) {front back : Text}
    (accepted : ∀ letter ∈ front, accept letter = true)
    (stopped : ∀ letter ∈ back.head?, accept letter = false) :
    (front ++ back).takeWhile accept = front ∧ (front ++ back).dropWhile accept = back := by
  rw [List.takeWhile_append_of_pos accepted, List.dropWhile_append_of_pos accepted]
  cases back with
  | nil => simp
  | cons letter rest => simp [stopped letter rfl]

/-! ## Runs of digits -/

theorem isDigitRun_iff {run : Text} :
    isDigitRun run = true ↔
      (∃ first, run.head? = some first ∧ first.isDigit = true) ∧
        (∃ last, run.getLast? = some last ∧ last.isDigit = true) ∧
          ∀ letter ∈ run, isDigitOrSeparator letter = true := by
  simp only [isDigitRun, Bool.and_eq_true, List.all_eq_true, Option.any_eq_true, and_assoc]

theorem ne_nil_of_isDigitRun {run : Text} (shape : isDigitRun run = true) : run ≠ [] := by
  rintro rfl
  cases shape

theorem isDigit_of_isDigitOrSeparator
    {letter : Char} (accepted : isDigitOrSeparator letter = true)
    (different : letter ≠ separator) :
    letter.isDigit = true := by
  simpa [isDigitOrSeparator, different] using accepted

theorem ne_separator_of_isDigit
    {letter : Char} (digit : letter.isDigit = true) :
    letter ≠ separator := by
  rintro rfl
  cases digit

theorem isDigit_of_mem_scrub
    {run : Text} {letter : Char} (accepted : ∀ letter ∈ run, isDigitOrSeparator letter = true)
    (member : letter ∈ scrub run) :
    letter.isDigit = true := by
  obtain ⟨original, different⟩ := List.mem_filter.1 member
  exact isDigit_of_isDigitOrSeparator (accepted letter original) (of_decide_eq_true different)

/-- Digits without separators are a run unless there are none. -/
theorem isDigitRun_of_forall_isDigit
    {run : Text} (nonempty : run ≠ []) (digits : ∀ letter ∈ run, letter.isDigit = true) :
    isDigitRun run = true := by
  rw [isDigitRun_iff]
  refine ⟨⟨_, List.head?_eq_some_head nonempty, digits _ (List.head_mem nonempty)⟩,
    ⟨_, List.getLast?_eq_some_getLast nonempty, digits _ (List.getLast_mem nonempty)⟩, ?_⟩
  intro letter member
  simp [isDigitOrSeparator, digits letter member]

/-- A last character that is no separator outlasts scrubbing. -/
theorem scrub_ne_nil
    {run : Text} (nonempty : run ≠ []) (closed : run.getLast? ≠ some separator) :
    scrub run ≠ [] := by
  have closing := List.getLast?_eq_some_getLast nonempty
  have different : run.getLast nonempty ≠ separator := by
    intro same
    rw [closing, same] at closed
    exact closed rfl
  apply List.ne_nil_of_mem
  exact List.mem_filter.2 ⟨List.mem_of_getLast? closing, decide_eq_true different⟩

theorem scrub_ne_nil_of_isDigitRun
    {run : Text} (shape : isDigitRun run = true) : scrub run ≠ [] := by
  obtain ⟨⟨first, opening, digit⟩, _⟩ := isDigitRun_iff.1 shape
  apply List.ne_nil_of_mem (a := first)
  exact List.mem_filter.2
    ⟨List.mem_of_mem_head? opening, decide_eq_true (ne_separator_of_isDigit digit)⟩

theorem isDigitRun_scrub
    {run : Text} (shape : isDigitRun run = true) : isDigitRun (scrub run) = true := by
  obtain ⟨_, _, accepted⟩ := isDigitRun_iff.1 shape
  apply isDigitRun_of_forall_isDigit (scrub_ne_nil_of_isDigitRun shape)
  intro letter member
  exact isDigit_of_mem_scrub accepted member

theorem not_isExponentMarker_of_isDigitOrSeparator
    {letter : Char} (accepted : isDigitOrSeparator letter = true) :
    isExponentMarker letter = false := by
  have marker : isExponentMarker letter = true → isDigitOrSeparator letter = false := by
    simp only [isExponentMarker, Bool.or_eq_true, decide_eq_true_eq]
    rintro (rfl | rfl) <;> decide
  cases case : isExponentMarker letter with
  | false => rfl
  | true => exact absurd accepted (by simp [marker case])

/-! ## Signs -/

/-- The signs of an exponent, the absent one included. -/
def signs : List Text :=
  [[], ['+'], ['-']]

theorem mem_signs_iff {sign : Text} :
    sign ∈ signs ↔ sign = [] ∨ sign = ['+'] ∨ sign = ['-'] := by
  simp [signs]

/-- A sign that was dropped stood in front. -/
theorem exists_sign_append_dropSign (text : Text) :
    ∃ sign ∈ signs, sign ++ dropSign text = text := by
  unfold dropSign
  split
  · exact ⟨['+'], by simp [signs], rfl⟩
  · exact ⟨['-'], by simp [signs], rfl⟩
  · exact ⟨[], by simp [signs], rfl⟩

theorem separator_not_mem_sign {sign : Text} (isSign : sign ∈ signs) : separator ∉ sign := by
  rcases mem_signs_iff.1 isSign with rfl | rfl | rfl <;> decide

theorem dropSign_append
    {sign run : Text} (isSign : sign ∈ signs)
    (opened : run.head? ≠ some '+' ∧ run.head? ≠ some '-') :
    dropSign (sign ++ run) = run := by
  rcases mem_signs_iff.1 isSign with rfl | rfl | rfl
  · cases run with
    | nil => rfl
    | cons letter rest =>
        simp only [List.head?_cons, ne_eq, Option.some.injEq] at opened
        unfold dropSign
        split <;> simp_all
  · rfl
  · rfl

theorem dropSign_append_of_isDigitRun
    {sign run : Text} (isSign : sign ∈ signs) (shape : isDigitRun run = true) :
    dropSign (sign ++ run) = run := by
  obtain ⟨⟨first, opening, digit⟩, _⟩ := isDigitRun_iff.1 shape
  apply dropSign_append isSign
  rw [opening]
  constructor <;> rintro ⟨⟩ <;> cases digit

namespace Regions

variable {regions : Regions}

/-! ## Real shape, region by region -/

theorem hasMantissaShape_iff :
    regions.hasMantissaShape = true ↔
      (regions.fraction = none ∧ isDigitRun regions.integer = true) ∨
        ∃ fraction, regions.fraction = some fraction ∧
          (regions.integer = [] ∨ isDigitRun regions.integer = true) ∧
            isDigitRun fraction = true := by
  unfold hasMantissaShape
  cases regions.fraction with
  | none => simp
  | some fraction => simp [List.isEmpty_iff]

theorem hasExponentShape_iff :
    regions.hasExponentShape = true ↔
      regions.exponent = [] ∨
        ∃ marker power, regions.exponent = marker :: power ∧
          isDigitRun (dropSign power) = true := by
  unfold hasExponentShape
  cases regions.exponent with
  | nil => simp
  | cons marker power => simp

/-- An exponent of a real: a marker, at most one sign and a run of digits. -/
def IsExponent (exponent : Text) : Prop :=
  ∃ marker sign run, isExponentMarker marker = true ∧ sign ∈ signs ∧
    isDigitRun run = true ∧ exponent = marker :: (sign ++ run)

/-- The regions of a real.  Beyond real shape, the exponent opens with its marker. -/
structure IsReal (regions : Regions) : Prop where
  mantissa : regions.hasMantissaShape = true
  exponent : regions.exponent = [] ∨ IsExponent regions.exponent

theorem isReal_iff :
    regions.IsReal ↔
      regions.hasRealShape = true ∧
        ∀ letter ∈ regions.exponent.head?, isExponentMarker letter = true := by
  unfold hasRealShape
  rw [Bool.and_eq_true, hasExponentShape_iff, and_assoc]
  constructor
  · rintro ⟨mantissa, absent | ⟨marker, sign, run, marked, isSign, isRun, present⟩⟩
    · exact ⟨mantissa, Or.inl absent, by simp [absent]⟩
    · refine ⟨mantissa, Or.inr ⟨marker, sign ++ run, present, ?_⟩, by simp [present, marked]⟩
      rwa [dropSign_append_of_isDigitRun isSign isRun]
  · rintro ⟨mantissa, absent | ⟨marker, power, present, isRun⟩, marked⟩
    · exact ⟨mantissa, Or.inl absent⟩
    · obtain ⟨sign, isSign, whole⟩ := exists_sign_append_dropSign power
      refine ⟨mantissa, Or.inr ⟨marker, sign, dropSign power, ?_, isSign, isRun, ?_⟩⟩
      · exact marked marker (by simp [present])
      · rw [whole, present]

theorem isExponentMarker_of_head?_exponent
    {digits : Text} {letter : Char} (first : letter ∈ (ofReal digits).exponent.head?) :
    isExponentMarker letter = true := by
  have stopped := List.head?_dropWhile_not (fun letter => !isExponentMarker letter) digits
  unfold ofReal at first
  rw [Option.mem_def] at first
  rw [first] at stopped
  simpa using stopped

/-- The digits that were split from a real have real shape and nothing else is
needed, since splitting stops at an exponent marker. -/
theorem isReal_ofReal_iff {digits : Text} :
    (ofReal digits).IsReal ↔ (ofReal digits).hasRealShape = true := by
  rw [isReal_iff]
  exact and_iff_left fun _ => isExponentMarker_of_head?_exponent

/-- The integer is a run of digits, or empty in front of a fraction. -/
theorem integer_accepted (shape : regions.hasMantissaShape = true) :
    ∀ letter ∈ regions.integer, isDigitOrSeparator letter = true := by
  rcases hasMantissaShape_iff.1 shape with ⟨_, integer⟩ | ⟨_, _, empty | integer, _⟩
  · exact (isDigitRun_iff.1 integer).2.2
  · simp [empty]
  · exact (isDigitRun_iff.1 integer).2.2

theorem mantissa_accepted (shape : regions.hasMantissaShape = true) :
    ∀ letter ∈ regions.mantissa, isDigitOrSeparator letter = true ∨ letter = '.' := by
  have integer := integer_accepted shape
  intro letter member
  unfold mantissa at member
  rcases hasMantissaShape_iff.1 shape with ⟨absent, _⟩ | ⟨fraction, present, _, run⟩
  · rw [absent] at member
    exact Or.inl (integer letter member)
  · rw [present] at member
    simp only [List.mem_append, List.mem_cons] at member
    rcases member with front | point | back
    · exact Or.inl (integer letter front)
    · exact Or.inr point
    · exact Or.inl ((isDigitRun_iff.1 run).2.2 letter back)

/-- A mantissa opens with a digit or with the point. -/
theorem head?_mantissa (shape : regions.hasMantissaShape = true) :
    ∃ first, regions.mantissa.head? = some first ∧ (first.isDigit = true ∨ first = '.') := by
  unfold mantissa
  rcases hasMantissaShape_iff.1 shape with ⟨absent, integer⟩ | ⟨_, present, empty | integer, _⟩
  · obtain ⟨⟨first, opening, digit⟩, _⟩ := isDigitRun_iff.1 integer
    rw [absent]
    exact ⟨first, opening, Or.inl digit⟩
  · rw [present, empty]
    exact ⟨'.', rfl, Or.inr rfl⟩
  · obtain ⟨⟨first, opening, digit⟩, _⟩ := isDigitRun_iff.1 integer
    rw [present]
    exact ⟨first, by simp [List.head?_append, opening], Or.inl digit⟩

/-- A mantissa ends with a digit. -/
theorem getLast?_mantissa (shape : regions.hasMantissaShape = true) :
    ∃ last, regions.mantissa.getLast? = some last ∧ last.isDigit = true := by
  unfold mantissa
  rcases hasMantissaShape_iff.1 shape with ⟨absent, integer⟩ | ⟨_, present, _, fraction⟩
  · obtain ⟨_, ending, _⟩ := isDigitRun_iff.1 integer
    rw [absent]
    exact ending
  · obtain ⟨_, ⟨last, closing, digit⟩, _⟩ := isDigitRun_iff.1 fraction
    rw [present]
    exact ⟨last, by simp [List.getLast?_cons, closing], digit⟩

/-- The digits of a real end with a digit. -/
theorem IsReal.getLast?_text (real : regions.IsReal) :
    ∃ last, regions.text.getLast? = some last ∧ last.isDigit = true := by
  unfold text
  rcases real.exponent with absent | ⟨marker, sign, run, _, _, isRun, present⟩
  · rw [absent, List.append_nil]
    exact getLast?_mantissa real.mantissa
  · obtain ⟨_, ⟨last, closing, digit⟩, _⟩ := isDigitRun_iff.1 isRun
    rw [present]
    exact ⟨last, by simp [List.getLast?_cons, closing], digit⟩

/-! ## Splitting and scrubbing regions of real shape -/

theorem not_isExponentMarker_of_mem_mantissa
    (shape : regions.hasMantissaShape = true) :
    ∀ letter ∈ regions.mantissa, isExponentMarker letter = false := by
  intro letter member
  rcases mantissa_accepted shape letter member with accepted | rfl
  · exact not_isExponentMarker_of_isDigitOrSeparator accepted
  · decide

theorem takeWhile_mantissa (shape : regions.hasMantissaShape = true) :
    regions.mantissa.takeWhile (· ≠ '.') = regions.integer ∧
      fractionOf regions.mantissa = regions.fraction := by
  have pointless : ∀ letter ∈ regions.integer, decide (letter ≠ '.') = true := by
    intro letter member
    have accepted := integer_accepted shape letter member
    apply decide_eq_true
    rintro rfl
    cases accepted
  unfold mantissa fractionOf
  cases regions.fraction with
  | none =>
      have stopped : ∀ letter ∈ ([] : Text).head?, decide (letter ≠ '.') = false := by
        simp
      have span := span_append (· ≠ '.') pointless stopped
      rw [List.append_nil] at span
      exact ⟨span.1, by rw [span.2]⟩
  | some fraction =>
      have stopped : ∀ letter ∈ ('.' :: fraction).head?, decide (letter ≠ '.') = false := by
        simp
      have span := span_append (· ≠ '.') pointless stopped
      exact ⟨span.1, by rw [span.2]⟩

/-- The digits of a real split at the marker of the exponent. -/
theorem IsReal.span_text (real : regions.IsReal) :
    regions.text.takeWhile (fun letter => !isExponentMarker letter) = regions.mantissa ∧
      regions.text.dropWhile (fun letter => !isExponentMarker letter) = regions.exponent := by
  have marked := (isReal_iff.1 real).2
  apply span_append (fun letter => !isExponentMarker letter)
  · intro letter member
    rw [not_isExponentMarker_of_mem_mantissa real.mantissa letter member]
    rfl
  · intro letter first
    rw [marked letter first]
    rfl

/-- Splitting the digits that the regions of a real make up gives these regions. -/
theorem IsReal.ofReal_text (real : regions.IsReal) : ofReal regions.text = regions := by
  obtain ⟨front, back⟩ := real.span_text
  obtain ⟨integer, fraction⟩ := takeWhile_mantissa real.mantissa
  unfold ofReal
  dsimp only
  rw [front, back, integer, fraction]

theorem hasMantissaShape_scrubbed (shape : regions.hasMantissaShape = true) :
    regions.scrubbed.hasMantissaShape = true := by
  rw [hasMantissaShape_iff] at shape ⊢
  rcases shape with ⟨absent, integer⟩ | ⟨fraction, present, integer, run⟩
  · exact Or.inl ⟨by simp [scrubbed, absent], isDigitRun_scrub integer⟩
  · refine Or.inr ⟨scrub fraction, by simp [scrubbed, present], ?_, isDigitRun_scrub run⟩
    exact integer.imp (fun empty => by simp [scrubbed, empty, scrub]) isDigitRun_scrub

theorem IsExponent.scrub
    {exponent : Text} (isExponent : IsExponent exponent) :
    IsExponent (scrub exponent) := by
  obtain ⟨marker, sign, run, marked, isSign, isRun, rfl⟩ := isExponent
  refine ⟨marker, sign, NumeralStyle.scrub run, marked, isSign, isDigitRun_scrub isRun, ?_⟩
  have unseparated : separator ∉ marker :: sign := by
    rw [List.mem_cons, not_or]
    refine ⟨?_, separator_not_mem_sign isSign⟩
    rintro rfl
    cases marked
  rw [← List.cons_append, scrub_append, scrub_eq_self unseparated, List.cons_append]

/-- Scrubbing a real leaves a real. -/
theorem IsReal.scrubbed (real : regions.IsReal) : regions.scrubbed.IsReal where
  mantissa := hasMantissaShape_scrubbed real.mantissa
  exponent :=
    real.exponent.imp (fun absent => by simp [Regions.scrubbed, absent, scrub])
      IsExponent.scrub

/-- The characters that occur in the digits of a real. -/
theorem IsReal.letters (real : regions.IsReal) :
    ∀ letter ∈ regions.text,
      isDigitOrSeparator letter = true ∨ letter ∈ ['.', 'e', 'E', '+', '-'] := by
  intro letter member
  rcases List.mem_append.1 member with front | back
  · exact (mantissa_accepted real.mantissa letter front).imp_right (by rintro rfl; decide)
  · rcases real.exponent with absent | ⟨marker, sign, run, marked, isSign, isRun, present⟩
    · simp [absent] at back
    · rw [present] at back
      simp only [List.mem_cons, List.mem_append] at back
      rcases back with rfl | inSign | inRun
      · simp only [isExponentMarker, Bool.or_eq_true, decide_eq_true_eq] at marked
        rcases marked with rfl | rfl <;> exact Or.inr (by decide)
      · rcases mem_signs_iff.1 isSign with rfl | rfl | rfl <;> simp_all
      · exact Or.inl ((isDigitRun_iff.1 isRun).2.2 letter inRun)

/-! ## Floating-point texts -/

/-- The digits of a real have no sign in front. -/
theorem IsReal.dropSign_text (real : regions.IsReal) :
    dropSign regions.text = regions.text := by
  obtain ⟨first, opening, kind⟩ := head?_mantissa real.mantissa
  have opened : regions.text.head? = some first := by
    simp [text, List.head?_append, opening]
  have unsigned : [] ∈ signs := by decide
  refine @dropSign_append [] regions.text unsigned ?_
  rw [opened]
  constructor <;> rintro ⟨⟩ <;> rcases kind with digit | point
  · cases digit
  · cases point
  · cases digit
  · cases point

theorem IsReal.isFloatDigits
    (real : regions.IsReal) (unseparated : separator ∉ regions.text) :
    RealType.isFloatDigits regions = true := by
  have digits : ∀ run : Text, (∀ letter ∈ run, isDigitOrSeparator letter = true) →
      separator ∉ run → run.all Char.isDigit = true := by
    intro run accepted absent
    rw [List.all_eq_true]
    intro letter member
    exact isDigit_of_isDigitOrSeparator (accepted letter member) fun same => absent (same ▸ member)
  simp only [text, List.mem_append, not_or] at unseparated
  obtain ⟨inMantissa, inExponent⟩ := unseparated
  unfold RealType.isFloatDigits
  refine Bool.and_eq_true_iff.2 ⟨?_, ?_⟩
  · have integer := integer_accepted real.mantissa
    unfold Regions.mantissa at inMantissa
    rcases hasMantissaShape_iff.1 real.mantissa with ⟨absent, isRun⟩ | ⟨fraction, present, _, isRun⟩
    · rw [absent] at inMantissa ⊢
      simp [digits _ integer inMantissa, ne_nil_of_isDigitRun isRun]
    · rw [present] at inMantissa ⊢
      simp only [List.mem_append, List.mem_cons, not_or] at inMantissa
      simp [digits _ integer inMantissa.1, digits _ (isDigitRun_iff.1 isRun).2.2 inMantissa.2.2,
        ne_nil_of_isDigitRun isRun]
  · rcases real.exponent with absent | ⟨marker, sign, run, _, isSign, isRun, present⟩
    · rw [absent]
    · rw [present, List.mem_cons, List.mem_append, not_or, not_or] at inExponent
      rw [present]
      simp [dropSign_append_of_isDigitRun isSign isRun, ne_nil_of_isDigitRun isRun,
        digits run (isDigitRun_iff.1 isRun).2.2 inExponent.2.2]

/-- Digits of a real without separators are a floating-point text. -/
theorem IsReal.isFloatText
    (real : regions.IsReal) (unseparated : separator ∉ regions.text) :
    RealType.isFloatText regions.text = true := by
  unfold RealType.isFloatText
  dsimp only
  rw [real.dropSign_text, real.ofReal_text, real.isFloatDigits unseparated, Bool.or_true]

/-- So are the digits of a real once they are scrubbed. -/
theorem isFloatText_scrub {digits : Text} (real : (ofReal digits).IsReal) :
    RealType.isFloatText (scrub digits) = true := by
  have scrubbed := real.scrubbed
  rw [← ofReal_scrub] at scrubbed
  have text := scrubbed.isFloatText
  rw [text_ofReal] at text
  exact text (separator_not_mem_scrub digits)

end Regions

/-- The two binary types accept all digits of reals. -/
theorem RealType.accepts_scrub
    {digits : Text} (real : (Regions.ofReal digits).IsReal) {type : RealType}
    (binary : type ≠ .decimal) :
    type.accepts (scrub digits) = true := by
  cases type with
  | single => exact Regions.isFloatText_scrub real
  | double => exact Regions.isFloatText_scrub real
  | decimal => exact absurd rfl binary

end NumeralStyle
