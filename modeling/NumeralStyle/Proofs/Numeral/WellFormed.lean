import NumeralStyle.Proofs.Numeral.Form

/-!
# Well-formed numerals

A numeral is well-formed when it has an integer form, or a real form that no integer
has as well.  The four ways of reading are tried in order, but on well-formed
numerals the order has nothing to decide: the second character tells the bases
apart, and a decimal integer shares its text with no real that has a point, an
exponent or a marker.  The main statement says that reading finds exactly the
well-formed numeral that spells the trimmed text.
-/

namespace NumeralStyle.Numeral

/-- The characters in the text of a real that are neither digits nor separators. -/
def realLetters : List Char :=
  ['.', 'e', 'E', '+', '-', 'F', 'f', 'D', 'd', 'M', 'm']

/-- Digits that are a run by themselves and nothing else. -/
def IsBare (numeral : Numeral) : Prop :=
  numeral.suffix = [] ∧ isDigitRun numeral.digits = true

/-- A numeral is an integer, or a real that does not look like one. -/
def WellFormed (numeral : Numeral) : Prop :=
  numeral.IntegerForm ∨ (numeral.RealForm ∧ ¬ numeral.IsBare)

variable {numeral other : Numeral}

/-! ## Characters of well-formed numerals -/

theorem isNumeralLetter_of_mem_mark
    {base : Base} {mark : Text} (isMark : mark ∈ base.marks) :
    ∀ letter ∈ mark, isNumeralLetter letter = true := by
  have all : (base.marks.all fun mark => mark.all isNumeralLetter) = true := by
    cases base <;> rfl
  exact List.all_eq_true.1 (List.all_eq_true.1 all mark isMark)

theorem IntegerForm.isNumeralLetter (form : numeral.IntegerForm) :
    ∀ letter ∈ numeral.text, isNumeralLetter letter = true := by
  intro letter member
  simp only [Numeral.text, List.mem_append] at member
  rcases member with (inMark | inDigits) | inSuffix
  · exact isNumeralLetter_of_mem_mark form.mark letter inMark
  · exact isNumeralLetter_of_isIntegerDigit (form.digits.accepted letter inDigits)
  · rcases marker_of_mem_integerSuffix form.suffix inSuffix with rfl | rfl | rfl | rfl <;> decide

theorem RealForm.mem_suffix (form : numeral.RealForm) :
    ∀ letter ∈ numeral.suffix, letter ∈ ['F', 'f', 'D', 'd', 'M', 'm'] := by
  obtain ⟨type, marked, _⟩ := form.suffix
  generalize numeral.suffix = suffix at marked
  intro letter member
  unfold realType? at marked
  split at marked
  · cases member
  · rw [List.mem_singleton] at member
    exact member ▸ marker_of_ofMarker? marked
  · cases marked

/-- The characters of a real and its marker. -/
theorem letters_of_isReal
    {digits suffix : Text} (real : (Regions.ofReal digits).IsReal)
    (markers : ∀ letter ∈ suffix, letter ∈ ['F', 'f', 'D', 'd', 'M', 'm']) :
    ∀ letter ∈ digits ++ suffix, isDigitOrSeparator letter = true ∨ letter ∈ realLetters := by
  have inDigits := real.letters
  rw [Regions.text_ofReal] at inDigits
  intro letter member
  rcases List.mem_append.1 member with isDigit | isMarker
  · exact (inDigits letter isDigit).imp_right fun other => List.mem_append_left _ other
  · exact Or.inr (List.mem_append_right ['.', 'e', 'E', '+', '-'] (markers letter isMarker))

theorem isNumeralLetter_of_realLetter
    {letter : Char} (kind : isDigitOrSeparator letter = true ∨ letter ∈ realLetters) :
    NumeralStyle.isNumeralLetter letter = true := by
  rcases kind with accepted | listed
  · rw [← isIntegerDigit_decimal] at accepted
    exact isNumeralLetter_of_isIntegerDigit accepted
  · have all : realLetters.all NumeralStyle.isNumeralLetter = true := rfl
    exact List.all_eq_true.1 all letter listed

theorem RealForm.letters (form : numeral.RealForm) :
    ∀ letter ∈ numeral.text, isDigitOrSeparator letter = true ∨ letter ∈ realLetters := by
  have letters := letters_of_isReal form.digits form.mem_suffix
  unfold Numeral.text
  rwa [form.mark, List.nil_append]

theorem RealForm.isNumeralLetter (form : numeral.RealForm) :
    ∀ letter ∈ numeral.text, isNumeralLetter letter = true :=
  fun letter member => isNumeralLetter_of_realLetter (form.letters letter member)

theorem WellFormed.isNumeralLetter (form : numeral.WellFormed) :
    ∀ letter ∈ numeral.text, isNumeralLetter letter = true :=
  form.elim IntegerForm.isNumeralLetter fun real => real.1.isNumeralLetter

/-- No blank is a letter of numerals. -/
theorem trim_eq_self_of_isNumeralLetter
    {text : Text} (letters : ∀ letter ∈ text, NumeralStyle.isNumeralLetter letter = true) :
    Text.trim text = text := by
  apply Text.trim_eq_self
  · intro letter first
    exact isBlank_of_isNumeralLetter (letters letter (List.mem_of_mem_head? first))
  · intro letter last
    exact isBlank_of_isNumeralLetter (letters letter (List.mem_of_getLast? last))

theorem WellFormed.trim_text (form : numeral.WellFormed) :
    Text.trim numeral.text = numeral.text :=
  trim_eq_self_of_isNumeralLetter form.isNumeralLetter

theorem WellFormed.digits_ne_nil (form : numeral.WellFormed) : numeral.digits ≠ [] := by
  rcases form with integer | ⟨real, _⟩
  · exact integer.digits.nonempty
  · obtain ⟨last, closing, _⟩ := real.digits.getLast?_text
    intro empty
    rw [Regions.text_ofReal, empty] at closing
    cases closing

theorem WellFormed.text_ne_nil (form : numeral.WellFormed) : numeral.text ≠ [] := by
  intro empty
  simp only [Numeral.text, List.append_eq_nil_iff] at empty
  exact form.digits_ne_nil empty.1.2

theorem WellFormed.base_eq_decimal_iff (form : numeral.WellFormed) :
    numeral.base = .decimal ↔ numeral.mark = [] := by
  cases form with
  | inl integer => exact integer.base_eq_decimal_iff
  | inr real => exact iff_of_true real.1.base real.1.mark

/-! ## A text belongs to one base -/

/-- The letter of the mark that stands second in a text, in lower case. -/
def secondMarker? (text : Text) : Option Char :=
  (text[1]?.map Char.toLower).filter fun letter => letter = 'x' || letter = 'b'

theorem secondMarker?_eq_none
    {text : Text}
    (unmarked : ∀ letter ∈ text, letter ∉ ['x', 'X', 'b', 'B']) :
    secondMarker? text = none := by
  rw [secondMarker?, Option.filter_eq_none_iff]
  intro lower found
  obtain ⟨letter, second, rfl⟩ := Option.map_eq_some_iff.1 found
  have absent := unmarked letter (List.mem_of_getElem? second)
  simp only [List.mem_cons, List.not_mem_nil, or_false, not_or] at absent
  simp [toLower_eq_x_iff, toLower_eq_b_iff, absent]

theorem not_mem_marker_of_isDigitOrSeparator
    {letter : Char} (accepted : isDigitOrSeparator letter = true) :
    letter ∉ ['x', 'X', 'b', 'B'] := by
  intro member
  simp only [List.mem_cons, List.not_mem_nil, or_false] at member
  rcases member with rfl | rfl | rfl | rfl <;> cases accepted

theorem IntegerForm.secondMarker?_text (form : numeral.IntegerForm) :
    secondMarker? numeral.text = numeral.base.marker? := by
  rcases Base.mem_marks_iff.1 form.mark with ⟨unmarked, empty⟩ | ⟨letter, marked, shape⟩
  · rw [unmarked]
    apply secondMarker?_eq_none
    intro letter member
    rw [Numeral.text, empty, List.nil_append, List.mem_append] at member
    rcases member with inDigits | inSuffix
    · have decimal : numeral.base = .decimal := Base.eq_decimal_of_marker? unmarked
      have accepted := form.digits.accepted letter inDigits
      rw [decimal, isIntegerDigit_decimal] at accepted
      exact not_mem_marker_of_isDigitOrSeparator accepted
    · rcases marker_of_mem_integerSuffix form.suffix inSuffix with rfl | rfl | rfl | rfl <;>
        decide
  · have lower : letter.toLower = 'x' ∨ letter.toLower = 'b' := by
      cases base : numeral.base <;> simp [base, Base.marker?] at marked <;> simp [← marked]
    rw [marked]
    unfold Numeral.text secondMarker?
    rw [shape]
    rcases lower with isX | isB
    · simp [isX]
    · simp [isB]

theorem RealForm.secondMarker?_text (form : numeral.RealForm) :
    secondMarker? numeral.text = none := by
  apply secondMarker?_eq_none
  intro letter member
  rcases form.letters letter member with accepted | listed
  · exact not_mem_marker_of_isDigitOrSeparator accepted
  · have all : (realLetters.all fun letter => letter ∉ ['x', 'X', 'b', 'B']) = true := rfl
    exact of_decide_eq_true (List.all_eq_true.1 all letter listed)

/-! ## A text is spelled by one numeral -/

theorem base_eq_of_marker?_eq {left right : Base} (same : left.marker? = right.marker?) :
    left = right := by
  cases left <;> cases right <;> first | rfl | cases same

theorem IntegerForm.unique
    (form : numeral.IntegerForm) (otherForm : other.IntegerForm)
    (sameText : numeral.text = other.text) :
    numeral = other := by
  have sameBase : numeral.base = other.base := by
    apply base_eq_of_marker?_eq
    rw [← form.secondMarker?_text, ← otherForm.secondMarker?_text, sameText]
  have reading := integer?_eq_some_iff.2 ⟨form, sameBase, sameText⟩
  have otherReading := integer?_eq_some_iff.2 ⟨otherForm, rfl, rfl⟩
  exact Option.some.inj (reading.symm.trans otherReading)

/-- Only a real without point, exponent and marker shares its text with an integer,
which is then decimal and has the same digits. -/
theorem IntegerForm.same_digits_of_real
    (form : numeral.IntegerForm) (real : other.RealForm)
    (sameText : numeral.text = other.text) :
    numeral.base = .decimal ∧ numeral.mark = [] ∧ numeral.digits = other.digits ∧
      numeral.suffix = [] ∧ other.suffix = [] := by
  have decimal : numeral.base = .decimal := by
    apply Base.eq_decimal_of_marker?
    rw [← form.secondMarker?_text, sameText, real.secondMarker?_text]
  have unmarked : numeral.mark = [] := by simpa [decimal, Base.marks] using form.mark
  have whole : numeral.digits ++ numeral.suffix = other.digits ++ other.suffix := by
    simpa [Numeral.text, unmarked, real.mark] using sameText
  -- Both splits are at the end of the digits and separators.
  have accepted : ∀ letter ∈ numeral.digits, isDigitOrSeparator letter = true := by
    have integerDigits := form.digits.accepted
    rw [decimal] at integerDigits
    intro letter member
    rw [← isIntegerDigit_decimal]
    exact integerDigits letter member
  have notSuffix : ∀ letter ∈ numeral.suffix, isDigitOrSeparator letter = false := by
    intro letter member
    rw [← isIntegerDigit_decimal]
    exact isIntegerDigit_of_mem_integerSuffix .decimal form.suffix member
  have otherNotSuffix : ∀ letter ∈ other.suffix, isDigitOrSeparator letter = false := by
    have all : (['F', 'f', 'D', 'd', 'M', 'm'].all fun letter => !isDigitOrSeparator letter) =
        true := rfl
    intro letter member
    simpa using List.all_eq_true.1 all letter (real.mem_suffix letter member)
  have otherAccepted : ∀ letter ∈ other.digits, isDigitOrSeparator letter = true := by
    have letters := real.digits.letters
    rw [Regions.text_ofReal] at letters
    intro letter member
    have inText : letter ∈ numeral.digits ++ numeral.suffix := by
      rw [whole]
      exact List.mem_append_left _ member
    rcases List.mem_append.1 inText with inDigits | inSuffix
    · exact accepted letter inDigits
    · rcases letters letter member with digit | listed
      · exact digit
      · rcases marker_of_mem_integerSuffix form.suffix inSuffix with rfl | rfl | rfl | rfl <;>
          exact absurd listed (by decide)
  obtain ⟨digitsSpan, suffixSpan⟩ := span_append isDigitOrSeparator accepted
    fun letter first => notSuffix letter (List.mem_of_mem_head? first)
  obtain ⟨otherDigitsSpan, otherSuffixSpan⟩ := span_append isDigitOrSeparator otherAccepted
    fun letter first => otherNotSuffix letter (List.mem_of_mem_head? first)
  have sameDigits : numeral.digits = other.digits := by
    rw [← digitsSpan, whole, otherDigitsSpan]
  have sameSuffix : numeral.suffix = other.suffix := by
    rw [← suffixSpan, whole, otherSuffixSpan]
  have empty : numeral.suffix = [] := by
    apply List.eq_nil_iff_forall_not_mem.2
    intro letter member
    have listed := real.mem_suffix letter (sameSuffix ▸ member)
    rcases marker_of_mem_integerSuffix form.suffix member with rfl | rfl | rfl | rfl <;>
      exact absurd listed (by decide)
  exact ⟨decimal, unmarked, sameDigits, empty, sameSuffix ▸ empty⟩

theorem IntegerForm.isBare_of_real
    (form : numeral.IntegerForm) (real : other.RealForm)
    (sameText : numeral.text = other.text) :
    other.IsBare := by
  obtain ⟨decimal, _, sameDigits, _, empty⟩ := form.same_digits_of_real real sameText
  refine ⟨empty, ?_⟩
  have digits := form.digits
  rw [decimal, isIntegerDigits_decimal_iff, sameDigits] at digits
  exact digits

/-- A real that looks like an integer has the text of one. -/
theorem RealForm.exists_integer_of_isBare
    (real : numeral.RealForm) (bare : numeral.IsBare) :
    ∃ integer : Numeral, integer.IntegerForm ∧ integer.text = numeral.text := by
  refine ⟨⟨.decimal, [], numeral.digits, [], true⟩, ⟨rfl, ?_, ?_, rfl⟩, ?_⟩
  · exact List.mem_singleton.2 rfl
  · exact isIntegerDigits_decimal_iff.2 bare.2
  · simp [Numeral.text, real.mark, bare.1]

theorem findSome?_integer?_eq_some
    {text : Text}
    (found : (Base.all.findSome? fun base => integer? base text) = some numeral) :
    numeral.IntegerForm ∧ numeral.text = text := by
  obtain ⟨base, _, reading⟩ := List.exists_of_findSome?_eq_some found
  obtain ⟨form, _, spelled⟩ := integer?_eq_some_iff.1 reading
  exact ⟨form, spelled⟩

theorem IntegerForm.findSome?_integer? (form : numeral.IntegerForm) :
    (Base.all.findSome? fun base => integer? base numeral.text) = some numeral := by
  have reading := integer?_eq_some_iff.2 ⟨form, rfl, rfl⟩
  cases found : Base.all.findSome? fun base => integer? base numeral.text with
  | none =>
      have absent := List.findSome?_eq_none_iff.1 found numeral.base (Base.mem_all _)
      rw [absent] at reading
      cases reading
  | some other =>
      obtain ⟨otherForm, sameText⟩ := findSome?_integer?_eq_some found
      exact congrArg some (otherForm.unique form sameText)

theorem parse?_eq_some_of_text_eq_trim
    {text : Text} (form : numeral.WellFormed) (spelled : numeral.text = Text.trim text) :
    parse? text = some numeral := by
  have nonempty := form.text_ne_nil
  unfold parse? read
  dsimp only
  rw [← spelled, if_neg nonempty]
  rcases form with integer | ⟨real, notBare⟩
  · rw [integer.findSome?_integer?]
    rfl
  · have absent : (Base.all.findSome? fun base => integer? base numeral.text) = none := by
      cases found : Base.all.findSome? fun base => integer? base numeral.text with
      | none => rfl
      | some other =>
          obtain ⟨integer, sameText⟩ := findSome?_integer?_eq_some found
          exact absurd (integer.isBare_of_real real sameText) notBare
    rw [absent, real_eq_ok_iff.2 ⟨real, rfl⟩]
    rfl

theorem wellFormed_of_parse?
    {text : Text} (reading : parse? text = some numeral) :
    numeral.WellFormed := by
  unfold parse? read at reading
  dsimp only at reading
  split at reading
  · cases reading
  · split at reading
    · rename_i found
      cases reading
      exact Or.inl (findSome?_integer?_eq_some found).1
    · rename_i absent
      cases result : real (Text.trim text) with
      | error rejection =>
          rw [result] at reading
          cases reading
      | ok other =>
          rw [result] at reading
          cases reading
          obtain ⟨form, spelled⟩ := real_eq_ok_iff.1 result
          refine Or.inr ⟨form, fun bare => ?_⟩
          obtain ⟨integer, integerForm, sameText⟩ := form.exists_integer_of_isBare bare
          have found := integerForm.findSome?_integer?
          rw [sameText, spelled, absent] at found
          cases found

/-- Reading finds exactly the well-formed numeral that spells the trimmed text. -/
theorem parse?_eq_some_iff {text : Text} :
    parse? text = some numeral ↔ numeral.WellFormed ∧ numeral.text = Text.trim text := by
  constructor
  · intro reading
    refine ⟨wellFormed_of_parse? reading, ?_⟩
    unfold parse? at reading
    cases result : read text with
    | error rejection =>
        rw [result] at reading
        cases reading
    | ok other =>
        rw [result] at reading
        cases reading
        exact text_of_read result
  · intro found
    exact parse?_eq_some_of_text_eq_trim found.1 found.2

/-- A well-formed numeral is read back from its own text. -/
theorem WellFormed.parse?_text (form : numeral.WellFormed) :
    parse? numeral.text = some numeral :=
  parse?_eq_some_iff.2 ⟨form, form.trim_text.symm⟩

/-- Well-formed numerals with the same text are equal. -/
theorem WellFormed.unique
    (form : numeral.WellFormed) (otherForm : other.WellFormed)
    (sameText : numeral.text = other.text) :
    numeral = other := by
  have reading := form.parse?_text
  rw [sameText, otherForm.parse?_text] at reading
  exact (Option.some.inj reading).symm

end NumeralStyle.Numeral
