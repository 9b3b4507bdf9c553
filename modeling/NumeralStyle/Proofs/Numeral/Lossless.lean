import NumeralStyle.Proofs.Numeral.Located

/-!
# Lossless reading

A numeral that is read is the trimmed text, taken apart: nothing is lost, the parts meet
at boundaries of characters, and separators stand among the digits only, never at their
end.  The main statement says all of this for every text, numeral or not, along with the
fact that taking it apart by byte offsets never misses.
-/

namespace NumeralStyle

open Text

/-- The range of bytes that is kept gives each part of the numeral, and none of the cuts
can miss. -/
structure Located.Locates (located : Located) (numeral : Numeral) : Prop where
  text : located.text = numeral.text
  /-- The parts are displayed as they were written, one after the other. -/
  display : located.display = numeral.mark ++ numeral.digits ++ numeral.suffix
  base : located.base = numeral.base
  isInteger : located.isInteger = numeral.isInteger
  scrubbed : located.scrubbed = numeral.scrubbedDigits
  ordered : located.start ≤ located.stop ∧ located.stop ≤ byteLength located.text
  startBoundary : IsBoundary located.text located.start
  stopBoundary : IsBoundary located.text located.stop
  mark : located.mark = .ok numeral.mark
  digits : located.digits = .ok numeral.digits
  suffix : located.suffix = .ok numeral.suffix
  hasSeparators : located.hasSeparators = numeral.hasSeparators
  /-- The offsets count characters as well as bytes. -/
  start : located.start = numeral.mark.length
  stop : located.stop = numeral.mark.length + numeral.digits.length

/-- What a numeral owes to the trimmed text from which it was read. -/
structure Numeral.Lossless (numeral : Numeral) (trimmed : Text) : Prop where
  text : numeral.text = trimmed
  parts : numeral.mark ++ numeral.digits ++ numeral.suffix = trimmed
  ascii : ∀ letter ∈ trimmed, letter.toNat < 128
  byteLength : byteLength trimmed = trimmed.length
  scrubbedDigits : numeral.scrubbedDigits = numeral.digits.filter (· ≠ '_')
  nonempty : numeral.scrubbedDigits ≠ []
  opened : trimmed.head? ≠ some '_'
  closed : numeral.digits.getLast? ≠ some '_'
  openedUnmarked : numeral.mark = [] → numeral.digits.head? ≠ some '_'
  hasSeparators : numeral.hasSeparators = true ↔ '_' ∈ trimmed
  base : numeral.base = .decimal ↔ numeral.mark = []
  integerDigits : numeral.isInteger = true →
    ∀ letter ∈ numeral.scrubbedDigits, numeral.base.isDigit letter = true

variable {numeral : Numeral}

namespace Numeral

/-! ## Separators inside the digits -/

theorem WellFormed.getLast?_digits_ne_separator (form : numeral.WellFormed) :
    numeral.digits.getLast? ≠ some separator := by
  rcases form with integer | ⟨real, -⟩
  · exact integer.digits.closed
  · obtain ⟨last, closing, digit⟩ := real.digits.getLast?_text
    rw [Regions.text_ofReal] at closing
    rw [closing, ne_eq, Option.some.injEq]
    exact ne_separator_of_isDigit digit

theorem RealForm.head?_digits_ne_separator (form : numeral.RealForm) :
    numeral.digits.head? ≠ some separator := by
  obtain ⟨first, opening, kind⟩ := Regions.head?_mantissa form.digits.mantissa
  have opened : numeral.digits.head? = some first := by
    rw [← Regions.text_ofReal numeral.digits, Regions.text, List.head?_append, opening,
      Option.some_or]
  rw [opened, ne_eq, Option.some.injEq]
  rcases kind with digit | rfl
  · exact ne_separator_of_isDigit digit
  · decide

theorem WellFormed.head?_digits_ne_separator
    (form : numeral.WellFormed) (unmarked : numeral.mark = []) :
    numeral.digits.head? ≠ some separator := by
  rcases form with integer | ⟨real, -⟩
  · exact integer.digits.opened (integer.base_eq_decimal_iff.2 unmarked)
  · exact real.head?_digits_ne_separator

theorem WellFormed.head?_text_ne_separator (form : numeral.WellFormed) :
    numeral.text.head? ≠ some separator := by
  rw [Numeral.text, List.append_assoc]
  by_cases unmarked : numeral.mark = []
  · rw [unmarked, List.nil_append, List.head?_append_of_ne_nil _ form.digits_ne_nil]
    exact form.head?_digits_ne_separator unmarked
  · rw [List.head?_append_of_ne_nil _ unmarked]
    intro first
    exact form.separator_not_mem_mark (List.mem_of_mem_head? first)

theorem WellFormed.scrubbedDigits_ne_nil (form : numeral.WellFormed) :
    numeral.scrubbedDigits ≠ [] :=
  scrub_ne_nil form.digits_ne_nil form.getLast?_digits_ne_separator

theorem WellFormed.isDigit_of_mem_scrubbedDigits
    (form : numeral.WellFormed) (isInteger : numeral.isInteger = true) :
    ∀ letter ∈ numeral.scrubbedDigits, numeral.base.isDigit letter = true := by
  rcases form with integer | ⟨real, -⟩
  · intro letter member
    obtain ⟨inDigits, different⟩ := List.mem_filter.1 member
    have accepted := integer.digits.accepted letter inDigits
    rw [isIntegerDigit, Bool.or_eq_true, decide_eq_true_eq] at accepted
    exact accepted.resolve_left (of_decide_eq_true different)
  · rw [real.isInteger] at isInteger
    cases isInteger

/-! ## Numerals are written in ASCII -/

theorem WellFormed.toNat_lt (form : numeral.WellFormed) :
    ∀ letter ∈ numeral.text, letter.toNat < 128 :=
  fun letter member => toNat_lt_of_isNumeralLetter (form.isNumeralLetter letter member)

theorem WellFormed.byteLength_mark (form : numeral.WellFormed) :
    Text.byteLength numeral.mark = numeral.mark.length := by
  apply byteLength_eq_length
  intro letter member
  exact form.toNat_lt letter (List.mem_append_left _ (List.mem_append_left _ member))

theorem WellFormed.byteLength_digits (form : numeral.WellFormed) :
    Text.byteLength numeral.digits = numeral.digits.length := by
  apply byteLength_eq_length
  intro letter member
  exact form.toNat_lt letter (List.mem_append_left _ (List.mem_append_right _ member))

theorem WellFormed.byteLength_scrubbedDigits (form : numeral.WellFormed) :
    Text.byteLength numeral.scrubbedDigits = numeral.scrubbedDigits.length := by
  apply byteLength_eq_length
  intro letter member
  exact form.toNat_lt letter
    (List.mem_append_left _ (List.mem_append_right _ (List.mem_of_mem_filter member)))

theorem WellFormed.lossless (form : numeral.WellFormed) : numeral.Lossless numeral.text where
  text := rfl
  parts := rfl
  ascii := form.toNat_lt
  byteLength := byteLength_eq_length form.toNat_lt
  scrubbedDigits := rfl
  nonempty := form.scrubbedDigits_ne_nil
  opened := form.head?_text_ne_separator
  closed := form.getLast?_digits_ne_separator
  openedUnmarked := form.head?_digits_ne_separator
  hasSeparators := form.hasSeparators_iff
  base := form.base_eq_decimal_iff
  integerDigits := form.isDigit_of_mem_scrubbedDigits

end Numeral

namespace Located

/-! ## The parts by their range -/

theorem mark_located (numeral : Numeral) : numeral.located.mark = .ok numeral.mark := by
  have sliced := slice_append [] numeral.mark (numeral.digits ++ numeral.suffix)
  rwa [List.nil_append, byteLength_nil, Nat.zero_add, ← List.append_assoc] at sliced

theorem digits_located (numeral : Numeral) : numeral.located.digits = .ok numeral.digits :=
  slice_append numeral.mark numeral.digits numeral.suffix

theorem suffix_located (numeral : Numeral) : numeral.located.suffix = .ok numeral.suffix := by
  have sliced := slice_append (numeral.mark ++ numeral.digits) numeral.suffix []
  rw [List.append_nil, byteLength_append] at sliced
  rw [suffix, Numeral.located_text, Numeral.located_stop, Numeral.text, byteLength_append,
    byteLength_append, sliced]

/-- Scrubbing shortens the digits exactly when there is a separator among them. -/
theorem hasSeparators_located (form : numeral.WellFormed) :
    numeral.located.hasSeparators = numeral.hasSeparators := by
  rw [Bool.eq_iff_iff, hasSeparators, Numeral.hasSeparators, Numeral.located_start,
    Numeral.located_stop, Numeral.located_scrubbed, Nat.add_sub_cancel_left,
    form.byteLength_digits, form.byteLength_scrubbedDigits, decide_eq_true_eq,
    List.contains_iff_mem, Numeral.scrubbedDigits, scrub, ne_eq,
    List.length_filter_eq_length_iff]
  constructor
  · intro shorter
    by_contra absent
    apply shorter
    intro letter member
    exact decide_eq_true fun same => absent (same ▸ member)
  · intro member all
    exact of_decide_eq_true (all separator member) rfl

theorem locates_located (form : numeral.WellFormed) : numeral.located.Locates numeral where
  text := rfl
  display := rfl
  base := rfl
  isInteger := rfl
  scrubbed := rfl
  ordered := by
    refine ⟨Nat.le_add_right _ _, ?_⟩
    rw [Numeral.located_text, Numeral.located_stop, Numeral.text, byteLength_append,
      byteLength_append]
    exact Nat.le_add_right _ _
  startBoundary := (exists_slice_iff.1 ⟨_, digits_located numeral⟩).1
  stopBoundary := (exists_slice_iff.1 ⟨_, digits_located numeral⟩).2.1
  mark := mark_located numeral
  digits := digits_located numeral
  suffix := suffix_located numeral
  hasSeparators := hasSeparators_located form
  start := form.byteLength_mark
  stop := by
    rw [Numeral.located_stop, form.byteLength_mark, form.byteLength_digits]

/-- Reading by byte offsets misses on no text.  It finds a numeral exactly when reading the
characters does, which are then the same numeral, and the numeral is the trimmed text taken
apart without loss. -/
theorem read?_lossless (text : Text) :
    ∃ found, read? text = .ok found ∧
      Option.Rel (fun located numeral => located.Locates numeral ∧ numeral.Lossless (trim text))
        found (Numeral.parse? text) := by
  refine ⟨_, read?_eq text, ?_⟩
  cases reading : Numeral.parse? text with
  | none => exact .none
  | some numeral =>
      obtain ⟨form, spelled⟩ := Numeral.parse?_eq_some_iff.1 reading
      refine .some ⟨locates_located form, ?_⟩
      rw [← spelled]
      exact form.lossless

end Located

end NumeralStyle
