import NumeralStyle.Proofs.Numeral.Regrouping

/-!
# Spellings of one numeral

Texts that become equal when every separator is deleted are spellings of one numeral.
Groups of size zero delete the separators, and a regrouped numeral is well-formed.  So
two spellings regroup to one text, and since a text belongs to one numeral they have
all parts in common that do not depend on separators.
-/

namespace NumeralStyle

namespace Numeral

variable {numeral other : Numeral}

/-! ## Groups of size zero -/

theorem digits_regroup_zero (numeral : Numeral) :
    (numeral.regroup 0).digits = numeral.scrubbedDigits := by
  unfold regroup
  rw [Regions.grouped_zero]
  exact numeral.regions_text

/-! ## Separators stand among the digits only -/

theorem WellFormed.separator_not_mem_mark (form : numeral.WellFormed) :
    separator ∉ numeral.mark := by
  rcases form with integer | ⟨real, _⟩
  · have all : (numeral.base.marks.all fun mark => mark.all (· ≠ separator)) = true := by
      cases numeral.base <;> rfl
    intro member
    have different := List.all_eq_true.1 (List.all_eq_true.1 all _ integer.mark) _ member
    exact of_decide_eq_true different rfl
  · rw [real.mark]
    exact List.not_mem_nil

theorem WellFormed.separator_not_mem_suffix (form : numeral.WellFormed) :
    separator ∉ numeral.suffix := by
  intro member
  rcases form with integer | ⟨real, _⟩
  · have markers := marker_of_mem_integerSuffix integer.suffix member
    revert markers
    decide
  · have markers := real.mem_suffix separator member
    revert markers
    decide

/-- A numeral has separators when its text has some. -/
theorem WellFormed.hasSeparators_iff (form : numeral.WellFormed) :
    numeral.hasSeparators = true ↔ separator ∈ numeral.text := by
  simp only [hasSeparators, List.contains_iff_mem, Numeral.text, List.mem_append,
    form.separator_not_mem_mark, form.separator_not_mem_suffix, false_or, or_false]

theorem WellFormed.scrub_text (form : numeral.WellFormed) :
    scrub numeral.text = numeral.mark ++ numeral.scrubbedDigits ++ numeral.suffix := by
  unfold Numeral.text
  rw [scrub_append, scrub_append, scrub_eq_self form.separator_not_mem_mark,
    scrub_eq_self form.separator_not_mem_suffix]
  rfl

theorem WellFormed.text_regroup_zero (form : numeral.WellFormed) :
    (numeral.regroup 0).text = scrub numeral.text := by
  rw [form.scrub_text, ← digits_regroup_zero]
  rfl

/-! ## Spellings -/

/-- The text is trimmed and read as a numeral, and nothing but separators tells it from
the text of the given numeral. -/
structure IsSpelling (numeral : Numeral) (text : Text) : Prop where
  trimmed : Text.trim text = text
  accepted : (parse? text).isSome = true
  scrubbed : scrub text = scrub numeral.text

theorem WellFormed.sameParts_of_scrub_text
    (form : numeral.WellFormed) (otherForm : other.WellFormed)
    (scrubbed : scrub numeral.text = scrub other.text) :
    numeral.SameParts other := by
  -- Without groups both numerals are spelled by the scrubbed text, which has one reading.
  have sameText : (numeral.regroup 0).text = (other.regroup 0).text := by
    rw [form.text_regroup_zero, otherForm.text_regroup_zero, scrubbed]
  have sameNumeral : numeral.regroup 0 = other.regroup 0 :=
    (form.regroup 0).unique (otherForm.regroup 0) sameText
  have left := (sameParts_regroup numeral 0).symm
  rw [sameNumeral] at left
  exact left.trans (sameParts_regroup other 0)

/-- The spellings of a numeral are the texts of the well-formed numerals with its parts. -/
theorem WellFormed.isSpelling_iff (form : numeral.WellFormed) {text : Text} :
    numeral.IsSpelling text ↔
      ∃ other : Numeral, other.WellFormed ∧ other.SameParts numeral ∧ other.text = text := by
  constructor
  · intro spelling
    obtain ⟨other, reading⟩ := Option.isSome_iff_exists.1 spelling.accepted
    obtain ⟨otherForm, sameText⟩ := parse?_eq_some_iff.1 reading
    rw [spelling.trimmed] at sameText
    refine ⟨other, otherForm, ?_, sameText⟩
    apply otherForm.sameParts_of_scrub_text form
    rw [sameText, spelling.scrubbed]
  · intro spelled
    obtain ⟨other, otherForm, same, rfl⟩ := spelled
    refine ⟨otherForm.trim_text, ?_, ?_⟩
    · rw [otherForm.parse?_text]
      rfl
    · rw [otherForm.scrub_text, form.scrub_text, same.mark, same.scrubbedDigits, same.suffix]

theorem WellFormed.isSpelling_grouped (form : numeral.WellFormed) (groupSize : Nat) :
    numeral.IsSpelling (numeral.grouped groupSize) :=
  form.isSpelling_iff.2
    ⟨numeral.regroup groupSize, form.regroup groupSize, sameParts_regroup numeral groupSize,
      numeral.text_regroup groupSize⟩

end Numeral

end NumeralStyle
