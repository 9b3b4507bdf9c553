import NumeralStyle.Proofs.Check.Canonical
import NumeralStyle.Proofs.Numeral.LetterCase

/-!
# Checks without regard to case

A check compares a numeral with its grouped text.  Grouping moves separators only, so
that the two texts differ in lower case as soon as they differ.  The main statement says
that texts which differ in the case of letters are numerals or not alike, that these agree
in everything that has no case, and that every check suggests for both or for none, with
replacements that differ in case alone.
-/

namespace NumeralStyle

open Text

/-- The suggestion with its letters in lower case. -/
def Suggestion.lower (suggestion : Suggestion) : Suggestion :=
  { suggestion with
    written := Text.lower suggestion.written
    replacement := Text.lower suggestion.replacement }

/-- What numerals have in common that differ in the case of letters. -/
structure Numeral.SameUpToCase (numeral other : Numeral) : Prop where
  base : numeral.base = other.base
  isInteger : numeral.isInteger = other.isInteger
  mark : numeral.mark.length = other.mark.length
  digits : numeral.digits.length = other.digits.length
  suffix : numeral.suffix.length = other.suffix.length
  hasSeparators : numeral.hasSeparators = other.hasSeparators
  size : numeral.size = other.size
  grouped : ∀ groupSize, (numeral.grouped groupSize).IsCaseVariant (other.grouped groupSize)

variable {check : Check} {numeral other : Numeral}

theorem Numeral.sameUpToCase_of_lower_eq (same : numeral.lower = other.lower) :
    numeral.SameUpToCase other where
  base := by
    rw [← numeral.base_lower, ← other.base_lower, same]
  isInteger := by
    rw [← numeral.isInteger_lower, ← other.isInteger_lower, same]
  mark := by
    rw [← length_lower numeral.mark, ← length_lower other.mark]
    exact congrArg (fun lowered => lowered.mark.length) same
  digits := by
    rw [← length_lower numeral.digits, ← length_lower other.digits]
    exact congrArg (fun lowered => lowered.digits.length) same
  suffix := by
    rw [← length_lower numeral.suffix, ← length_lower other.suffix]
    exact congrArg (fun lowered => lowered.suffix.length) same
  hasSeparators := by
    rw [← numeral.hasSeparators_lower, ← other.hasSeparators_lower, same]
  size := by
    rw [← numeral.size_lower, ← other.size_lower, same]
  grouped groupSize := by
    rw [isCaseVariant_iff, ← numeral.grouped_lower, ← other.grouped_lower, same]

/-- Options that a map makes equal are related as the map tells. -/
theorem rel_of_map_eq
    {α β : Type} {function : α → β} {related : α → α → Prop}
    (pointwise : ∀ left right, function left = function right → related left right)
    {left right : Option α} (same : left.map function = right.map function) :
    Option.Rel related left right := by
  cases left with
  | none =>
      cases right with
      | none => exact .none
      | some found => cases same
  | some value =>
      cases right with
      | none => cases same
      | some found => exact .some (pointwise value found (Option.some.inj same))

namespace Check

theorem canonicalText_lower (check : Check) (numeral : Numeral) :
    check.canonicalText numeral.lower = lower (check.canonicalText numeral) :=
  numeral.grouped_lower _

/-- The separators tell a grouped text from the text that was grouped, in either case. -/
theorem lower_canonicalText_eq_iff (form : numeral.WellFormed) :
    lower (check.canonicalText numeral) = lower numeral.text ↔
      check.canonicalText numeral = numeral.text := by
  constructor
  · intro same
    apply eq_of_separatorPlaces_eq
    · rw [canonicalText, form.scrub_grouped, form.scrub_text]
    · rw [← separatorPlaces_lower, same, separatorPlaces_lower]
  · intro same
    rw [same]

theorem suggest?_lower (form : numeral.WellFormed) :
    check.suggest? numeral.lower = (check.suggest? numeral).map Suggestion.lower := by
  have changes := @lower_canonicalText_eq_iff check numeral form
  rw [← canonicalText_lower, ← numeral.text_lower] at changes
  simp only [canonicalText, numeral.base_lower] at changes
  simp only [suggest?, numeral.base_lower, numeral.hasSeparators_lower, numeral.size_lower, changes]
  rw [apply_ite (Option.map Suggestion.lower), apply_ite (Option.map Suggestion.lower),
    apply_ite (Option.map Suggestion.lower), Option.map_some, Suggestion.lower,
    numeral.text_lower, numeral.grouped_lower]
  rfl

theorem suggestFor?_lower (check : Check) (text : Text) :
    check.suggestFor? (lower text) = (check.suggestFor? text).map Suggestion.lower := by
  rw [suggestFor?, suggestFor?, Numeral.parse?_lower]
  cases reading : Numeral.parse? text with
  | none => rfl
  | some numeral => exact suggest?_lower (Numeral.parse?_eq_some_iff.1 reading).1

/-- Case never matters: not for what a numeral is, and not for what a check makes of it. -/
theorem sameUpToCase_of_isCaseVariant {text variant : Text} (varies : text.IsCaseVariant variant) :
    Option.Rel Numeral.SameUpToCase (Numeral.parse? text) (Numeral.parse? variant) ∧
      ∀ check : Check,
        Option.Rel (fun suggestion other => suggestion.replacement.IsCaseVariant other.replacement)
          (check.suggestFor? text) (check.suggestFor? variant) := by
  rw [isCaseVariant_iff] at varies
  constructor
  · apply rel_of_map_eq fun _ _ => Numeral.sameUpToCase_of_lower_eq
    rw [← Numeral.parse?_lower, ← Numeral.parse?_lower, varies]
  · intro check
    apply @rel_of_map_eq _ _ Suggestion.lower
    · intro suggestion other same
      rw [isCaseVariant_iff]
      exact congrArg Suggestion.replacement same
    · rw [← suggestFor?_lower, ← suggestFor?_lower, varies]

theorem sameUpToCase_of_isCaseVariant_mixed :
    IsCaseVariant "0x1a2BuL".toList "0X1A2bUl".toList ∧
      (Numeral.parse? "0x1a2BuL".toList).isSome = true ∧
      Option.Rel Numeral.SameUpToCase (Numeral.parse? "0x1a2BuL".toList)
        (Numeral.parse? "0X1A2bUl".toList) ∧
      ∀ check : Check,
        Option.Rel (fun suggestion other => suggestion.replacement.IsCaseVariant other.replacement)
          (check.suggestFor? "0x1a2BuL".toList) (check.suggestFor? "0X1A2bUl".toList) := by
  have varies : IsCaseVariant "0x1a2BuL".toList "0X1A2bUl".toList := isCaseVariant_iff.2 (by decide)
  exact ⟨varies, rfl, sameUpToCase_of_isCaseVariant varies⟩

end Check

end NumeralStyle
