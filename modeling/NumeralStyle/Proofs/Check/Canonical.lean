import NumeralStyle.Check
import NumeralStyle.Proofs.Numeral.Spelling

/-!
# Canonical spellings

A check sees the parts of a numeral that do not depend on separators, and the text.
Hence all spellings of a numeral are measured against one text, which is a spelling
too and passes.  A check that passes over separated numerals suggests fewer texts and
no others, so what it suggests passes as well.
-/

namespace NumeralStyle.Check

open Numeral

variable {style : Style} {check : Check} {numeral other : Numeral}

/-- The text to which a check regroups a numeral. -/
def canonicalText (check : Check) (numeral : Numeral) : Text :=
  numeral.grouped (check.style.ruleFor numeral.base).groupSize.toNat

/-- A check made for a style has that style and skips nothing. -/
theorem ofStyle_eq_ok (made : ofStyle style = .ok check) :
    check.style = style ∧ check.skipsSeparated = false := by
  unfold ofStyle at made
  split at made
  · cases made
  · cases made
    exact ⟨rfl, rfl⟩

/-- A check is made for exactly the styles that pass validation. -/
theorem map_style_ofStyle (style : Style) :
    (ofStyle style).map Check.style = style.validate.map fun _ => style := by
  unfold ofStyle
  split
  · rename_i base found
    have rejected : style.validate = .error (.zeroGroupSize base) := by
      rw [Style.validate, found]
    rw [rejected]
    rfl
  · rename_i found
    have accepted : style.validate = .ok () := by
      rw [Style.validate, found]
    rw [accepted]
    rfl

/-- What has to hold for a suggestion. -/
theorem suggest?_eq_some_iff {suggestion : Suggestion} :
    check.suggest? numeral = some suggestion ↔
      ¬ (check.skipsSeparated = true ∧ numeral.hasSeparators = true) ∧
        (check.style.ruleFor numeral.base).minimumSize.toNat ≤ numeral.size ∧
        check.canonicalText numeral ≠ numeral.text ∧
        suggestion = ⟨numeral.text, check.canonicalText numeral, numeral.base⟩ := by
  unfold suggest? canonicalText
  dsimp only
  split
  · rename_i passed
    exact ⟨nofun, fun conditions => absurd passed conditions.1⟩
  · rename_i notPassed
    split
    · rename_i small
      exact ⟨nofun, fun conditions => absurd small (Nat.not_lt.2 conditions.2.1)⟩
    · rename_i notSmall
      split
      · rename_i same
        exact ⟨nofun, fun conditions => absurd same conditions.2.2.1⟩
      · rename_i different
        rw [Option.some_inj]
        exact ⟨fun found => ⟨notPassed, Nat.not_lt.1 notSmall, different, found.symm⟩,
          fun conditions => conditions.2.2.2.symm⟩

/-- Nothing is suggested for a numeral that is grouped already. -/
theorem suggest?_eq_none_of_canonicalText (same : check.canonicalText numeral = numeral.text) :
    check.suggest? numeral = none := by
  rw [Option.eq_none_iff_forall_ne_some]
  intro suggestion found
  exact (suggest?_eq_some_iff.1 found).2.2.1 same

theorem canonicalText_eq_of_sameParts (same : numeral.SameParts other) :
    check.canonicalText numeral = check.canonicalText other := by
  unfold canonicalText
  rw [same.base, same.grouped_eq]

/-- A check reads its own replacement as the regrouped numeral and lets it pass. -/
theorem suggestFor?_canonicalText (check : Check) (form : numeral.WellFormed) :
    check.suggestFor? (check.canonicalText numeral) = none := by
  have same := sameParts_regroup numeral (check.style.ruleFor numeral.base).groupSize.toNat
  unfold suggestFor?
  rw [canonicalText, form.parse?_grouped, Option.bind_some]
  apply suggest?_eq_none_of_canonicalText
  rw [canonicalText_eq_of_sameParts same, text_regroup]
  rfl

/-- Without skipping, a check compares a large numeral with its canonical text. -/
theorem suggest?_of_minimumSize_le
    (notSkipping : check.skipsSeparated = false)
    (large : (check.style.ruleFor numeral.base).minimumSize.toNat ≤ numeral.size) :
    check.suggest? numeral =
      if numeral.text = check.canonicalText numeral then none
      else some ⟨numeral.text, check.canonicalText numeral, numeral.base⟩ := by
  split
  · rename_i same
    exact suggest?_eq_none_of_canonicalText same.symm
  · rename_i different
    refine suggest?_eq_some_iff.2 ⟨?_, large, Ne.symm different, rfl⟩
    rw [notSkipping]
    exact fun passed => Bool.false_ne_true passed.1

/-- Every spelling of a large numeral is measured against the same text. -/
theorem suggestFor?_of_isSpelling
    (form : numeral.WellFormed) (notSkipping : check.skipsSeparated = false)
    (large : (check.style.ruleFor numeral.base).minimumSize.toNat ≤ numeral.size)
    {spelling : Text} (spells : numeral.IsSpelling spelling) :
    check.suggestFor? spelling =
      if spelling = check.canonicalText numeral then none
      else some ⟨spelling, check.canonicalText numeral, numeral.base⟩ := by
  obtain ⟨other, otherForm, same, rfl⟩ := form.isSpelling_iff.1 spells
  have otherLarge : (check.style.ruleFor other.base).minimumSize.toNat ≤ other.size := by
    rw [same.base, same.size]
    exact large
  unfold suggestFor?
  rw [otherForm.parse?_text, Option.bind_some,
    suggest?_of_minimumSize_le notSkipping otherLarge, canonicalText_eq_of_sameParts same,
    same.base]

/-- What a check suggests differs from what was written, has the same parts and passes. -/
theorem replacement_of_suggestFor?
    {text : Text} {suggestion : Suggestion}
    (suggested : check.suggestFor? text = some suggestion) :
    suggestion.replacement ≠ suggestion.written ∧
      (∃ numeral replaced, parse? text = some numeral ∧ suggestion.written = numeral.text ∧
        parse? suggestion.replacement = some replaced ∧ replaced.SameParts numeral) ∧
      check.suggestFor? suggestion.replacement = none := by
  obtain ⟨numeral, reading, found⟩ := Option.bind_eq_some_iff.1 suggested
  have form : numeral.WellFormed := (parse?_eq_some_iff.1 reading).1
  obtain ⟨-, -, different, rfl⟩ := suggest?_eq_some_iff.1 found
  refine ⟨different, ⟨numeral, _, reading, rfl, form.parse?_grouped _, ?_⟩, ?_⟩
  · exact sameParts_regroup numeral _
  · exact check.suggestFor?_canonicalText form

/-- A check moves all spellings of a large numeral to one of them and leaves that one
alone.  Whether or not it skips, what it suggests is another text with the same parts,
for which it suggests nothing more. -/
theorem suggestFor?_canonical (made : ofStyle style = .ok check) :
    (∀ text numeral, parse? text = some numeral →
      (style.ruleFor numeral.base).minimumSize.toNat ≤ numeral.size →
      ∃ canonical, numeral.IsSpelling canonical ∧
        ∀ spelling, numeral.IsSpelling spelling →
          check.suggestFor? spelling =
            if spelling = canonical then none
            else some ⟨spelling, canonical, numeral.base⟩) ∧
    ∀ either ∈ [check, check.skipSeparated], ∀ text suggestion,
      either.suggestFor? text = some suggestion →
      suggestion.replacement ≠ suggestion.written ∧
        (∃ numeral replaced, parse? text = some numeral ∧ suggestion.written = numeral.text ∧
          parse? suggestion.replacement = some replaced ∧ replaced.SameParts numeral) ∧
        either.suggestFor? suggestion.replacement = none := by
  obtain ⟨rfl, notSkipping⟩ := ofStyle_eq_ok made
  -- What is suggested passes whatever the check is, so the second part needs no case split.
  refine ⟨?_, fun either _ text suggestion suggested => replacement_of_suggestFor? suggested⟩
  intro text numeral reading large
  have form : numeral.WellFormed := (parse?_eq_some_iff.1 reading).1
  exact ⟨check.canonicalText numeral, form.isSpelling_grouped _,
    fun spelling spells => suggestFor?_of_isSpelling form notSkipping large spells⟩

/-- Misplaced thousands are moved, and the result is left alone. -/
theorem suggestFor?_canonical_conventional :
    ∃ check, ofStyle .conventional = .ok check ∧
      check.suggestFor? "12_34.5".toList =
        some ⟨"12_34.5".toList, "1_234.5".toList, .decimal⟩ ∧
      check.suggestFor? "1_234.5".toList = none := by
  have made : ∃ check, ofStyle .conventional = .ok check ∧
      check.suggestFor? "12_34.5".toList =
        some ⟨"12_34.5".toList, "1_234.5".toList, .decimal⟩ :=
    ⟨_, rfl, rfl⟩
  obtain ⟨check, made, suggested⟩ := made
  obtain ⟨-, replaced⟩ := suggestFor?_canonical made
  have stable := replaced check List.mem_cons_self "12_34.5".toList _ suggested
  exact ⟨check, made, suggested, stable.2.2⟩

end NumeralStyle.Check
