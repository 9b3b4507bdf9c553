import NumeralStyle.Proofs.Check.Reporting
import NumeralStyle.Proofs.Style.Document

/-!
# Rules act on their own base

A style is built by replacing rules, of which the last one for a base counts.  A check is
made for the style that results, unless a rule asks for groups of size zero.  It looks up
the rule for the base of the numeral and sees nothing else of its style.  The main
statement says what a chain of replacements builds, whether a check can be made for it,
and that two checks with one rule in common agree on all numerals of its base and on all
texts that are no numerals.
-/

namespace NumeralStyle

open Numeral

variable {base : Base}

/-! ## Chains of replacements -/

namespace Style

/-- Replace rules one after the other. -/
def withRules (style : Style) (changes : List (Base × Rule)) : Style :=
  changes.foldl (fun changed change => changed.withRule change.1 change.2) style

end Style

/-- The rules that changes set for a base, in their order. -/
def rulesSetFor (base : Base) (changes : List (Base × Rule)) : List Rule :=
  (changes.filter fun change => change.1 = base).map Prod.snd

theorem rulesSetFor_cons (base : Base) (change : Base × Rule) (changes : List (Base × Rule)) :
    rulesSetFor base (change :: changes) =
      if change.1 = base then change.2 :: rulesSetFor base changes
      else rulesSetFor base changes := by
  by_cases own : change.1 = base
  · simp [rulesSetFor, own]
  · simp [rulesSetFor, own]

/-- The last rule that was set for a base is the rule for it. -/
theorem Style.ruleFor_withRules (style : Style) (changes : List (Base × Rule)) (base : Base) :
    (style.withRules changes).ruleFor base =
      (rulesSetFor base changes).getLastD (style.ruleFor base) := by
  induction changes generalizing style with
  | nil => rfl
  | cons change changes inductionHypothesis =>
      have first := inductionHypothesis (style.withRule change.1 change.2)
      rw [ruleFor_withRule] at first
      rw [withRules, List.foldl_cons, ← withRules, first, rulesSetFor_cons]
      by_cases own : change.1 = base
      · rw [if_pos own, if_pos own.symm, List.getLastD_cons]
      · rw [if_neg own, if_neg (Ne.symm own)]

namespace Check

variable {check other : Check} {numeral : Numeral} {text : Text}

/-! ## Two checks with one rule in common -/

/-- A check sees the rule for the base of the numeral and whether it skips. -/
theorem suggest?_congr
    (sameMode : check.skipsSeparated = other.skipsSeparated)
    (sameRule : check.style.ruleFor numeral.base = other.style.ruleFor numeral.base) :
    check.suggest? numeral = other.suggest? numeral := by
  rw [suggest?, suggest?, sameMode, sameRule]

theorem suggestFor?_congr
    (sameMode : check.skipsSeparated = other.skipsSeparated)
    (sameRule : check.style.ruleFor base = other.style.ruleFor base)
    (within : ∀ numeral, parse? text = some numeral → numeral.base = base) :
    check.suggestFor? text = other.suggestFor? text := by
  rw [suggestFor?, suggestFor?]
  cases reading : parse? text with
  | none => rfl
  | some numeral =>
      rw [← within numeral reading] at sameRule
      exact suggest?_congr sameMode sameRule

theorem events_congr
    (sameMode : check.skipsSeparated = other.skipsSeparated)
    (sameRule : check.style.ruleFor base = other.style.ruleFor base)
    (within : ∀ numeral, parse? text = some numeral → numeral.base = base) :
    check.events text = other.events text := by
  rw [events_eq, events_eq]
  cases reading : read text with
  | error rejection => rfl
  | ok numeral =>
      have parsed : parse? text = some numeral := by
        rw [parse?, reading]
        rfl
      rw [← within numeral parsed] at sameRule
      dsimp only
      rw [suggest?_congr sameMode sameRule]

/-- A chain of replacements leaves the last rule for each base, and a check is made for the
result unless some base, of which the first is reported, has groups of size zero.  Two checks
that skip alike and have the same rule for a base suggest and report the same for every text
that is a numeral of this base or none at all. -/
theorem local_to_base :
    (∀ (start : Style) (changes : List (Base × Rule)),
      (∀ base, (start.withRules changes).ruleFor base =
        (rulesSetFor base changes).getLastD (start.ruleFor base)) ∧
      (ofStyle (start.withRules changes)).map Check.style =
        if ((start.withRules changes).ruleFor .decimal).groupSize = 0 then
          .error (.zeroGroupSize .decimal)
        else if ((start.withRules changes).ruleFor .hexadecimal).groupSize = 0 then
          .error (.zeroGroupSize .hexadecimal)
        else if ((start.withRules changes).ruleFor .binary).groupSize = 0 then
          .error (.zeroGroupSize .binary)
        else
          .ok (start.withRules changes)) ∧
    ∀ (check other : Check) (base : Base),
      check.skipsSeparated = other.skipsSeparated →
      check.style.ruleFor base = other.style.ruleFor base →
      ∀ text, (∀ numeral, parse? text = some numeral → numeral.base = base) →
        check.suggestFor? text = other.suggestFor? text ∧
          check.events text = other.events text := by
  refine ⟨fun start changes => ⟨start.ruleFor_withRules changes, ?_⟩, ?_⟩
  · rw [map_style_ofStyle, Style.validate_eq, apply_ite (Except.map _), apply_ite (Except.map _),
      apply_ite (Except.map _)]
    rfl
  · intro check other base sameMode sameRule text within
    exact ⟨suggestFor?_congr sameMode sameRule within, events_congr sameMode sameRule within⟩

/-- A style that was built another way, with thousands in base ten, agrees with the
conventional one there and nowhere else. -/
theorem local_to_base_thousands :
    ∃ check other : Check,
      ofStyle .conventional = .ok check ∧
      ofStyle ((Style.uniform ⟨1, 1⟩).withRules
        [(.decimal, ⟨9, 9⟩), (.hexadecimal, ⟨2, 1⟩), (.decimal, .longerThanOneGroup 3)]) =
          .ok other ∧
      check.suggestFor? "1234567".toList = other.suggestFor? "1234567".toList ∧
      check.suggestFor? "0xABC".toList ≠ other.suggestFor? "0xABC".toList := by
  have within : ∀ numeral, parse? "1234567".toList = some numeral → numeral.base = .decimal := by
    intro numeral reading
    cases reading
    rfl
  refine ⟨_, _, rfl, rfl, ?_, by decide⟩
  exact (local_to_base.2 _ _ .decimal rfl (by decide) _ within).1

end Check

end NumeralStyle
