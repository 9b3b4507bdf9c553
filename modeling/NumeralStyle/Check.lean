import NumeralStyle.Numeral.Grouping
import NumeralStyle.Style.Basic
import NumeralStyle.Suggestion

/-!
# Checking numerals against a style

A check compares a numeral with its grouped text under a valid style and suggests
that text where the two differ.  It may be told to pass over numerals that have
separators already.
-/

namespace NumeralStyle

/-- A valid style, and whether numerals with separators are passed over. -/
structure Check where
  style : Style
  valid : style.Valid
  skipsSeparated : Bool := false

namespace Check

def ofStyle (style : Style) : Except StyleError Check :=
  match found : style.firstInvalid? with
  | some base => .error (.zeroGroupSize base)
  | none => .ok ⟨style, style.firstInvalid?_eq_none_iff.1 found, false⟩

def skipSeparated (check : Check) : Check :=
  { check with skipsSeparated := true }

/-- What a check suggests for a numeral. -/
def suggest? (check : Check) (numeral : Numeral) : Option Suggestion :=
  let rule := check.style.ruleFor numeral.base
  let replacement := numeral.grouped rule.groupSize.toNat
  if check.skipsSeparated ∧ numeral.hasSeparators then
    none
  else if numeral.size < rule.minimumSize.toNat then
    none
  else if replacement = numeral.text then
    none
  else
    some ⟨numeral.text, replacement, numeral.base⟩

def suggestFor? (check : Check) (text : Text) : Option Suggestion :=
  (Numeral.parse? text).bind check.suggest?

def suggestions (check : Check) (texts : List Text) : List Suggestion :=
  texts.filterMap check.suggestFor?

theorem suggestions_cons (check : Check) (text : Text) (texts : List Text) :
    check.suggestions (text :: texts) =
      (check.suggestFor? text).toList ++ check.suggestions texts := by
  rw [suggestions, List.filterMap_cons]
  cases check.suggestFor? text <;> rfl

end Check

end NumeralStyle
