import NumeralStyle.Check
import NumeralStyle.Event

/-!
# Reporting

Checking a text reports events where it comes across what they are about: a real whose
digits are at fault, a text that is no numeral, a numeral that should be written with
separators.  What was reported on the way is kept with the answer.
-/

namespace NumeralStyle

/-- An answer, along with the events that were reported on the way to it. -/
structure Reported (α : Type) where
  answer : α
  events : List Event
  deriving Repr

instance : Monad Reported where
  pure answer := ⟨answer, []⟩
  bind first next :=
    let second := next first.answer
    ⟨second.answer, first.events ++ second.events⟩

def report (event : Event) : Reported Unit :=
  ⟨(), [event]⟩

namespace Numeral

/-- Read a real from a trimmed text, and report what is at fault with its digits. -/
def reportReal (trimmed : Text) : Reported (Option Numeral) := do
  let (digits, marker, type) := splitMarker trimmed
  if digits = [] then
    return none
  if !(Regions.ofReal digits).hasRealShape then
    report (.malformedReal trimmed)
    return none
  if !type.accepts (scrub digits) then
    report (.realOutOfRange trimmed)
    return none
  return some ⟨.decimal, [], digits, marker, false⟩

/-- Read a numeral from a text, and report a text that is neither blank nor a numeral. -/
def reportParse (text : Text) : Reported (Option Numeral) := do
  let trimmed := Text.trim text
  if trimmed = [] then
    return none
  let parsed ← match Base.all.findSome? fun base => integer? base trimmed with
    | some numeral => pure (some numeral)
    | none => reportReal trimmed
  if parsed.isNone then
    report (.notNumeral trimmed)
  return parsed

end Numeral

namespace Check

/-- What a check suggests for a numeral, which is reported when there is something. -/
def reportSuggest (check : Check) (numeral : Numeral) : Reported (Option Suggestion) := do
  if check.skipsSeparated ∧ numeral.hasSeparators then
    return none
  let rule := check.style.ruleFor numeral.base
  if numeral.size < rule.minimumSize.toNat then
    return none
  let replacement := numeral.grouped rule.groupSize.toNat
  if replacement = numeral.text then
    return none
  let suggestion : Suggestion := ⟨numeral.text, replacement, numeral.base⟩
  report (.suggested suggestion)
  return some suggestion

def reportSuggestFor (check : Check) (text : Text) : Reported (Option Suggestion) := do
  match ← Numeral.reportParse text with
  | none => return none
  | some numeral => check.reportSuggest numeral

/-- What a check suggests for one text after the other. -/
def reportSuggestions (check : Check) : List Text → Reported (List Suggestion)
  | [] => return []
  | text :: texts => do
    let suggestion? ← check.reportSuggestFor text
    let others ← check.reportSuggestions texts
    return suggestion?.toList ++ others

/-- What is reported when a text is checked. -/
def events (check : Check) (text : Text) : List Event :=
  (check.reportSuggestFor text).events

end Check

end NumeralStyle
