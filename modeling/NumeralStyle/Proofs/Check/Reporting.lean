import NumeralStyle.Reporting

/-!
# Reporting changes no answer

Without its reports a check that reports gives the answer of a check that does not.  The
reports in turn are determined by that answer: by the reason for which a text is no numeral,
or by the suggestion for the numeral that was read.  The main statements say both of every
text.
-/

namespace NumeralStyle

/-- The events that explain why a trimmed text is no numeral. -/
def Rejection.events (rejection : Rejection) (trimmed : Text) : List Event :=
  match rejection with
  | .blank => []
  | .bareMarker => [.notNumeral trimmed]
  | .malformed => [.malformedReal trimmed, .notNumeral trimmed]
  | .outOfRange => [.realOutOfRange trimmed, .notNumeral trimmed]

namespace Numeral

/-! ## Reading -/

/-- A real is read in silence, and where one is rejected the reason is reported before the
rejection itself. -/
theorem reportReal_cases (text : Text) :
    (∃ numeral, real text = .ok numeral ∧ reportReal text = ⟨some numeral, []⟩) ∨
      ∃ rejection reasons, real text = .error rejection ∧ reportReal text = ⟨none, reasons⟩ ∧
        reasons ++ [.notNumeral text] = rejection.events text := by
  rw [real, reportReal]
  dsimp only
  by_cases empty : (splitMarker text).1 = []
  · rw [if_pos empty, if_pos empty]
    exact Or.inr ⟨.bareMarker, [], rfl, rfl, rfl⟩
  rw [if_neg empty, if_neg empty]
  by_cases shapeless : (!(Regions.ofReal (splitMarker text).1).hasRealShape) = true
  · rw [if_pos shapeless, if_pos shapeless]
    exact Or.inr ⟨.malformed, [.malformedReal text], rfl, rfl, rfl⟩
  rw [if_neg shapeless, if_neg shapeless]
  by_cases outOfRange : (!(splitMarker text).2.2.accepts (scrub (splitMarker text).1)) = true
  · rw [if_pos outOfRange, if_pos outOfRange]
    exact Or.inr ⟨.outOfRange, [.realOutOfRange text], rfl, rfl, rfl⟩
  · rw [if_neg outOfRange, if_neg outOfRange]
    exact Or.inl ⟨_, rfl, rfl⟩

/-- A text is read in silence, and where it is rejected the events explain the rejection. -/
theorem reportParse_cases (text : Text) :
    (∃ numeral, read text = .ok numeral ∧ reportParse text = ⟨some numeral, []⟩) ∨
      ∃ rejection, read text = .error rejection ∧
        reportParse text = ⟨none, rejection.events (Text.trim text)⟩ := by
  rw [read, reportParse]
  dsimp only
  by_cases blank : Text.trim text = []
  · rw [if_pos blank, if_pos blank]
    exact Or.inr ⟨.blank, rfl, rfl⟩
  rw [if_neg blank, if_neg blank]
  cases Base.all.findSome? fun base => integer? base (Text.trim text) with
  | some numeral => exact Or.inl ⟨numeral, rfl, rfl⟩
  | none =>
      dsimp only
      rcases reportReal_cases (Text.trim text) with
        ⟨numeral, reading, silent⟩ | ⟨rejection, reasons, rejected, reported, whole⟩
      · rw [silent]
        exact Or.inl ⟨numeral, reading, rfl⟩
      · rw [reported]
        exact Or.inr ⟨rejection, rejected, congrArg (Reported.mk none) whole⟩

end Numeral

namespace Check

/-! ## Suggesting -/

/-- A suggestion is reported once, and nothing else is. -/
theorem reportSuggest_eq (check : Check) (numeral : Numeral) :
    check.reportSuggest numeral =
      ⟨check.suggest? numeral, (check.suggest? numeral).toList.map .suggested⟩ := by
  rw [reportSuggest, suggest?]
  dsimp only
  split
  · rfl
  · split
    · rfl
    · split <;> rfl

/-- A check suggests the same whether or not it reports, and what it reports is determined
by the reason of a rejection or by the suggestion. -/
theorem reportSuggestFor_eq (check : Check) (text : Text) :
    check.reportSuggestFor text =
      { answer := check.suggestFor? text
        events :=
          match Numeral.read text with
          | .error rejection => rejection.events (Text.trim text)
          | .ok numeral => (check.suggest? numeral).toList.map .suggested } := by
  rw [reportSuggestFor, suggestFor?, Numeral.parse?]
  rcases Numeral.reportParse_cases text with
    ⟨numeral, reading, silent⟩ | ⟨rejection, rejected, reported⟩
  · rw [reading, silent]
    exact check.reportSuggest_eq numeral
  · rw [rejected, reported]
    exact congrArg (Reported.mk none) (List.append_nil _)

theorem events_eq (check : Check) (text : Text) :
    check.events text =
      match Numeral.read text with
      | .error rejection => rejection.events (Text.trim text)
      | .ok numeral => (check.suggest? numeral).toList.map .suggested :=
  congrArg Reported.events (check.reportSuggestFor_eq text)

/-- Several texts are reported on in their order. -/
theorem reportSuggestions_eq (check : Check) (texts : List Text) :
    check.reportSuggestions texts = ⟨check.suggestions texts, texts.flatMap check.events⟩ := by
  induction texts with
  | nil => rfl
  | cons text texts inductionHypothesis =>
      have answer : (check.reportSuggestFor text).answer = check.suggestFor? text :=
        congrArg Reported.answer (check.reportSuggestFor_eq text)
      have order : (check.reportSuggestFor text).events ++ (texts.flatMap check.events ++ []) =
          check.events text ++ texts.flatMap check.events :=
        congrArg (check.events text ++ ·) (List.append_nil _)
      rw [suggestions_cons, List.flatMap_cons, ← answer, reportSuggestions, inductionHypothesis]
      exact congrArg (Reported.mk _) order

end Check

end NumeralStyle
