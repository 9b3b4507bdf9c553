import NumeralStyle.Proofs.Check.Reporting
import NumeralStyle.Proofs.Numeral.Grammar

/-!
# Events explain the result

A check reports a suggestion by one event and a numeral that it lets pass by none.  For a
text that is no numeral the last event says so, and the event in front of it says what is
wrong with the digits, once a marker of a real type is split off.  The main statement
ties the events to the trimmed text and to the answer of the check; digits without
fault in their shape can be out of range for the decimal type only.
-/

namespace NumeralStyle

/-! ## Splitting the marker off -/

namespace Grammar

/-- The digits are the text without the marker of a real type at its end, if there is
one. -/
structure SplitsMarker (text digits marker : Text) : Prop where
  whole : digits ++ marker = text
  isMarker : marker ∈ optional (oneOf "fFdDmM")
  longest : marker = [] → ∀ letter ∈ "fFdDmM".toList, digits.getLast? ≠ some letter

variable {text digits marker otherDigits otherMarker : Text}

theorem splitsMarker_splitMarker (text : Text) :
    SplitsMarker text (Numeral.splitMarker text).1 (Numeral.splitMarker text).2.1 := by
  refine ⟨Numeral.splitMarker_append text,
    mem_realMarker.2 ⟨_, Numeral.realType?_splitMarker text⟩, ?_⟩
  intro unmarked letter listed last
  obtain ⟨type, marked⟩ := mem_realMarker.1 (mem_optional.2 (Or.inr ⟨letter, listed, rfl⟩))
  have whole := Numeral.splitMarker_append text
  rw [unmarked, List.append_nil] at whole
  rw [whole] at last
  have split : Numeral.splitMarker text = (text.dropLast, [letter], type) := by
    rw [Numeral.splitMarker, last]
    dsimp only
    rw [show RealType.ofMarker? letter = some type from marked]
  rw [split] at unmarked
  cases unmarked

theorem SplitsMarker.unique
    (splits : SplitsMarker text digits marker)
    (otherSplits : SplitsMarker text otherDigits otherMarker) :
    digits = otherDigits ∧ marker = otherMarker := by
  have same : digits ++ marker = otherDigits ++ otherMarker :=
    splits.whole.trans otherSplits.whole.symm
  -- If one side has a marker and the other has none, the marker ends the digits there.
  rcases mem_optional.1 splits.isMarker with rfl | ⟨letter, listed, rfl⟩ <;>
    rcases mem_optional.1 otherSplits.isMarker with rfl | ⟨otherLetter, otherListed, rfl⟩
  · rw [List.append_nil, List.append_nil] at same
    exact ⟨same, rfl⟩
  · have closing : digits.getLast? = some otherLetter := by
      rw [← List.append_nil digits, same, List.getLast?_concat]
    exact absurd closing (splits.longest rfl otherLetter otherListed)
  · have closing : otherDigits.getLast? = some letter := by
      rw [← List.append_nil otherDigits, ← same, List.getLast?_concat]
    exact absurd closing (otherSplits.longest rfl letter listed)
  · exact List.append_inj' same rfl

end Grammar

namespace Numeral

open Grammar

variable {text digits marker : Text} {rejection : Rejection}

theorem mem_realDigits_iff_hasRealShape :
    digits ∈ realDigits ↔ (Regions.ofReal digits).hasRealShape = true :=
  mem_realDigits.trans Regions.isReal_ofReal_iff

theorem nil_not_mem_realDigits : [] ∉ realDigits := by
  rw [mem_realDigits_iff_hasRealShape]
  decide

/-- Of the three types only the decimal one does not accept all digits of reals. -/
theorem mem_decimalMarker_of_not_accepts
    {type : RealType} (real : digits ∈ realDigits) (marked : realType? marker = some type)
    (rejected : type.accepts (scrub digits) = false) :
    marker ∈ oneOf "mM" := by
  by_contra notDecimal
  have isMarker : marker ∈ optional (oneOf "fFdDmM") := mem_realMarker.2 ⟨type, marked⟩
  obtain ⟨other, otherMarked, accepted⟩ := (exists_realType?_iff (mem_realDigits.1 real)).2
    ⟨isMarker, fun decimal => absurd decimal notDecimal⟩
  have same : type = other := Option.some.inj (marked.symm.trans otherMarked)
  rw [← same, rejected] at accepted
  cases accepted

/-- Why a text is not read as a real. -/
theorem real_eq_error_cases
    (splits : SplitsMarker text digits marker) (rejected : real text = .error rejection) :
    (rejection = .bareMarker ∧ digits = []) ∨
      (rejection = .malformed ∧ digits ≠ [] ∧ digits ∉ realDigits) ∨
        (rejection = .outOfRange ∧ digits ∈ realDigits ∧ marker ∈ oneOf "mM") := by
  obtain ⟨rfl, rfl⟩ := (splitsMarker_splitMarker text).unique splits
  have marked := realType?_splitMarker text
  rw [real] at rejected
  dsimp only at rejected
  split at rejected
  · rename_i empty
    cases rejected
    exact Or.inl ⟨rfl, empty⟩
  · rename_i nonempty
    split at rejected
    · rename_i shapeless
      cases rejected
      refine Or.inr (Or.inl ⟨rfl, nonempty, ?_⟩)
      rw [mem_realDigits_iff_hasRealShape]
      simpa using shapeless
    · rename_i shape
      have inShape : (splitMarker text).1 ∈ realDigits := by
        rw [mem_realDigits_iff_hasRealShape]
        simpa using shape
      split at rejected
      · rename_i notAccepted
        cases rejected
        refine Or.inr (Or.inr ⟨rfl, inShape, mem_decimalMarker_of_not_accepts inShape marked ?_⟩)
        simpa using notAccepted
      · cases rejected

/-- A text that is neither empty nor read is rejected by the last way of reading. -/
theorem exists_real_eq_error
    (notRead : parse? text = none) (nonempty : Text.trim text ≠ []) :
    ∃ rejection, read text = .error rejection ∧ real (Text.trim text) = .error rejection := by
  rw [parse?, read, if_neg nonempty] at notRead
  rw [read, if_neg nonempty]
  split at notRead
  · cases notRead
  · cases result : real (Text.trim text) with
    | error rejection => exact ⟨rejection, rfl, rfl⟩
    | ok numeral =>
        rw [result] at notRead
        cases notRead

end Numeral

namespace Event

/-- The event traces a message about a text. -/
structure Traces (event : Event) (message : String) (text : Text) : Prop where
  level : event.level = .trace
  message : event.message = message.toList
  fields : event.fields = [⟨"text".toList, text, true⟩]

/-- The event reports a suggestion, with all that belongs to it. -/
structure Suggests (event : Event) (suggestion : Suggestion) : Prop where
  level : event.level = .debug
  message : event.message = "literal should use digit separators".toList
  fields : event.fields =
    [⟨"original".toList, suggestion.written, true⟩,
      ⟨"replacement".toList, suggestion.replacement, true⟩,
      ⟨"base".toList, suggestion.base.name.toList, false⟩]

/-- What is reported of a text before it is said to be no numeral, by its digits and its
marker: nothing of a marker alone, and else whether the shape or the range is at fault. -/
structure AreReasons (events : List Event) (text digits marker : Text) : Prop where
  bare : digits = [] → events = []
  malformed : digits ≠ [] → digits ∉ Grammar.realDigits →
    ∃ event, events = [event] ∧ event.Traces "malformed real literal" text
  outOfRange : digits ∈ Grammar.realDigits →
    ∃ event, events = [event] ∧
      event.Traces "real literal digits out of range for its type" text ∧
      marker ∈ Grammar.oneOf "mM"

end Event

namespace Check

open Numeral Grammar

variable {text : Text} {numeral : Numeral} {rejection : Rejection}

/-- A rejected real is reported with the reason in front. -/
theorem exists_reasons_of_real
    {digits marker : Text} (splits : SplitsMarker text digits marker)
    (rejected : real text = .error rejection) :
    ∃ reasons, rejection.events text = reasons ++ [.notNumeral text] ∧
      Event.AreReasons reasons text digits marker := by
  rcases real_eq_error_cases splits rejected with
    ⟨rfl, empty⟩ | ⟨rfl, nonempty, shapeless⟩ | ⟨rfl, shape, decimal⟩
  · refine ⟨[], rfl, ?_⟩
    refine ⟨fun _ => rfl, fun nonempty => absurd empty nonempty, fun shape => ?_⟩
    rw [empty] at shape
    exact absurd shape nil_not_mem_realDigits
  · refine ⟨[.malformedReal text], rfl, ?_⟩
    exact ⟨fun empty => absurd empty nonempty, fun _ _ => ⟨_, rfl, rfl, rfl, rfl⟩,
      fun shape => absurd shape shapeless⟩
  · refine ⟨[.realOutOfRange text], rfl, ?_⟩
    refine ⟨fun empty => ?_, fun _ shapeless => absurd shape shapeless,
      fun _ => ⟨_, rfl, ⟨rfl, rfl, rfl⟩, decimal⟩⟩
    rw [empty] at shape
    exact absurd shape nil_not_mem_realDigits

theorem events_of_parse? (check : Check) (reading : parse? text = some numeral) :
    check.events text = (check.suggestFor? text).toList.map .suggested := by
  rw [suggestFor?, reading, Option.bind_some, events_eq]
  rw [parse?] at reading
  cases result : read text with
  | error rejection =>
      rw [result] at reading
      cases reading
  | ok other =>
      rw [result] at reading
      cases reading
      rfl

theorem events_of_read_eq_error
    (check : Check) (rejected : read text = .error rejection) :
    check.events text = rejection.events (Text.trim text) := by
  rw [events_eq, rejected]

/-- The events of a check explain its result.  An empty text is passed over in silence; a
numeral is reported once if the check suggests something for it, and not at all if not;
any other text is reported as no numeral, after the reason for it. -/
theorem events_explain_result (check : Check) (text : Text) :
    (Text.trim text = [] → check.events text = []) ∧
      (∀ numeral, parse? text = some numeral →
        (check.suggestFor? text = none → check.events text = []) ∧
          ∀ suggestion, check.suggestFor? text = some suggestion →
            ∃ event, check.events text = [event] ∧ event.Suggests suggestion) ∧
      (parse? text = none → Text.trim text ≠ [] →
        ∃ digits marker reasons last, SplitsMarker (Text.trim text) digits marker ∧
          check.events text = reasons ++ [last] ∧
          last.Traces "not a numeric literal" (Text.trim text) ∧
          Event.AreReasons reasons (Text.trim text) digits marker) := by
  refine ⟨?_, ?_, ?_⟩
  · intro blank
    have rejected : read text = .error .blank := if_pos blank
    exact check.events_of_read_eq_error rejected
  · intro numeral reading
    rw [check.events_of_parse? reading]
    refine ⟨?_, ?_⟩
    · intro passed
      rw [passed]
      rfl
    · intro suggestion suggested
      rw [suggested]
      exact ⟨.suggested suggestion, rfl, rfl, rfl, rfl⟩
  · intro notRead nonempty
    obtain ⟨rejection, rejected, realRejected⟩ := exists_real_eq_error notRead nonempty
    have splits := splitsMarker_splitMarker (Text.trim text)
    obtain ⟨reasons, whole, areReasons⟩ := exists_reasons_of_real splits realRejected
    rw [check.events_of_read_eq_error rejected]
    exact ⟨_, _, reasons, _, splits, whole, ⟨rfl, rfl, rfl⟩, areReasons⟩

/-- A number too large for the decimal type, and a point without a fraction. -/
example (check : Check) :
    check.events " 8e28m".toList = [.realOutOfRange "8e28m".toList, .notNumeral "8e28m".toList] ∧
      check.events "8.m".toList = [.malformedReal "8.m".toList, .notNumeral "8.m".toList] ∧
        check.events "m".toList = [.notNumeral "m".toList] :=
  ⟨rfl, rfl, rfl⟩

end Check

end NumeralStyle
