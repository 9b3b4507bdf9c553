import NumeralStyle.Log
import NumeralStyle.Proofs.Check.Explanation
import NumeralStyle.Proofs.Text.Quoted

/-!
# Lines of a log

Every admitted event takes one line, which shows all of the event: texts are quoted, so
that none of them can end its line or pass for another.  Of the levels that are installed
the first decides.  The main statement says for each level what is printed when texts are
checked, and that the lines tell the events apart.
-/

namespace NumeralStyle

open Text

namespace Event

variable {left right : Event}

/-! ## The line of an event -/

/-- What the line of an event shows behind its message. -/
def details (event : Event) : Text :=
  event.fields.flatMap fun field => ' ' :: field.render

theorem cons_render_quoted (name value : Text) :
    ' ' :: Field.render ⟨name, value, true⟩ = (' ' :: name ++ ['=']) ++ quote value := by
  simp [Field.render]

theorem cons_render_plain (name value : Text) :
    ' ' :: Field.render ⟨name, value, false⟩ = (' ' :: name ++ ['=']) ++ value := by
  simp [Field.render]

theorem details_of_fields_eq
    {name text : Text} (whole : left.fields = [⟨name, text, true⟩]) :
    left.details = (' ' :: name ++ ['=']) ++ quote text := by
  rw [details, whole, List.flatMap_cons, List.flatMap_nil, List.append_nil, cons_render_quoted]

theorem details_suggested (suggestion : Suggestion) :
    (Event.suggested suggestion).details =
      (' ' :: "original".toList ++ ['=']) ++ (quote suggestion.written ++
        ((' ' :: "replacement".toList ++ ['=']) ++ (quote suggestion.replacement ++
          ((' ' :: "base".toList ++ ['=']) ++ suggestion.base.name.toList)))) := by
  simp only [details, fields, List.flatMap_cons, List.flatMap_nil, List.append_nil,
    cons_render_quoted, cons_render_plain, List.append_assoc]

theorem details_eq_of_line_eq
    (same : left.line = right.line) (sameLevel : left.level = right.level)
    (sameMessage : left.message = right.message) :
    left.details = right.details := by
  rw [line, line, sameLevel, sameMessage] at same
  exact List.append_cancel_left same

theorem text_eq_of_details_eq
    {name text otherText : Text} (same : left.details = right.details)
    (whole : left.fields = [⟨name, text, true⟩])
    (otherWhole : right.fields = [⟨name, otherText, true⟩]) :
    text = otherText := by
  rw [details_of_fields_eq whole, details_of_fields_eq otherWhole] at same
  exact selfDelimiting_quote.injective (List.append_cancel_left same)

theorem base_eq_of_name_eq
    {base otherBase : Base} (same : base.name.toList = otherBase.name.toList) :
    base = otherBase := by
  cases base <;> cases otherBase <;> first | rfl | exact absurd same (by decide)

theorem suggestion_eq_of_details_eq
    {suggestion otherSuggestion : Suggestion}
    (same : (Event.suggested suggestion).details = (Event.suggested otherSuggestion).details) :
    suggestion = otherSuggestion := by
  rw [details_suggested, details_suggested] at same
  obtain ⟨sameWritten, same⟩ := selfDelimiting_quote _ _ _ _ (List.append_cancel_left same)
  obtain ⟨sameReplacement, same⟩ := selfDelimiting_quote _ _ _ _ (List.append_cancel_left same)
  have sameBase := base_eq_of_name_eq (List.append_cancel_left same)
  cases suggestion
  cases otherSuggestion
  cases sameWritten
  cases sameReplacement
  cases sameBase
  rfl

/-- The first letter of the message, which no other kind of event has. -/
def initial : Event → Char
  | .malformedReal _ => 'm'
  | .realOutOfRange _ => 'r'
  | .notNumeral _ => 'n'
  | .suggested _ => 'l'

/-- The message begins behind the name of the level, which has five letters. -/
theorem getElem?_six_line (event : Event) :
    event.line[6]? = some event.initial := by
  cases event <;> rfl

theorem isPrefixOf_line (event : Event) :
    "DEBUG ".toList.isPrefixOf event.line = decide (event.level = .debug) := by
  cases event <;> rfl

/-- A line shows the whole event: the messages differ in their first letters, and behind
the same message the quoted texts can be told apart. -/
theorem line_injective : Function.Injective Event.line := by
  intro left right same
  have sameInitial : left.initial = right.initial := by
    apply Option.some.inj
    rw [← getElem?_six_line, same, getElem?_six_line]
  cases left with
  | malformedReal text =>
      cases right with
      | malformedReal otherText =>
          have sameText := text_eq_of_details_eq (details_eq_of_line_eq same rfl rfl) rfl rfl
          rw [sameText]
      | _ => cases sameInitial
  | realOutOfRange text =>
      cases right with
      | realOutOfRange otherText =>
          have sameText := text_eq_of_details_eq (details_eq_of_line_eq same rfl rfl) rfl rfl
          rw [sameText]
      | _ => cases sameInitial
  | notNumeral text =>
      cases right with
      | notNumeral otherText =>
          have sameText := text_eq_of_details_eq (details_eq_of_line_eq same rfl rfl) rfl rfl
          rw [sameText]
      | _ => cases sameInitial
  | suggested suggestion =>
      cases right with
      | suggested otherSuggestion =>
          have sameDetails := details_eq_of_line_eq same rfl rfl
          rw [suggestion_eq_of_details_eq sameDetails]
      | _ => cases sameInitial

/-! ## One line for each event -/

theorem isOneLine_head (event : Event) :
    IsOneLine (event.level.name ++ ' ' :: event.message) := by
  apply isOneLine_of_all
  cases event <;> rfl

theorem Field.isOneLine_render
    {field : Field} (name : IsOneLine field.name)
    (plain : field.isQuoted = false → IsOneLine field.value) :
    IsOneLine (' ' :: field.render) := by
  have blank : IsOneLine [' '] := isOneLine_of_all rfl
  have equals : IsOneLine ['='] := isOneLine_of_all rfl
  obtain ⟨fieldName, value, isQuoted⟩ := field
  cases isQuoted with
  | true =>
      rw [cons_render_quoted]
      exact ((blank.append name).append equals).append (isOneLine_quote value)
  | false =>
      rw [cons_render_plain]
      exact ((blank.append name).append equals).append (plain rfl)

/-- Names of fields have no line breaks, and only names of bases are not quoted. -/
theorem isOneLine_of_mem_fields
    {event : Event} {field : Field} (member : field ∈ event.fields) :
    IsOneLine field.name ∧ (field.isQuoted = false → IsOneLine field.value) := by
  cases event with
  | suggested suggestion =>
      simp only [fields, List.mem_cons, List.not_mem_nil, or_false] at member
      rcases member with rfl | rfl | rfl
      · exact ⟨isOneLine_of_all rfl, nofun⟩
      · exact ⟨isOneLine_of_all rfl, nofun⟩
      · refine ⟨isOneLine_of_all rfl, fun _ => isOneLine_of_all ?_⟩
        dsimp only
        cases suggestion.base <;> rfl
  | _ =>
      simp only [fields, List.mem_singleton] at member
      rw [member]
      exact ⟨isOneLine_of_all rfl, nofun⟩

theorem isOneLine_line (event : Event) : IsOneLine event.line := by
  refine (isOneLine_head event).append (isOneLine_flatMap fun field member => ?_)
  obtain ⟨name, plain⟩ := isOneLine_of_mem_fields member
  exact Field.isOneLine_render name plain

/-! ## Levels of the events of a check -/

theorem level_eq_trace_or_debug (event : Event) :
    event.level = .trace ∨ event.level = .debug := by
  cases event with
  | suggested => exact Or.inr rfl
  | _ => exact Or.inl rfl

end Event

namespace Check

variable (check : Check)

theorem level_of_mem_rejection_events
    {rejection : Rejection} {trimmed : Text} {event : Event}
    (member : event ∈ rejection.events trimmed) :
    event.level = .trace := by
  cases rejection <;> simp only [Rejection.events, List.mem_cons, List.not_mem_nil, or_false]
    at member
  · rw [member]
    rfl
  · rcases member with rfl | rfl <;> rfl
  · rcases member with rfl | rfl <;> rfl

/-- The suggestion for a text is the only event of its level. -/
theorem filter_debug_events (text : Text) :
    (check.events text).filter (fun event => event.level = .debug) =
      (check.suggestFor? text).toList.map .suggested := by
  cases reading : Numeral.read text with
  | error rejection =>
      have absent : check.suggestFor? text = none := by
        rw [suggestFor?, Numeral.parse?, reading]
        rfl
      rw [check.events_of_read_eq_error reading, absent]
      refine List.filter_eq_nil_iff.2 fun event member isDebug => ?_
      have isTrace := level_of_mem_rejection_events member
      rw [of_decide_eq_true isDebug] at isTrace
      cases isTrace
  | ok numeral =>
      have parsed : Numeral.parse? text = some numeral := by
        rw [Numeral.parse?, reading]
        rfl
      rw [check.events_of_parse? parsed]
      refine List.filter_eq_self.2 fun event member => ?_
      obtain ⟨suggestion, -, rfl⟩ := List.mem_map.1 member
      rfl

theorem filter_debug_flatMap_events (texts : List Text) :
    (texts.flatMap check.events).filter (fun event => event.level = .debug) =
      (check.suggestions texts).map .suggested := by
  rw [List.filter_flatMap]
  induction texts with
  | nil => rfl
  | cons text texts inductionHypothesis =>
      rw [List.flatMap_cons, inductionHypothesis, filter_debug_events, suggestions_cons,
        List.map_append]

end Check

namespace Log

/-! ## What a log prints -/

/-- The lines for a check of texts after the levels were installed in their order. -/
def printed (levels : List Level) (check : Check) (texts : List Text) : List Text :=
  ((installAll {} levels).2).linesFor check texts

variable (level : Level) (later : List Level) (check : Check) (texts : List Text)

theorem installAll_installed :
    installAll ⟨some level⟩ later = (later.map fun _ => false, ⟨some level⟩) := by
  induction later with
  | nil => rfl
  | cons other others inductionHypothesis =>
      rw [installAll]
      dsimp only [install]
      rw [inductionHypothesis]
      rfl

/-- Only the first level is installed. -/
theorem installAll_empty :
    installAll {} (level :: later) = (true :: later.map fun _ => false, ⟨some level⟩) := by
  rw [installAll]
  dsimp only [install]
  rw [installAll_installed]

theorem printed_cons :
    printed (level :: later) check texts =
      ((texts.flatMap check.events).filter fun event => event.level.rank ≤ level.rank).map
        Event.line := by
  rw [printed, installAll_empty]
  rfl

theorem printed_trace :
    printed (.trace :: later) check texts = (texts.flatMap check.events).map Event.line := by
  rw [printed_cons, List.filter_eq_self.2]
  intro event _
  rcases event.level_eq_trace_or_debug with isTrace | isDebug
  · rw [isTrace]
    rfl
  · rw [isDebug]
    rfl

theorem printed_debug :
    printed (.debug :: later) check texts =
      (check.suggestions texts).map fun suggestion => (Event.suggested suggestion).line := by
  have sameFilter (event : Event) :
      decide (event.level.rank ≤ Level.debug.rank) = decide (event.level = .debug) := by
    rcases event.level_eq_trace_or_debug with isTrace | isDebug
    · rw [isTrace]
      rfl
    · rw [isDebug]
      rfl
  rw [printed_cons, List.filter_congr fun event _ => sameFilter event,
    check.filter_debug_flatMap_events, List.map_map]
  rfl

theorem printed_severe (severe : level.rank < Level.debug.rank) :
    printed (level :: later) check texts = [] := by
  rw [printed_cons, List.filter_eq_nil_iff.2]
  · rfl
  · intro event _ admitted
    have low := of_decide_eq_true admitted
    rcases event.level_eq_trace_or_debug with isTrace | isDebug
    · rw [isTrace] at low
      exact absurd (Nat.lt_of_le_of_lt low severe) (by decide)
    · rw [isDebug] at low
      exact absurd (Nat.lt_of_le_of_lt low severe) (by decide)

/-- The lines of a level among all lines are those that open with its name. -/
theorem printed_debug_eq_filter (otherLater : List Level) :
    printed (.debug :: later) check texts =
      (printed (.trace :: otherLater) check texts).filter ("DEBUG ".toList.isPrefixOf ·) := by
  have samePrefix : (("DEBUG ".toList.isPrefixOf ·) ∘ Event.line) =
      fun event => decide (event.level = .debug) :=
    funext Event.isPrefixOf_line
  rw [printed_debug, printed_trace, List.filter_map, samePrefix,
    check.filter_debug_flatMap_events, List.map_map]
  rfl

/-- A log prints one line for each event that its first level admits, in their order: all
of them for the level of traces, one for each suggestion for the level below, which are
the lines that open with its name, and none for the others.  No line has a break in it,
and no two events have the same line. -/
theorem printed_faithful :
    (∀ level later,
        installAll {} (level :: later) = (true :: later.map fun _ => false, ⟨some level⟩)) ∧
      (∀ level later check texts,
        printed (level :: later) check texts =
            ((texts.flatMap check.events).filter fun event =>
              event.level.rank ≤ level.rank).map Event.line ∧
          (level = .trace →
            printed (level :: later) check texts =
              (texts.flatMap check.events).map Event.line) ∧
          (level = .debug →
            printed (level :: later) check texts =
              (check.suggestions texts).map fun suggestion => (Event.suggested suggestion).line) ∧
          (level ∈ [.info, .warn, .error] → printed (level :: later) check texts = []) ∧
          ∀ line ∈ printed (level :: later) check texts, '\n' ∉ line ∧ '\r' ∉ line) ∧
      (∀ later otherLater check texts,
        printed (.debug :: later) check texts =
          (printed (.trace :: otherLater) check texts).filter ("DEBUG ".toList.isPrefixOf ·)) ∧
      ∀ event other : Event, event.line = other.line → event = other := by
  refine ⟨installAll_empty, fun level later check texts => ?_,
    fun later otherLater check texts => printed_debug_eq_filter later check texts otherLater,
    fun _ _ same => Event.line_injective same⟩
  refine ⟨printed_cons level later check texts, ?_, ?_, ?_, ?_⟩
  · rintro rfl
    exact printed_trace later check texts
  · rintro rfl
    exact printed_debug later check texts
  · intro severe
    apply printed_severe
    simp only [List.mem_cons, List.not_mem_nil, or_false] at severe
    rcases severe with rfl | rfl | rfl <;> decide
  · intro line shown
    rw [printed_cons] at shown
    obtain ⟨event, -, rfl⟩ := List.mem_map.1 shown
    exact ⟨fun member => event.isOneLine_line _ member (by decide),
      fun member => event.isOneLine_line _ member (by decide)⟩

end Log

end NumeralStyle
