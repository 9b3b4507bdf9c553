import NumeralStyle.Suggestion

/-!
# Events

Checking a text reports what it came across: why a text is no numeral, or that a
numeral should be written with separators.  Every event has a level, a message and
named fields.
-/

namespace NumeralStyle

inductive Level where
  | error
  | warn
  | info
  | debug
  | trace
  deriving DecidableEq, Repr

namespace Level

def all : List Level :=
  [.error, .warn, .info, .debug, .trace]

/-- The place of a level among all levels; more severe levels have lower ranks. -/
def rank : Level → Nat
  | .error => 0
  | .warn => 1
  | .info => 2
  | .debug => 3
  | .trace => 4

def name : Level → Text
  | .error => "ERROR".toList
  | .warn => "WARN".toList
  | .info => "INFO".toList
  | .debug => "DEBUG".toList
  | .trace => "TRACE".toList

end Level

structure Event.Field where
  name : Text
  value : Text
  /-- Whether the value is quoted when the event is written. -/
  isQuoted : Bool
  deriving DecidableEq, Repr

inductive Event where
  /-- The text could be a real only, and has not the shape of one. -/
  | malformedReal (text : Text)
  /-- The text has the shape of a real whose digits do not fit its type. -/
  | realOutOfRange (text : Text)
  | notNumeral (text : Text)
  | suggested (suggestion : Suggestion)
  deriving DecidableEq, Repr

namespace Event

def level : Event → Level
  | .malformedReal _ | .realOutOfRange _ | .notNumeral _ => .trace
  | .suggested _ => .debug

def message : Event → Text
  | .malformedReal _ => "malformed real literal".toList
  | .realOutOfRange _ => "real literal digits out of range for its type".toList
  | .notNumeral _ => "not a numeric literal".toList
  | .suggested _ => "literal should use digit separators".toList

def fields : Event → List Field
  | .malformedReal text | .realOutOfRange text | .notNumeral text =>
    [⟨"text".toList, text, true⟩]
  | .suggested suggestion =>
    [⟨"original".toList, suggestion.written, true⟩,
      ⟨"replacement".toList, suggestion.replacement, true⟩,
      ⟨"base".toList, suggestion.base.name.toList, false⟩]

end Event

end NumeralStyle
