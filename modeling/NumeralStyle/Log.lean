import NumeralStyle.Reporting
import NumeralStyle.Text.Quoted

/-!
# Logs

A log writes events of its level and of more severe levels, each on a line: the
level, the message and the fields.  The level is installed once; every further
attempt fails and changes nothing.
-/

namespace NumeralStyle

def Event.Field.render (field : Event.Field) : Text :=
  field.name ++ '=' :: (if field.isQuoted then Text.quote field.value else field.value)

/-- The line of an event as far as the event decides it.  The time that opens a line and
the colours in which its parts are shown are left out: they depend on the moment and on the
terminal. -/
def Event.line (event : Event) : Text :=
  event.level.name ++ ' ' :: event.message ++
    event.fields.flatMap fun field => ' ' :: field.render

/-- A log, with its level once that is installed. -/
structure Log where
  level? : Option Level := none
  deriving DecidableEq, Repr

namespace Log

/-- Install a level.  The answer tells whether the log had none before. -/
def install (log : Log) (level : Level) : Bool × Log :=
  match log.level? with
  | none => (true, ⟨some level⟩)
  | some _ => (false, log)

def installAll (log : Log) : List Level → List Bool × Log
  | [] => ([], log)
  | level :: levels =>
    let (installed, next) := log.install level
    let (others, last) := next.installAll levels
    (installed :: others, last)

def admits (log : Log) (event : Event) : Bool :=
  log.level?.any fun level => event.level.rank ≤ level.rank

def lines (log : Log) (events : List Event) : List Text :=
  (events.filter log.admits).map Event.line

def linesFor (log : Log) (check : Check) (texts : List Text) : List Text :=
  log.lines (texts.flatMap check.events)

end Log

end NumeralStyle
