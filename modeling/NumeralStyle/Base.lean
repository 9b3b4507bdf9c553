import NumeralStyle.Text.Ranges

/-!
# Bases of numerals

A numeral is written in base ten, sixteen or two.  The last two bases announce
themselves by a mark, a zero and a letter of either case, in front of the digits.
-/

namespace NumeralStyle

inductive Base where
  | decimal
  | hexadecimal
  | binary
  deriving DecidableEq, Repr

namespace Base

/-- Every base, in the order in which they are tried and validated. -/
def all : List Base :=
  [.decimal, .hexadecimal, .binary]

theorem mem_all (base : Base) : base ∈ all := by
  cases base <;> decide

def name : Base → String
  | .decimal => "decimal"
  | .hexadecimal => "hexadecimal"
  | .binary => "binary"

/-- The lower-case letter after the zero of the mark; base ten has no mark. -/
def marker? : Base → Option Char
  | .decimal => none
  | .hexadecimal => some 'x'
  | .binary => some 'b'

def isDigit : Base → Char → Bool
  | .decimal, letter => letter.isDigit
  | .hexadecimal, letter =>
      letter.isDigit || ('a' ≤ letter && letter ≤ 'f') || ('A' ≤ letter && letter ≤ 'F')
  | .binary, letter => letter = '0' || letter = '1'

/-- Split the mark of the base from what follows it.  Base ten splits off the
empty mark, so that only the other bases can fail. -/
def splitMark? (base : Base) (text : Text) : Option (Text × Text) :=
  match base.marker? with
  | none => some ([], text)
  | some marker =>
    match text with
    | '0' :: letter :: rest =>
      if letter.toLower = marker then some (['0', letter], rest) else none
    | _ => none

theorem splitMark?_eq_some
    {base : Base} {text mark rest : Text}
    (split : base.splitMark? text = some (mark, rest)) :
    mark ++ rest = text := by
  unfold splitMark? at split
  split at split
  · cases split
    rfl
  · split at split
    · split at split
      · cases split
        rfl
      · cases split
    · cases split

end Base

end NumeralStyle
