import NumeralStyle.Text.Ranges

/-!
# JSON values

A JSON value is kept with everything that its text says: members stay in order and
may repeat a name, a number other than a natural keeps its text, and a string may
hold half of a surrogate pair, which an escape can write but which is no character.
-/

namespace NumeralStyle

/-- One unit of a JSON string. -/
inductive Json.Symbol where
  | letter (value : Char)
  /-- Half of a surrogate pair, by its number. -/
  | half (unit : Nat)
  deriving DecidableEq, Repr

inductive Json where
  | null
  | bool (value : Bool)
  | natural (value : Nat)
  /-- A number with a sign, a fraction or an exponent, as it was written. -/
  | number (written : Text)
  | string (symbols : List Json.Symbol)
  | array (items : List Json)
  | object (members : List (List Json.Symbol × Json))

namespace Json

def symbolsOf (text : Text) : List Symbol :=
  text.map .letter

def isHighHalf (unit : Nat) : Bool :=
  0xD800 ≤ unit && unit ≤ 0xDBFF

def isLowHalf (unit : Nat) : Bool :=
  0xDC00 ≤ unit && unit ≤ 0xDFFF

/-- The text that the symbols spell.  A first and a second half beside each other
make one character, and any other half makes none. -/
def textOf? : List Symbol → Option Text
  | [] => some []
  | .letter value :: rest => (textOf? rest).map (value :: ·)
  | .half high :: .half low :: rest =>
    if isHighHalf high && isLowHalf low then
      let code := 0x10000 + (high - 0xD800) * 0x400 + (low - 0xDC00)
      (textOf? rest).map (Char.ofNat code :: ·)
    else
      none
  | .half _ :: _ => none

@[simp]
theorem textOf?_symbolsOf (text : Text) :
    textOf? (symbolsOf text) = some text := by
  induction text with
  | nil => rfl
  | cons letter rest inductionHypothesis =>
      change (textOf? (symbolsOf rest)).map (letter :: ·) = some (letter :: rest)
      rw [inductionHypothesis]
      rfl

def ofText (text : Text) : Json :=
  .string (symbolsOf text)

/-- The text that a value holds, if it is a string of characters. -/
def text? : Json → Option Text
  | .string symbols => textOf? symbols
  | _ => none

/-- The number that a value is, if it is a natural below the bound. -/
def naturalBelow? (bound : Nat) : Json → Option Nat
  | .natural value => if value < bound then some value else none
  | _ => none

end Json

end NumeralStyle
