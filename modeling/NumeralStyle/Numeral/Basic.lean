import NumeralStyle.Base
import NumeralStyle.Numeral.Regions

/-!
# Numerals

A numeral is kept as it was written: its mark, its digits with their separators,
and its suffix, along with the base and whether it is an integer.
-/

namespace NumeralStyle

/-- A numeral, in the parts of which its text consists. -/
structure Numeral where
  base : Base
  mark : Text
  digits : Text
  suffix : Text
  isInteger : Bool
  deriving DecidableEq, Repr

namespace Numeral

def text (numeral : Numeral) : Text :=
  numeral.mark ++ numeral.digits ++ numeral.suffix

def scrubbedDigits (numeral : Numeral) : Text :=
  scrub numeral.digits

def hasSeparators (numeral : Numeral) : Bool :=
  numeral.digits.contains separator

def regions (numeral : Numeral) : Regions :=
  if numeral.isInteger then
    Regions.ofInteger numeral.scrubbedDigits
  else
    Regions.ofReal numeral.scrubbedDigits

/-- The number of digits on which grouping acts.  A decimal numeral counts the
longer of its integer and its fraction, and never the exponent; the other bases
count every digit. -/
def size (numeral : Numeral) : Nat :=
  match numeral.base with
  | .decimal => numeral.regions.size
  | .hexadecimal | .binary => numeral.scrubbedDigits.length

end Numeral

end NumeralStyle
