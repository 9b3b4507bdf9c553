import NumeralStyle.Text.Ranges

/-!
# Letters and signs of scientific notation

A number in scientific notation has an exponent behind a marker of either case,
and a sign may open the number or its exponent.
-/

namespace NumeralStyle

def isExponentMarker (letter : Char) : Bool :=
  letter = 'e' || letter = 'E'

/-- Drop one leading sign. -/
def dropSign : Text → Text
  | '+' :: rest => rest
  | '-' :: rest => rest
  | text => text

end NumeralStyle
