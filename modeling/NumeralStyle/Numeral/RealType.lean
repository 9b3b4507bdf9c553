import NumeralStyle.Numeral.Regions
import NumeralStyle.Decimal.Reading

/-!
# Types of real numerals

A letter behind the digits of a real says which type of number it denotes.  The
two binary types take every text of the usual floating-point grammar, since they
let values out of range become infinite or zero; the decimal type takes only what
fits its mantissa and scale.
-/

namespace NumeralStyle

inductive RealType where
  | single
  | double
  | decimal
  deriving DecidableEq, Repr

namespace RealType

def ofMarker? : Char → Option RealType
  | 'F' | 'f' => some .single
  | 'D' | 'd' => some .double
  | 'M' | 'm' => some .decimal
  | _ => none

def name : RealType → String
  | .single => "single"
  | .double => "double"
  | .decimal => "decimal"

/-- The lower-case names of the floating-point values that are not numbers with
digits. -/
def floatNames : List Text :=
  ["inf".toList, "infinity".toList, "nan".toList]

/-- Whether the regions are those of floating-point digits: any digits around at
most one point, but at least one, and an exponent with digits if any. -/
def isFloatDigits (regions : Regions) : Bool :=
  let fraction := regions.fraction.getD []
  regions.integer.all Char.isDigit && fraction.all Char.isDigit &&
    !(regions.integer.isEmpty && fraction.isEmpty) &&
    match regions.exponent with
    | [] => true
    | _ :: power => !(dropSign power).isEmpty && (dropSign power).all Char.isDigit

/-- Whether the text is in the floating-point grammar: at most one sign, then a
name in either case or digits with an optional point and exponent. -/
def isFloatText (text : Text) : Bool :=
  let unsigned := dropSign text
  floatNames.contains (unsigned.map Char.toLower) || isFloatDigits (Regions.ofReal unsigned)

/-- Whether digits without separators are a number of the type. -/
def accepts : RealType → Text → Bool
  | .single, digits => isFloatText digits
  | .double, digits => isFloatText digits
  | .decimal, digits => (Decimal.ofText? digits).isSome

end RealType

end NumeralStyle
