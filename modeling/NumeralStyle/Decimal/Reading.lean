import NumeralStyle.Decimal.Shift
import NumeralStyle.Numeral.Regions

/-!
# Reading decimal numbers

A decimal number is read from a mantissa and an optional exponent.  The integer
digits have to fit the mantissa; fraction digits are taken while they fit, and the
first digit that does not fit rounds the number, a half upwards in magnitude.  The
exponent is a signed 32-bit number and shifts the point.
-/

namespace NumeralStyle.Decimal

/-- The value of the digits of a text, separators left out. -/
def digitsValue (text : Text) : Nat :=
  Nat.ofDigitChars 10 (scrub text) 0

/-- Take one more unit in the last place.  If the mantissa leaves its bounds, the
last fraction digit is given up, and without one there is no such number. -/
def roundUp? (coefficient scale : Nat) : Option (Nat × Nat) :=
  if coefficient + 1 < mantissaBound then
    some (coefficient + 1, scale)
  else if scale = 0 then
    none
  else
    some ((coefficient + 1 + 4) / 10, scale - 1)

/-- Coefficients below this bound, their last digit left out, are gathered in one
machine word.  It is a tenth of the largest word, less a byte. -/
def wordBound : Nat :=
  (UInt64.size - 1) / 10 - (UInt8.size - 1)

/-- Take fraction digits as long as the scale and the mantissa allow, and round by
the first digit that is left over.  Separators are passed over, except that one in
the place of that digit stands for a zero while the coefficient fits one word. -/
def takeFraction? (coefficient scale : Nat) : Text → Option (Nat × Nat)
  | [] => some (coefficient, scale)
  | letter :: rest =>
    if letter = separator then
      if scale = maxScale ∧ coefficient / 10 < wordBound then
        some (coefficient, scale)
      else
        takeFraction? coefficient scale rest
    else
      let digit := letter.toNat - '0'.toNat
      let extended := 10 * coefficient + digit
      if scale < maxScale ∧ extended < mantissaBound then
        takeFraction? extended (scale + 1) rest
      else if 5 ≤ digit then
        roundUp? coefficient scale
      else
        some (coefficient, scale)

/-- Read a mantissa without a sign: digits with at most one point, and separators
anywhere behind the first digit.  It stands for the reader of decimal numbers of 96 bits on
the texts that a real hands over, which are digits with at most one point, since they have
the shape of a real and are scrubbed.  On other texts such readers may differ: here every
character has to be a digit or a separator, also behind the digit that rounds, where
nothing depends on it any more. -/
def readMantissa? (text : Text) : Option (Nat × Nat) :=
  let integer := text.takeWhile (· ≠ '.')
  let fraction := (Regions.fractionOf text).getD []
  let digits := integer ++ fraction
  if !digits.head?.any Char.isDigit || !digits.all isDigitOrSeparator then
    none
  else if mantissaBound ≤ digitsValue integer then
    none
  else
    takeFraction? (digitsValue integer) 0 fraction

def applySign (text : Text) (magnitude : Nat) : Int :=
  if text.head? = some '-' then -(magnitude : Int) else magnitude

/-- Read a mantissa with an optional sign.  A leading point stands for a zero and
a point. -/
def readSigned? (text : Text) : Option Decimal :=
  let opened := if text.head? = some '.' then '0' :: text else text
  match readMantissa? (dropSign opened) with
  | none => none
  | some (coefficient, scale) => ofParts? (applySign opened coefficient) scale

/-- The magnitude of the lowest exponent, two to the power 31, which is one more than
the highest exponent. -/
def exponentBound : Int :=
  2147483648

/-- Read an exponent: an optional sign and digits, within 32 bits. -/
def readExponent? (text : Text) : Option Int :=
  let digits := dropSign text
  if digits.isEmpty || !digits.all Char.isDigit then
    none
  else
    let exponent := applySign text (digitsValue digits)
    if -exponentBound ≤ exponent ∧ exponent < exponentBound then some exponent else none

def shift (value : Decimal) (exponent : Int) : Option Decimal :=
  if exponent < 0 then
    some (value.shiftRight exponent.natAbs)
  else
    value.shiftLeft exponent.natAbs

def ofText? (digits : Text) : Option Decimal :=
  match readSigned? (digits.takeWhile fun letter => !isExponentMarker letter) with
  | none => none
  | some value =>
    match digits.dropWhile fun letter => !isExponentMarker letter with
    | [] => some value
    | _ :: power =>
      match readExponent? power with
      | none => none
      | some exponent => value.shift exponent

end NumeralStyle.Decimal
