import NumeralStyle.Text.Unprintable
import NumeralStyle.Text.Combining

/-!
# Quoted text

A text in double quotes shows every character: quotes, backslashes and the common
controls have short escapes, and what is unprintable or combining is given by its
code point in hexadecimal between braces.
-/

namespace NumeralStyle.Text

/-- The escape that gives the code point of a character. -/
def codeEscape (letter : Char) : Text :=
  ['\\', 'u', '\x7b'] ++ Nat.toDigits 16 letter.toNat ++ ['\x7d']

def quoteLetter (letter : Char) : Text :=
  if letter = '"' then ['\\', '"']
  else if letter = '\\' then ['\\', '\\']
  else if letter = '\n' then ['\\', 'n']
  else if letter = '\r' then ['\\', 'r']
  else if letter = '\t' then ['\\', 't']
  else if letter = '\x00' then ['\\', '0']
  else if isCombining letter || isUnprintable letter then codeEscape letter
  else [letter]

def quote (text : Text) : Text :=
  '"' :: text.flatMap quoteLetter ++ ['"']

end NumeralStyle.Text
