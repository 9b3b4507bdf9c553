import NumeralStyle.Json.Basic
import NumeralStyle.Text.Scientific

/-!
# Reading JSON

The reader takes the standard grammar and nothing beyond it: blanks are the four
of that grammar, control characters in strings have to be escaped, and a value is
followed by blanks only.  A reader of a part answers what it read and the text that
is left.  The length of a text bounds both its nesting and the number of items in a
container, so one bound, computed from the text, serves both.
-/

namespace NumeralStyle.Json

def isBlank (letter : Char) : Bool :=
  letter = ' ' || letter = '\t' || letter = '\n' || letter = '\r'

def skipBlank (text : Text) : Text :=
  text.dropWhile isBlank

def hexValue? (letter : Char) : Option Nat :=
  if letter.isDigit then
    some (letter.toNat - '0'.toNat)
  else if 'a' ≤ letter ∧ letter ≤ 'f' then
    some (letter.toNat - 'a'.toNat + 10)
  else if 'A' ≤ letter ∧ letter ≤ 'F' then
    some (letter.toNat - 'A'.toNat + 10)
  else
    none

def unitValue? (first second third fourth : Char) : Option Nat := do
  let high ← hexValue? first
  let upper ← hexValue? second
  let lower ← hexValue? third
  let low ← hexValue? fourth
  return ((high * 16 + upper) * 16 + lower) * 16 + low

/-- The symbol for a unit of sixteen bits. -/
def Symbol.ofUnit (unit : Nat) : Symbol :=
  if isHighHalf unit || isLowHalf unit then .half unit else .letter (Char.ofNat unit)

def escaped? : Char → Option Char
  | '"' => some '"'
  | '\\' => some '\\'
  | '/' => some '/'
  | 'b' => some '\x08'
  | 'f' => some '\x0c'
  | 'n' => some '\n'
  | 'r' => some '\r'
  | 't' => some '\t'
  | _ => none

/-- Put a value in front of the values that were read. -/
def prepend {Value : Type} (value : Value) :
    Option (List Value × Text) → Option (List Value × Text)
  | none => none
  | some (values, rest) => some (value :: values, rest)

/-- Read the symbols of a string up to the closing quote, which is dropped. -/
def readSymbols? : Text → Option (List Symbol × Text)
  | [] => none
  | '"' :: rest => some ([], rest)
  | '\\' :: 'u' :: first :: second :: third :: fourth :: rest =>
    match unitValue? first second third fourth with
    | none => none
    | some unit => prepend (.ofUnit unit) (readSymbols? rest)
  | '\\' :: letter :: rest =>
    match escaped? letter with
    | none => none
    | some value => prepend (.letter value) (readSymbols? rest)
  | letter :: rest =>
    if letter.toNat < 0x20 then none else prepend (.letter letter) (readSymbols? rest)

def splitDigits (text : Text) : Text × Text :=
  (text.takeWhile Char.isDigit, text.dropWhile Char.isDigit)

def splitMinus : Text → Text × Text
  | '-' :: rest => (['-'], rest)
  | text => ([], text)

def splitSign : Text → Text × Text
  | '+' :: rest => (['+'], rest)
  | text => splitMinus text

/-- Split the integer of a number, which is a zero alone or begins with another
digit, from what follows it. -/
def splitInteger? (text : Text) : Option (Text × Text) :=
  let (digits, rest) := splitDigits text
  if digits = [] ∨ (digits.head? = some '0' ∧ digits ≠ ['0']) then none else some (digits, rest)

/-- Split an optional fraction, whose point needs digits, from what follows it. -/
def splitFraction? : Text → Option (Text × Text)
  | '.' :: rest =>
    let (digits, rest) := splitDigits rest
    if digits = [] then none else some ('.' :: digits, rest)
  | text => some ([], text)

/-- Split an optional exponent, whose marker needs digits, from what follows it. -/
def splitExponent? : Text → Option (Text × Text)
  | [] => some ([], [])
  | letter :: rest =>
    if isExponentMarker letter then
      let (sign, rest) := splitSign rest
      let (digits, rest) := splitDigits rest
      if digits = [] then none else some (letter :: sign ++ digits, rest)
    else
      some ([], letter :: rest)

/-- Read a number.  Without sign, fraction and exponent it is a natural. -/
def readNumber? (text : Text) : Option (Json × Text) := do
  let (sign, rest) := splitMinus text
  let (integer, rest) ← splitInteger? rest
  let (fraction, rest) ← splitFraction? rest
  let (exponent, rest) ← splitExponent? rest
  if sign = [] ∧ fraction = [] ∧ exponent = [] then
    return (.natural (Nat.ofDigitChars 10 integer 0), rest)
  else
    return (.number (sign ++ integer ++ fraction ++ exponent), rest)

/-- Read items divided by commas up to the closing character, which is dropped.
The bound exceeds the number of items. -/
def readSequence? {Item : Type} (readItem? : Text → Option (Item × Text)) (close : Char) :
    Nat → Text → Option (List Item × Text)
  | 0, _ => none
  | bound + 1, text =>
    match readItem? text with
    | none => none
    | some (item, rest) =>
      match skipBlank rest with
      | [] => none
      | letter :: rest =>
        if letter = ',' then
          prepend item (readSequence? readItem? close bound (skipBlank rest))
        else if letter = close then
          some ([item], rest)
        else
          none

def readItems? {Item : Type} (readItem? : Text → Option (Item × Text)) (close : Char)
    (bound : Nat) (text : Text) : Option (List Item × Text) :=
  match skipBlank text with
  | [] => none
  | letter :: rest =>
    if letter = close then
      some ([], rest)
    else
      readSequence? readItem? close bound (letter :: rest)

def readMember? (readItem? : Text → Option (Json × Text)) :
    Text → Option ((List Symbol × Json) × Text)
  | '"' :: rest =>
    match readSymbols? rest with
    | none => none
    | some (name, rest) =>
      match skipBlank rest with
      | ':' :: rest =>
        match readItem? (skipBlank rest) with
        | none => none
        | some (value, rest) => some ((name, value), rest)
      | _ => none
  | _ => none

/-- Read a value that starts the text.  The bound exceeds the length of the text,
and so the nesting of the value and the number of items in each container. -/
def readValue? : Nat → Text → Option (Json × Text)
  | 0, _ => none
  | bound + 1, text =>
    match text with
    | '"' :: rest => (readSymbols? rest).map fun (symbols, rest) => (.string symbols, rest)
    | '[' :: rest =>
      (readItems? (readValue? bound) ']' bound rest).map fun (items, rest) =>
        (.array items, rest)
    | '\x7b' :: rest =>
      (readItems? (readMember? (readValue? bound)) '\x7d' bound rest).map fun (members, rest) =>
        (.object members, rest)
    | 'n' :: 'u' :: 'l' :: 'l' :: rest => some (.null, rest)
    | 't' :: 'r' :: 'u' :: 'e' :: rest => some (.bool true, rest)
    | 'f' :: 'a' :: 'l' :: 's' :: 'e' :: rest => some (.bool false, rest)
    | _ => readNumber? text

def read? (text : Text) : Option Json :=
  match readValue? (text.length + 1) (skipBlank text) with
  | none => none
  | some (json, rest) => if skipBlank rest = [] then some json else none

end NumeralStyle.Json
