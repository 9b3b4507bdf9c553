/-!
# Texts and ranges of characters

A text is the list of its characters.  Properties of characters that a standard
gives as a table are closed ranges of code points, listed in ascending order, and
a character has the property when one of the ranges holds it.
-/

namespace NumeralStyle

/-- A text is the list of its characters. -/
abbrev Text := List Char

namespace Text

/-- A closed range of code points. -/
structure CodeRange where
  first : Nat
  last : Nat
  deriving DecidableEq, Repr

def CodeRange.contains (range : CodeRange) (letter : Char) : Bool :=
  range.first ≤ letter.toNat && letter.toNat ≤ range.last

def inRanges (ranges : List CodeRange) (letter : Char) : Bool :=
  ranges.any fun range => range.contains letter

end Text

end NumeralStyle
