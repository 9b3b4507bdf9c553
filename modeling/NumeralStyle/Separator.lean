import NumeralStyle.Text.Ranges

/-!
# Digit separators

Digits may be divided by separators, which carry no value.  Scrubbing a text
deletes them; a run of digits keeps them strictly inside.
-/

namespace NumeralStyle

def separator : Char := '_'

/-- Delete every separator. -/
def scrub (text : Text) : Text :=
  text.filter fun letter => letter ≠ separator

@[simp]
theorem scrub_append (left right : Text) :
    scrub (left ++ right) = scrub left ++ scrub right :=
  List.filter_append left right

theorem scrub_eq_self
    {text : Text} (unseparated : separator ∉ text) :
    scrub text = text := by
  refine List.filter_eq_self.2 fun letter member => ?_
  refine decide_eq_true fun equality => unseparated ?_
  exact equality ▸ member

theorem separator_not_mem_scrub (text : Text) :
    separator ∉ scrub text := by
  simp [scrub]

@[simp]
theorem scrub_scrub (text : Text) :
    scrub (scrub text) = scrub text :=
  scrub_eq_self (separator_not_mem_scrub text)

def isDigitOrSeparator (letter : Char) : Bool :=
  letter.isDigit || letter = separator

/-- Whether the text is a run of decimal digits: it begins and ends with a digit,
and only digits and separators stand between. -/
def isDigitRun (text : Text) : Bool :=
  text.head?.any Char.isDigit && text.getLast?.any Char.isDigit &&
    text.all isDigitOrSeparator

end NumeralStyle
