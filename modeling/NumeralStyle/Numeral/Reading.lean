import NumeralStyle.Numeral.Basic
import NumeralStyle.Numeral.RealType
import NumeralStyle.Text.Blank

/-!
# Reading numerals

A text is trimmed and then read as an integer of each base in turn, and at last as
a real.  An integer is an optional mark, digits with separators, and an optional
suffix that says unsigned, long or both.  A real is decimal: an optional point, an
optional exponent and an optional type marker, with separators only inside runs of
digits.  The main statement says that a numeral spells the trimmed text from which it
was read.
-/

namespace NumeralStyle

inductive Rejection where
  | blank
  /-- The text is the marker of a real type and nothing else. -/
  | bareMarker
  /-- The text has the shape neither of an integer nor of a real. -/
  | malformed
  /-- The text has the shape of a real whose digits do not fit its type. -/
  | outOfRange
  deriving DecidableEq, Repr

def Rejection.message (_ : Rejection) : String :=
  "not a numeric literal"

namespace Numeral

def isUnsignedMarker (letter : Char) : Bool :=
  letter = 'u' || letter = 'U'

def isLongMarker (letter : Char) : Bool :=
  letter = 'l' || letter = 'L'

/-- Whether the text is a suffix of integers: at most one marker of each kind, in
either order. -/
def isIntegerSuffix : Text → Bool
  | [] => true
  | [letter] => isUnsignedMarker letter || isLongMarker letter
  | [left, right] =>
    (isUnsignedMarker left && isLongMarker right) ||
      (isLongMarker left && isUnsignedMarker right)
  | _ => false

def isIntegerDigit (base : Base) (letter : Char) : Bool :=
  letter = separator || base.isDigit letter

/-- Read an integer of the given base.  A separator may follow the mark, but it
opens no numeral and ends no digits. -/
def integer? (base : Base) (text : Text) : Option Numeral :=
  match base.splitMark? text with
  | none => none
  | some (mark, rest) =>
    let digits := rest.takeWhile (isIntegerDigit base)
    let suffix := rest.dropWhile (isIntegerDigit base)
    if digits ≠ [] ∧ text.head? ≠ some separator ∧ digits.getLast? ≠ some separator ∧
        isIntegerSuffix suffix then
      some ⟨base, mark, digits, suffix, true⟩
    else
      none

/-- Split the type marker off the end of a real, along with the type for which it
stands.  A real without a marker is of double precision. -/
def splitMarker (text : Text) : Text × Text × RealType :=
  match text.getLast? with
  | none => (text, [], .double)
  | some letter =>
    match RealType.ofMarker? letter with
    | none => (text, [], .double)
    | some type => (text.dropLast, [letter], type)

def real (text : Text) : Except Rejection Numeral :=
  let (digits, marker, type) := splitMarker text
  if digits = [] then
    .error .bareMarker
  else if !(Regions.ofReal digits).hasRealShape then
    .error .malformed
  else if !type.accepts (scrub digits) then
    .error .outOfRange
  else
    .ok ⟨.decimal, [], digits, marker, false⟩

/-- Read a numeral from a text, whose blank ends are trimmed. -/
def read (text : Text) : Except Rejection Numeral :=
  let trimmed := Text.trim text
  if trimmed = [] then
    .error .blank
  else
    match Base.all.findSome? fun base => integer? base trimmed with
    | some numeral => .ok numeral
    | none => real trimmed

/-- The numeral that a text spells, if there is one. -/
def parse? (text : Text) : Option Numeral :=
  (read text).toOption

theorem text_of_integer?
    {base : Base} {text : Text} {numeral : Numeral}
    (reading : integer? base text = some numeral) :
    numeral.text = text := by
  unfold integer? at reading
  split at reading
  · cases reading
  · rename_i mark rest split
    dsimp only at reading
    split at reading
    · cases reading
      unfold Numeral.text
      rw [List.append_assoc, List.takeWhile_append_dropWhile]
      exact Base.splitMark?_eq_some split
    · cases reading

theorem splitMarker_append (text : Text) :
    (splitMarker text).1 ++ (splitMarker text).2.1 = text := by
  unfold splitMarker
  split
  · exact List.append_nil text
  · rename_i letter last
    split
    · exact List.append_nil text
    · obtain ⟨front, shape⟩ := List.getLast?_eq_some_iff.1 last
      rw [shape, List.dropLast_concat]

theorem text_of_real
    {text : Text} {numeral : Numeral}
    (reading : real text = .ok numeral) :
    numeral.text = text := by
  have whole := splitMarker_append text
  unfold real at reading
  dsimp only at reading
  split at reading
  · cases reading
  · split at reading
    · cases reading
    · split at reading
      · cases reading
      · cases reading
        exact whole

/-- A numeral that is read spells the trimmed text. -/
theorem text_of_read
    {text : Text} {numeral : Numeral}
    (reading : read text = .ok numeral) :
    numeral.text = Text.trim text := by
  unfold read at reading
  dsimp only at reading
  split at reading
  · cases reading
  · split at reading
    · rename_i found
      cases reading
      obtain ⟨base, _, parsed⟩ := List.exists_of_findSome?_eq_some found
      exact text_of_integer? parsed
    · exact text_of_real reading

end Numeral

end NumeralStyle
