import NumeralStyle.Separator
import NumeralStyle.Text.Scientific

/-!
# Regions of the digits

The digits of a real numeral fall into an integer region, a fraction region after
the point, and an exponent with its marker and sign.  One splitting serves the
written digits, whose shape it decides, and the scrubbed digits, whose regions are
grouped and measured.  The main statements say that the regions make up the digits
that were split, and that splitting commutes with scrubbing.
-/

namespace NumeralStyle

/-- The regions of the digits of a numeral.  The fraction is absent when there is
no point; the exponent includes its marker and sign, and is empty when absent. -/
structure Regions where
  integer : Text
  fraction : Option Text
  exponent : Text
  deriving DecidableEq, Repr

namespace Regions

/-- The digits of an integer are one region, whatever letters occur in them. -/
def ofInteger (digits : Text) : Regions :=
  ⟨digits, none, []⟩

/-- What follows the first point of a mantissa, if there is a point. -/
def fractionOf (mantissa : Text) : Option Text :=
  match mantissa.dropWhile (· ≠ '.') with
  | [] => none
  | _ :: fraction => some fraction

/-- Split the digits of a real at the first exponent marker, and what stands in
front of it at the first point. -/
def ofReal (digits : Text) : Regions :=
  let mantissa := digits.takeWhile fun letter => !isExponentMarker letter
  { integer := mantissa.takeWhile (· ≠ '.')
    fraction := fractionOf mantissa
    exponent := digits.dropWhile fun letter => !isExponentMarker letter }

def mantissa (regions : Regions) : Text :=
  match regions.fraction with
  | none => regions.integer
  | some fraction => regions.integer ++ '.' :: fraction

def text (regions : Regions) : Text :=
  regions.mantissa ++ regions.exponent

def scrubbed (regions : Regions) : Regions :=
  ⟨scrub regions.integer, regions.fraction.map scrub, scrub regions.exponent⟩

/-- The number of digits in the longer of the integer and the fraction. -/
def size (regions : Regions) : Nat :=
  max regions.integer.length (regions.fraction.elim 0 List.length)

/-- Whether the mantissa has digits where it needs them: a point needs a fraction,
and without a point the integer may not be empty. -/
def hasMantissaShape (regions : Regions) : Bool :=
  match regions.fraction with
  | none => isDigitRun regions.integer
  | some fraction =>
    (regions.integer.isEmpty || isDigitRun regions.integer) && isDigitRun fraction

/-- Whether the exponent is absent, or a marker, at most one sign and a run of
digits. -/
def hasExponentShape (regions : Regions) : Bool :=
  match regions.exponent with
  | [] => true
  | _ :: power => isDigitRun (dropSign power)

def hasRealShape (regions : Regions) : Bool :=
  regions.hasMantissaShape && regions.hasExponentShape

theorem takeWhile_append_fractionOf (mantissa : Text) :
    (match fractionOf mantissa with
      | none => mantissa.takeWhile (· ≠ '.')
      | some fraction => mantissa.takeWhile (· ≠ '.') ++ '.' :: fraction) = mantissa := by
  have parts := List.takeWhile_append_dropWhile (p := (· ≠ '.')) (l := mantissa)
  have stopped := List.head?_dropWhile_not (· ≠ '.') mantissa
  unfold fractionOf
  cases following : mantissa.dropWhile (· ≠ '.') with
  | nil =>
      rw [following, List.append_nil] at parts
      exact parts
  | cons point fraction =>
      rw [following] at parts stopped
      have isPoint : point = '.' := by simpa using stopped
      rw [isPoint] at parts
      exact parts

/-- The regions make up the digits that were split. -/
@[simp]
theorem text_ofReal (digits : Text) : (ofReal digits).text = digits := by
  have whole :=
    List.takeWhile_append_dropWhile (p := fun letter => !isExponentMarker letter) (l := digits)
  have front := takeWhile_append_fractionOf
    (digits.takeWhile fun letter => !isExponentMarker letter)
  unfold text mantissa ofReal
  dsimp only
  rw [front, whole]

private theorem takeWhile_scrub
    (accept : Char → Bool) (text : Text) (passes : accept separator = true) :
    (scrub text).takeWhile accept = scrub (text.takeWhile accept) := by
  unfold scrub
  rw [List.takeWhile_filter]
  congr 2
  funext letter
  by_cases equality : letter = separator
  · simp [equality, passes]
  · simp [equality]

private theorem dropWhile_scrub
    (accept : Char → Bool) (text : Text) (passes : accept separator = true) :
    (scrub text).dropWhile accept = scrub (text.dropWhile accept) := by
  unfold scrub
  rw [List.dropWhile_filter]
  congr 2
  funext letter
  by_cases equality : letter = separator
  · simp [equality, passes]
  · simp [equality]

private theorem fractionOf_scrub (mantissa : Text) :
    fractionOf (scrub mantissa) = (fractionOf mantissa).map scrub := by
  have stopped := List.head?_dropWhile_not (· ≠ '.') mantissa
  unfold fractionOf
  rw [dropWhile_scrub _ mantissa (by decide)]
  cases following : mantissa.dropWhile (· ≠ '.') with
  | nil => rfl
  | cons point fraction =>
      rw [following] at stopped
      have isPoint : point = '.' := by simpa using stopped
      rw [isPoint]
      rfl

/-- The regions of scrubbed digits are the scrubbed regions of the digits. -/
theorem ofReal_scrub (digits : Text) :
    ofReal (scrub digits) = (ofReal digits).scrubbed := by
  have front :=
    takeWhile_scrub (fun letter => !isExponentMarker letter) digits (by decide)
  have back :=
    dropWhile_scrub (fun letter => !isExponentMarker letter) digits (by decide)
  unfold ofReal scrubbed
  dsimp only
  rw [front, back, takeWhile_scrub _ _ (by decide), fractionOf_scrub]

end Regions

end NumeralStyle
