import NumeralStyle.Proofs.Decimal.Reading
import NumeralStyle.Proofs.Numeral.Enclosure
import NumeralStyle.Proofs.Numeral.Lossless
import NumeralStyle.Proofs.Numeral.Places

/-!
# One split of the digits

The digits of a real are split three times: to check the shape of what is written, to
give the scrubbed digits their regions, and to read the value of the scrubbed digits.
Each split finds the exponent marker and the point on its own, as an index or as a
letter that both sides lose.  The main statement says that for every numeral that is
read the three agree, and that the regions are what they claim to be: digits of the
base, a fraction and an exponent only in reals, and at least one digit to count.
-/

namespace NumeralStyle

namespace Text

/-- Cut a text at the first letter of a kind, which belongs to neither part.  Without
such a letter there is no second part. -/
def cutOnce (cuts : Char → Bool) : Text → Text × Option Text
  | [] => ([], none)
  | letter :: rest =>
    if cuts letter then
      ([], some rest)
    else
      (letter :: (cutOnce cuts rest).1, (cutOnce cuts rest).2)

/-- Cut a text by the index of the first letter of a kind, in front of that letter. -/
def cutBefore (cuts : Char → Bool) (text : Text) : Text × Text :=
  match text.findIdx? cuts with
  | none => (text, [])
  | some index => (text.take index, text.drop index)

variable {cuts : Char → Bool} {text : Text}

theorem cutOnce_eq :
    cutOnce cuts text =
      (text.takeWhile fun letter => !cuts letter,
        (text.dropWhile fun letter => !cuts letter).tail?) := by
  induction text with
  | nil => rfl
  | cons letter rest inductionHypothesis =>
      rw [cutOnce, List.takeWhile_cons, List.dropWhile_cons, inductionHypothesis]
      cases cuts letter with
      | true => rfl
      | false => rfl

theorem cutBefore_eq :
    cutBefore cuts text =
      (text.takeWhile fun letter => !cuts letter, text.dropWhile fun letter => !cuts letter) := by
  rw [cutBefore]
  cases found : text.findIdx? cuts with
  | none =>
      have uncut : ∀ letter ∈ text, (!cuts letter) = true := by
        intro letter member
        rw [List.findIdx?_eq_none_iff.1 found letter member]
        rfl
      rw [List.takeWhile_eq_self_iff.2 uncut, List.dropWhile_eq_nil_iff.2 uncut]
  | some index =>
      obtain ⟨-, rfl⟩ := List.findIdx?_eq_some_iff_findIdx_eq.1 found
      simp only [List.takeWhile_eq_take_findIdx_not, List.dropWhile_eq_drop_findIdx_not,
        Bool.not_not]

end Text

open Text

/-! ## The split that checks the shape -/

/-- Digits as they are checked, without point and marker.  A sign still opens the
power. -/
structure Runs where
  integer : Text
  fraction : Option Text
  power : Option Text
  deriving DecidableEq, Repr

namespace Runs

def ofDigits (digits : Text) : Runs :=
  let parts := cutOnce isExponentMarker digits
  let mantissa := cutOnce (· = '.') parts.1
  ⟨mantissa.1, mantissa.2, parts.2⟩

def hasRealShape (runs : Runs) : Bool :=
  (runs.power.all fun power => isDigitRun (dropSign power)) &&
    match runs.fraction with
    | none => isDigitRun runs.integer
    | some fraction => (runs.integer.isEmpty || isDigitRun runs.integer) && isDigitRun fraction

def scrubbed (runs : Runs) : Runs :=
  ⟨scrub runs.integer, runs.fraction.map scrub, runs.power.map scrub⟩

end Runs

/-! ## The split into regions by index -/

def Regions.byIndex (digits : Text) : Regions :=
  let parts := cutBefore isExponentMarker digits
  let mantissa := cutOnce (· = '.') parts.1
  ⟨mantissa.1, mantissa.2, parts.2⟩

/-! ## The split that reads the value -/

/-- Read a decimal number from its mantissa and from what follows the exponent marker, if
there is one. -/
def Decimal.ofMantissa? (mantissa : Text) (power : Option Text) : Option Decimal :=
  (readSigned? mantissa).bind fun value =>
    match power with
    | none => some value
    | some power => (readExponent? power).bind value.shift

def Decimal.ofDigits? (digits : Text) : Option Decimal :=
  let parts := cutOnce isExponentMarker digits
  ofMantissa? parts.1 parts.2

/-! ## The splits agree -/

namespace Regions

/-- The regions without the exponent marker. -/
def runs (regions : Regions) : Runs :=
  ⟨regions.integer, regions.fraction, regions.exponent.tail?⟩

variable {regions : Regions} {digits : Text}

theorem cutOnce_point (mantissa : Text) :
    cutOnce (· = '.') mantissa = (mantissa.takeWhile (· ≠ '.'), fractionOf mantissa) := by
  have same : (fun letter => !decide (letter = '.')) = fun letter => decide (letter ≠ '.') :=
    funext fun letter => decide_not.symm
  rw [cutOnce_eq, same, fractionOf]
  cases mantissa.dropWhile (· ≠ '.') with
  | nil => rfl
  | cons point fraction => rfl

theorem mantissa_ofReal :
    (ofReal digits).mantissa = digits.takeWhile fun letter => !isExponentMarker letter :=
  takeWhile_append_fractionOf _

theorem cutOnce_exponentMarker :
    cutOnce isExponentMarker digits =
      ((ofReal digits).mantissa, (ofReal digits).exponent.tail?) := by
  rw [cutOnce_eq, mantissa_ofReal]
  rfl

theorem runs_ofReal : (ofReal digits).runs = Runs.ofDigits digits := by
  rw [Runs.ofDigits, cutOnce_exponentMarker, cutOnce_point, mantissa_ofReal]
  rfl

theorem byIndex_eq : byIndex digits = ofReal digits := by
  rw [byIndex, cutBefore_eq, cutOnce_point]
  rfl

theorem hasRealShape_runs : regions.runs.hasRealShape = regions.hasRealShape := by
  rw [Runs.hasRealShape, hasRealShape, Bool.and_comm]
  congr 1
  rw [hasExponentShape, runs]
  cases regions.exponent with
  | nil => rfl
  | cons marker power => rfl

/-- The marker is no separator, so that it makes no difference whether it is dropped
before or after the separators. -/
theorem runs_scrubbed (marked : ∀ letter ∈ regions.exponent.head?, isExponentMarker letter = true) :
    regions.scrubbed.runs = regions.runs.scrubbed := by
  have power : (scrub regions.exponent).tail? = regions.exponent.tail?.map scrub := by
    cases shape : regions.exponent with
    | nil => rfl
    | cons marker power =>
        rw [shape] at marked
        have different : marker ≠ separator := by
          intro same
          have isMarker := marked marker rfl
          rw [same] at isMarker
          cases isMarker
        rw [scrub_cons_of_ne different]
        rfl
  rw [runs, scrubbed, power]
  rfl

end Regions

theorem Decimal.ofText?_eq (digits : Text) : ofText? digits = ofDigits? digits := by
  rw [ofText?, ofDigits?, cutOnce_eq, ofMantissa?]
  cases readSigned? (digits.takeWhile fun letter => !isExponentMarker letter) with
  | none => rfl
  | some value =>
      cases digits.dropWhile fun letter => !isExponentMarker letter with
      | nil => rfl
      | cons marker power =>
          dsimp only [List.tail?_cons, Option.bind_some]
          cases readExponent? power with
          | none => rfl
          | some exponent => rfl

/-! ## Exact regions -/

namespace Numeral

/-- The regions of a real are the scrubbed images of the runs that were checked, and the
parts from which its value is read. -/
structure RealSplit (numeral : Numeral) : Prop where
  checked : (Runs.ofDigits numeral.digits).hasRealShape = true
  runs : numeral.regions.runs = (Runs.ofDigits numeral.digits).scrubbed
  byIndex : numeral.regions = Regions.byIndex numeral.scrubbedDigits
  mantissa : (cutOnce isExponentMarker numeral.scrubbedDigits).1 = numeral.regions.mantissa
  power : (cutOnce isExponentMarker numeral.scrubbedDigits).2 = numeral.regions.exponent.tail?
  value : Decimal.ofText? numeral.scrubbedDigits =
    Decimal.ofMantissa? numeral.regions.mantissa numeral.regions.exponent.tail?

/-- The regions make up the digits, and each consists of what it should. -/
structure ExactRegions (numeral : Numeral) : Prop where
  whole : numeral.regions.integer ++ numeral.regions.fraction.elim [] ('.' :: ·) ++
    numeral.regions.exponent = numeral.scrubbedDigits
  integer : ∀ letter ∈ numeral.regions.integer, numeral.base.isDigit letter = true
  fraction : ∀ fraction ∈ numeral.regions.fraction,
    fraction ≠ [] ∧ ∀ letter ∈ fraction, letter.isDigit = true
  exponent : numeral.regions.exponent = [] ∨
    ∃ marker sign power, numeral.regions.exponent = marker :: (sign ++ power) ∧
      marker ∈ ['e', 'E'] ∧ sign ∈ [[], ['+'], ['-']] ∧
        power ≠ [] ∧ ∀ letter ∈ power, letter.isDigit = true
  nonempty : numeral.regions.integer ≠ [] ∨ numeral.regions.fraction.getD [] ≠ []
  ofInteger : numeral.isInteger = true →
    numeral.regions.fraction = none ∧ numeral.regions.exponent = []
  ofReal : numeral.isInteger = false →
    numeral.regions.fraction ≠ none ∨ numeral.regions.exponent ≠ [] ∨
      ∃ letter type, numeral.suffix = [letter] ∧ RealType.ofMarker? letter = some type
  realSplit : numeral.isInteger = false → numeral.RealSplit
  size_pos : 1 ≤ numeral.size
  size_le : numeral.size ≤ numeral.scrubbedDigits.length

variable {numeral : Numeral}

/-- The parts of the regions are written one behind the other. -/
theorem regions_append (numeral : Numeral) :
    numeral.regions.integer ++ numeral.regions.fraction.elim [] ('.' :: ·) ++
      numeral.regions.exponent = numeral.scrubbedDigits := by
  rw [← numeral.regions_text, Regions.text, Regions.mantissa]
  cases numeral.regions.fraction with
  | none => rw [Option.elim_none, List.append_nil]
  | some fraction => rw [Option.elim_some]

/-! ### Integers are one region -/

theorem IntegerForm.exactRegions (form : numeral.IntegerForm) : numeral.ExactRegions where
  whole := numeral.regions_append
  integer := by
    rw [form.regions_eq]
    exact WellFormed.isDigit_of_mem_scrubbedDigits (Or.inl form) form.isInteger
  fraction := by
    rw [form.regions_eq]
    exact nofun
  exponent := by
    rw [form.regions_eq]
    exact Or.inl rfl
  nonempty := by
    rw [form.regions_eq]
    exact Or.inl form.scrubbedDigits_ne_nil
  ofInteger := by
    rw [form.regions_eq]
    exact fun _ => ⟨rfl, rfl⟩
  ofReal := by
    rw [form.isInteger]
    exact nofun
  realSplit := by
    rw [form.isInteger]
    exact nofun
  size_pos := by
    rw [form.size_eq]
    exact List.length_pos_iff.2 form.scrubbedDigits_ne_nil
  size_le := form.size_eq.le

/-! ### Reals are split at marker and point -/

theorem RealForm.regions_eq (form : numeral.RealForm) :
    numeral.regions = Regions.ofReal numeral.scrubbedDigits := by
  rw [regions, form.isInteger]
  rfl

theorem RealForm.realSplit (form : numeral.RealForm) : numeral.RealSplit where
  checked := by
    rw [← Regions.runs_ofReal, Regions.hasRealShape_runs]
    exact Regions.isReal_ofReal_iff.1 form.digits
  runs := by
    rw [form.regions_eq, scrubbedDigits, Regions.ofReal_scrub, ← Regions.runs_ofReal]
    exact Regions.runs_scrubbed fun letter => Regions.isExponentMarker_of_head?_exponent
  byIndex := by
    rw [form.regions_eq, Regions.byIndex_eq]
  mantissa := by
    rw [form.regions_eq, Regions.cutOnce_exponentMarker]
  power := by
    rw [form.regions_eq, Regions.cutOnce_exponentMarker]
  value := by
    rw [form.regions_eq, Decimal.ofText?_eq, Decimal.ofDigits?, Regions.cutOnce_exponentMarker]

theorem isDigit_of_isDigitRun
    {run : Text} (shape : isDigitRun run = true) (unseparated : separator ∉ run) :
    ∀ letter ∈ run, letter.isDigit = true := by
  intro letter member
  apply isDigit_of_isDigitOrSeparator ((isDigitRun_iff.1 shape).2.2 letter member)
  intro same
  exact unseparated (same ▸ member)

/-- A real that is no bare run of digits shows it by a point, a marker or its type. -/
theorem RealForm.shows_of_not_isBare (form : numeral.RealForm) (notBare : ¬ numeral.IsBare) :
    numeral.regions.fraction ≠ none ∨ numeral.regions.exponent ≠ [] ∨
      ∃ letter type, numeral.suffix = [letter] ∧ RealType.ofMarker? letter = some type := by
  by_contra hidden
  simp only [not_or, not_exists, not_and, ne_eq, not_not] at hidden
  obtain ⟨pointless, powerless, untyped⟩ := hidden
  obtain ⟨type, marked, -⟩ := form.suffix
  have noSuffix : numeral.suffix = [] := by
    cases shape : numeral.suffix with
    | nil => rfl
    | cons letter rest =>
        rw [shape] at marked
        cases rest with
        | nil => exact absurd marked (untyped letter type shape)
        | cons other rest => cases marked
  have wholeRun : isDigitRun numeral.scrubbedDigits = true := by
    have whole := numeral.regions_text
    rw [Regions.text, Regions.mantissa, pointless, powerless, List.append_nil] at whole
    rcases Regions.hasMantissaShape_iff.1 form.isReal_regions.mantissa with
      ⟨-, integer⟩ | ⟨fraction, present, -⟩
    · rwa [← whole]
    · rw [pointless] at present
      cases present
  exact notBare ⟨noSuffix, isDigitRun_of_scrub form.digits wholeRun⟩

theorem separator_not_mem_regions (numeral : Numeral) :
    separator ∉ numeral.regions.mantissa ∧ separator ∉ numeral.regions.exponent := by
  have unseparated := separator_not_mem_regions_text numeral
  rwa [Regions.text, List.mem_append, not_or] at unseparated

theorem RealForm.integer_digits (form : numeral.RealForm) :
    ∀ letter ∈ numeral.regions.integer, letter.isDigit = true :=
  (Decimal.isDigit_of_mem_mantissa form.isReal_regions.mantissa
    numeral.separator_not_mem_regions.1).1

theorem RealForm.fraction_digits (form : numeral.RealForm) :
    ∀ fraction ∈ numeral.regions.fraction,
      fraction ≠ [] ∧ ∀ letter ∈ fraction, letter.isDigit = true := by
  have digits := (Decimal.isDigit_of_mem_mantissa form.isReal_regions.mantissa
    numeral.separator_not_mem_regions.1).2
  intro fraction present
  rw [Option.mem_def] at present
  rw [present, Option.getD_some] at digits
  refine ⟨?_, digits⟩
  rcases Regions.hasMantissaShape_iff.1 form.isReal_regions.mantissa with
    ⟨absent, -⟩ | ⟨other, same, -, run⟩
  · rw [absent] at present
    cases present
  · rw [same, Option.some.injEq] at present
    exact present ▸ ne_nil_of_isDigitRun run

theorem RealForm.exponent_digits (form : numeral.RealForm) :
    numeral.regions.exponent = [] ∨
      ∃ marker sign power, numeral.regions.exponent = marker :: (sign ++ power) ∧
        marker ∈ ['e', 'E'] ∧ sign ∈ signs ∧
          power ≠ [] ∧ ∀ letter ∈ power, letter.isDigit = true := by
  rcases form.isReal_regions.exponent with
    absent | ⟨marker, sign, power, marked, isSign, isRun, present⟩
  · exact Or.inl absent
  · have inPower : separator ∉ power := by
      intro member
      have unseparated := numeral.separator_not_mem_regions.2
      rw [present] at unseparated
      exact unseparated (List.mem_cons_of_mem marker (List.mem_append_right sign member))
    have isMarker : marker ∈ ['e', 'E'] := by
      simpa only [isExponentMarker, Bool.or_eq_true, decide_eq_true_eq, List.mem_cons,
        List.not_mem_nil, or_false] using marked
    exact Or.inr ⟨marker, sign, power, present, isMarker, isSign, ne_nil_of_isDigitRun isRun,
      isDigit_of_isDigitRun isRun inPower⟩

theorem RealForm.mantissa_nonempty (form : numeral.RealForm) :
    numeral.regions.integer ≠ [] ∨ numeral.regions.fraction.getD [] ≠ [] := by
  rcases Regions.hasMantissaShape_iff.1 form.isReal_regions.mantissa with
    ⟨-, integer⟩ | ⟨fraction, present, -, run⟩
  · exact Or.inl (ne_nil_of_isDigitRun integer)
  · rw [present, Option.getD_some]
    exact Or.inr (ne_nil_of_isDigitRun run)

theorem size_regions_le (numeral : Numeral) :
    numeral.regions.size ≤ numeral.scrubbedDigits.length := by
  rw [← regions_append, Regions.size]
  cases numeral.regions.fraction with
  | none =>
      simp only [Option.elim_none, List.append_nil, List.length_append]
      omega
  | some fraction =>
      simp only [Option.elim_some, List.length_append, List.length_cons]
      omega

theorem RealForm.size_pos (form : numeral.RealForm) : 1 ≤ numeral.size := by
  rw [size_of_base_eq_decimal form.base, Regions.size]
  rcases form.mantissa_nonempty with integer | fraction
  · exact le_max_of_le_left (List.length_pos_iff.2 integer)
  · apply le_max_of_le_right
    cases present : numeral.regions.fraction with
    | none =>
        rw [present] at fraction
        exact absurd rfl fraction
    | some digits =>
        rw [present] at fraction
        exact List.length_pos_iff.2 fraction

theorem RealForm.exactRegions (form : numeral.RealForm) (notBare : ¬ numeral.IsBare) :
    numeral.ExactRegions where
  whole := numeral.regions_append
  integer := by
    rw [form.base]
    exact form.integer_digits
  fraction := form.fraction_digits
  exponent := form.exponent_digits
  nonempty := form.mantissa_nonempty
  ofInteger := by
    rw [form.isInteger]
    exact nofun
  ofReal := fun _ => form.shows_of_not_isBare notBare
  realSplit := fun _ => form.realSplit
  size_pos := form.size_pos
  size_le := by
    rw [size_of_base_eq_decimal form.base]
    exact numeral.size_regions_le

/-- The regions of every numeral that is read are exact. -/
theorem exactRegions_of_parse? {text : Text} (reading : parse? text = some numeral) :
    numeral.ExactRegions := by
  cases (parse?_eq_some_iff.1 reading).1 with
  | inl integer => exact integer.exactRegions
  | inr real => exact real.1.exactRegions real.2

theorem exactRegions_of_parse?_scientific :
    parse? "1_234.567_8E+9".toList = some ⟨.decimal, [], "1_234.567_8E+9".toList, [], false⟩ ∧
      ExactRegions ⟨.decimal, [], "1_234.567_8E+9".toList, [], false⟩ :=
  ⟨rfl, @exactRegions_of_parse? _ "1_234.567_8E+9".toList rfl⟩

end Numeral

end NumeralStyle
