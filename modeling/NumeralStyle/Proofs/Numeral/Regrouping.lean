import NumeralStyle.Proofs.Numeral.Grouper
import NumeralStyle.Proofs.Numeral.WellFormed

/-!
# Regrouping and reading again

Grouping puts separators in front of some digits and touches nothing else.  Hence
grouped digits keep the shape that they had, a grouped numeral is well-formed again,
and it has the regions of the numeral that was grouped.  The main statement follows
a whole chain of grouping and reading: no text of it is rejected, no numeral of it
has other parts than the first, and each text is the one that the first numeral would
give at that group size.
-/

namespace NumeralStyle

/-! ## Dividing a run -/

/-- The second text is the first with a separator in front of some characters. -/
inductive Divides : Text → Text → Prop
  | nil : Divides [] []
  | keep (letter : Char) {run divided : Text} :
      Divides run divided →
      Divides (letter :: run) (letter :: divided)
  | separate (letter : Char) {run divided : Text} :
      Divides run divided →
      Divides (letter :: run) (separator :: letter :: divided)

namespace Divides

variable {run divided : Text}

theorem scrub_eq (divides : Divides run divided) : scrub divided = scrub run := by
  induction divides with
  | nil => rfl
  | keep letter _ inductionHypothesis =>
      simp only [scrub, List.filter_cons] at inductionHypothesis ⊢
      rw [inductionHypothesis]
  | separate letter _ inductionHypothesis =>
      have dropped : decide (separator ≠ separator) = false := by decide
      simp only [scrub, List.filter_cons, dropped] at inductionHypothesis ⊢
      rw [inductionHypothesis]
      rfl

theorem getLast?_eq (divides : Divides run divided) : divided.getLast? = run.getLast? := by
  induction divides with
  | nil => rfl
  | keep letter _ inductionHypothesis =>
      rw [List.getLast?_cons, List.getLast?_cons, inductionHypothesis]
  | separate letter _ inductionHypothesis =>
      rw [List.getLast?_cons, List.getLast?_cons, List.getLast?_cons, inductionHypothesis]
      rfl

theorem mem (divides : Divides run divided) :
    ∀ letter ∈ divided, letter = separator ∨ letter ∈ run := by
  induction divides with
  | nil =>
      intro letter member
      cases member
  | keep first _ inductionHypothesis =>
      intro letter member
      rcases List.mem_cons.1 member with rfl | later
      · exact Or.inr List.mem_cons_self
      · exact (inductionHypothesis letter later).imp_right (List.mem_cons_of_mem first)
  | separate first _ inductionHypothesis =>
      intro letter member
      rcases List.mem_cons.1 member with rfl | inRest
      · exact Or.inl rfl
      · rcases List.mem_cons.1 inRest with rfl | later
        · exact Or.inr List.mem_cons_self
        · exact (inductionHypothesis letter later).imp_right (List.mem_cons_of_mem first)

theorem eq_nil_iff (divides : Divides run divided) : divided = [] ↔ run = [] := by
  cases divides <;> simp

/-- A run of digits that is divided inside remains one. -/
theorem isDigitRun (divides : Divides run divided)
    (opening : divided.head? = run.head?) (shape : isDigitRun run = true) :
    isDigitRun divided = true := by
  rw [isDigitRun_iff] at shape ⊢
  obtain ⟨first, last, accepted⟩ := shape
  rw [opening, divides.getLast?_eq]
  refine ⟨first, last, ?_⟩
  intro letter member
  rcases divides.mem letter member with rfl | original
  · rfl
  · exact accepted letter original

end Divides

theorem divides_groupFromRight (groupSize : Nat) (run : Text) :
    Divides run (groupFromRight groupSize run) := by
  induction run with
  | nil => exact Divides.nil
  | cons digit rest inductionHypothesis =>
      unfold groupFromRight
      split
      · exact Divides.separate digit inductionHypothesis
      · exact Divides.keep digit inductionHypothesis

theorem divides_groupInteger (groupSize : Nat) (marked : Bool) (run : Text) :
    Divides run (groupInteger groupSize marked run) := by
  cases run with
  | nil => exact Divides.nil
  | cons digit rest =>
      cases marked with
      | true => exact divides_groupFromRight groupSize (digit :: rest)
      | false => exact Divides.keep digit (divides_groupFromRight groupSize rest)

theorem divides_groupFromLeft (groupSize preceding : Nat) (run : Text) :
    Divides run (groupFromLeft groupSize preceding run) := by
  induction run generalizing preceding with
  | nil => exact Divides.nil
  | cons digit rest inductionHypothesis =>
      unfold groupFromLeft
      split
      · exact Divides.separate digit (inductionHypothesis (preceding + 1))
      · exact Divides.keep digit (inductionHypothesis (preceding + 1))

/-- Without a mark no separator opens an integer. -/
theorem head?_groupInteger (groupSize : Nat) (run : Text) :
    (groupInteger groupSize false run).head? = run.head? := by
  cases run <;> rfl

theorem head?_groupFromLeft (groupSize : Nat) (run : Text) :
    (groupFromLeft groupSize 0 run).head? = run.head? := by
  cases run <;> rfl

namespace Regions

variable {regions : Regions}

theorem scrub_text (regions : Regions) : scrub regions.text = regions.scrubbed.text := by
  have point : scrub ['.'] = ['.'] := rfl
  unfold text mantissa scrubbed
  cases regions.fraction with
  | none => exact scrub_append _ _
  | some fraction =>
      simp only [Option.map_some, ← List.singleton_append (l := fraction), scrub_append, point]
      rfl

/-- Grouping adds nothing but separators. -/
theorem scrubbed_grouped (groupSize : Nat) (marked : Bool) (regions : Regions) :
    (regions.grouped groupSize marked).scrubbed = regions.scrubbed := by
  unfold scrubbed grouped
  dsimp only
  rw [(divides_groupInteger groupSize marked regions.integer).scrub_eq]
  cases regions.fraction with
  | none => rfl
  | some fraction =>
      dsimp only [Option.map_some]
      rw [(divides_groupFromLeft groupSize 0 fraction).scrub_eq]

theorem hasMantissaShape_grouped
    (groupSize : Nat) (shape : regions.hasMantissaShape = true) :
    (regions.grouped groupSize false).hasMantissaShape = true := by
  have integer : isDigitRun regions.integer = true →
      isDigitRun (groupInteger groupSize false regions.integer) = true :=
    (divides_groupInteger groupSize false regions.integer).isDigitRun
      (head?_groupInteger groupSize regions.integer)
  rw [hasMantissaShape_iff] at shape ⊢
  rcases shape with ⟨absent, isRun⟩ | ⟨fraction, present, front, isRun⟩
  · exact Or.inl ⟨by simp [grouped, absent], integer isRun⟩
  · refine Or.inr ⟨groupFromLeft groupSize 0 fraction, by simp [grouped, present], ?_, ?_⟩
    · exact front.imp (fun empty => by simp [grouped, empty, groupInteger]) integer
    · exact (divides_groupFromLeft groupSize 0 fraction).isDigitRun
        (head?_groupFromLeft groupSize fraction) isRun

theorem IsReal.grouped (groupSize : Nat) (real : regions.IsReal) :
    (regions.grouped groupSize false).IsReal where
  mantissa := hasMantissaShape_grouped groupSize real.mantissa
  exponent := real.exponent

end Regions

namespace Numeral

/-! ## Regrouping a numeral -/

/-- The numeral with its digits in groups of the given size. -/
def regroup (numeral : Numeral) (groupSize : Nat) : Numeral :=
  { numeral with
    digits := (numeral.regions.grouped groupSize (!numeral.mark.isEmpty)).text }

/-- The parts of a numeral that do not depend on its separators are the same. -/
structure SameParts (numeral other : Numeral) : Prop where
  base : numeral.base = other.base
  mark : numeral.mark = other.mark
  scrubbedDigits : numeral.scrubbedDigits = other.scrubbedDigits
  suffix : numeral.suffix = other.suffix
  isInteger : numeral.isInteger = other.isInteger
  regions : numeral.regions = other.regions
  size : numeral.size = other.size

variable {numeral other : Numeral}

/-- A grouped text is the text of the regrouped numeral. -/
theorem text_regroup (numeral : Numeral) (groupSize : Nat) :
    (numeral.regroup groupSize).text = numeral.grouped groupSize :=
  (numeral.grouped_eq groupSize).symm

@[simp]
theorem scrubbedDigits_regroup (numeral : Numeral) (groupSize : Nat) :
    (numeral.regroup groupSize).scrubbedDigits = numeral.scrubbedDigits := by
  have scrubbed : scrub numeral.scrubbedDigits = numeral.scrubbedDigits := scrub_scrub _
  unfold regroup
  rw [scrubbedDigits, Regions.scrub_text, Regions.scrubbed_grouped, ← Regions.scrub_text,
    regions_text, scrubbed]

/-- The regions and the size of a numeral come from its scrubbed digits. -/
theorem sameParts_of_scrubbedDigits
    (base : numeral.base = other.base) (mark : numeral.mark = other.mark)
    (digits : numeral.scrubbedDigits = other.scrubbedDigits)
    (suffix : numeral.suffix = other.suffix)
    (isInteger : numeral.isInteger = other.isInteger) :
    numeral.SameParts other := by
  have regions : numeral.regions = other.regions := by
    unfold Numeral.regions
    rw [digits, isInteger]
  have size : numeral.size = other.size := by
    unfold Numeral.size
    rw [base, regions, digits]
  exact ⟨base, mark, digits, suffix, isInteger, regions, size⟩

theorem SameParts.symm (same : numeral.SameParts other) : other.SameParts numeral :=
  ⟨same.base.symm, same.mark.symm, same.scrubbedDigits.symm, same.suffix.symm,
    same.isInteger.symm, same.regions.symm, same.size.symm⟩

theorem SameParts.trans
    {third : Numeral} (same : numeral.SameParts other) (next : other.SameParts third) :
    numeral.SameParts third :=
  ⟨same.base.trans next.base, same.mark.trans next.mark,
    same.scrubbedDigits.trans next.scrubbedDigits, same.suffix.trans next.suffix,
    same.isInteger.trans next.isInteger, same.regions.trans next.regions,
    same.size.trans next.size⟩

theorem sameParts_regroup (numeral : Numeral) (groupSize : Nat) :
    (numeral.regroup groupSize).SameParts numeral :=
  sameParts_of_scrubbedDigits rfl rfl (scrubbedDigits_regroup numeral groupSize) rfl rfl

/-- Numerals with the same parts are grouped to the same text. -/
theorem SameParts.grouped_eq (same : numeral.SameParts other) (groupSize : Nat) :
    numeral.grouped groupSize = other.grouped groupSize := by
  rw [Numeral.grouped_eq, Numeral.grouped_eq, same.mark, same.regions, same.suffix]

/-! ## A regrouped numeral is well-formed -/

/-- The digits of an integer are one region. -/
theorem IntegerForm.divides (form : numeral.IntegerForm) (groupSize : Nat) :
    Divides numeral.scrubbedDigits (numeral.regroup groupSize).digits := by
  have digits : (numeral.regroup groupSize).digits =
      groupInteger groupSize (!numeral.mark.isEmpty) numeral.scrubbedDigits := by
    simp [Numeral.regroup, regions, form.isInteger, Regions.grouped, Regions.ofInteger,
      Regions.text, Regions.mantissa]
  rw [digits]
  exact divides_groupInteger groupSize _ numeral.scrubbedDigits

theorem IntegerForm.scrubbedDigits_ne_nil (form : numeral.IntegerForm) :
    numeral.scrubbedDigits ≠ [] :=
  scrub_ne_nil form.digits.nonempty form.digits.closed

theorem IntegerForm.regroup (form : numeral.IntegerForm) (groupSize : Nat) :
    (numeral.regroup groupSize).IntegerForm := by
  have divides := form.divides groupSize
  have unseparated : separator ∉ numeral.scrubbedDigits := separator_not_mem_scrub _
  refine ⟨form.isInteger, form.mark, ⟨?_, ?_, ?_, ?_⟩, form.suffix⟩
  · rw [ne_eq, divides.eq_nil_iff]
    exact form.scrubbedDigits_ne_nil
  · intro letter member
    rcases divides.mem letter member with rfl | scrubbed
    · rfl
    · exact form.digits.accepted letter (List.mem_of_mem_filter scrubbed)
  · rw [divides.getLast?_eq]
    intro last
    exact unseparated (List.mem_of_getLast? last)
  · intro decimal
    have unmarked : numeral.mark = [] := by
      have isMark := form.mark
      rw [show numeral.base = .decimal from decimal] at isMark
      exact List.mem_singleton.1 isMark
    have opening : (numeral.regroup groupSize).digits.head? = numeral.scrubbedDigits.head? := by
      simp [Numeral.regroup, regions, form.isInteger, unmarked, Regions.grouped,
        Regions.ofInteger, Regions.text, Regions.mantissa, head?_groupInteger]
    rw [opening]
    intro first
    exact unseparated (List.mem_of_mem_head? first)

theorem RealForm.isReal_regions (form : numeral.RealForm) : numeral.regions.IsReal := by
  have scrubbed := form.digits.scrubbed
  rw [← Regions.ofReal_scrub] at scrubbed
  simpa [regions, form.isInteger, scrubbedDigits] using scrubbed

theorem RealForm.regroup (form : numeral.RealForm) (groupSize : Nat) :
    (numeral.regroup groupSize).RealForm := by
  have grouped := form.isReal_regions.grouped groupSize
  have split : Regions.ofReal (numeral.regroup groupSize).digits =
      numeral.regions.grouped groupSize false := by
    have digits := grouped.ofReal_text
    simpa [Numeral.regroup, form.mark] using digits
  have sameDigits : scrub (numeral.regroup groupSize).digits = scrub numeral.digits :=
    scrubbedDigits_regroup numeral groupSize
  refine ⟨form.isInteger, form.base, form.mark, ?_, ?_⟩
  · rw [split]
    exact grouped
  · rw [sameDigits]
    exact form.suffix

/-- Digits of a real are a run by themselves as soon as their scrubbed form is. -/
theorem isDigitRun_of_scrub
    {digits : Text} (real : (Regions.ofReal digits).IsReal)
    (run : isDigitRun (scrub digits) = true) :
    isDigitRun digits = true := by
  have accepted : ∀ letter ∈ digits, isDigitOrSeparator letter = true := by
    intro letter member
    by_cases same : letter = separator
    · rw [same]
      rfl
    · exact (isDigitRun_iff.1 run).2.2 letter (List.mem_filter.2 ⟨member, decide_eq_true same⟩)
  have opening : ∃ first, digits.head? = some first ∧ first.isDigit = true := by
    obtain ⟨first, opening, kind⟩ := Regions.head?_mantissa real.mantissa
    have inDigits : digits.head? = some first := by
      rw [← Regions.text_ofReal digits, Regions.text, List.head?_append, opening]
      rfl
    rcases kind with digit | rfl
    · exact ⟨first, inDigits, digit⟩
    · exact absurd (accepted '.' (List.mem_of_mem_head? inDigits)) (by decide)
  have closing := real.getLast?_text
  rw [Regions.text_ofReal] at closing
  exact isDigitRun_iff.2 ⟨opening, closing, accepted⟩

theorem RealForm.isBare_of_regroup
    (form : numeral.RealForm) {groupSize : Nat} (bare : (numeral.regroup groupSize).IsBare) :
    numeral.IsBare := by
  refine ⟨bare.1, isDigitRun_of_scrub form.digits ?_⟩
  have run := isDigitRun_scrub bare.2
  have sameDigits : scrub (numeral.regroup groupSize).digits = scrub numeral.digits :=
    scrubbedDigits_regroup numeral groupSize
  rwa [sameDigits] at run

theorem WellFormed.regroup (form : numeral.WellFormed) (groupSize : Nat) :
    (numeral.regroup groupSize).WellFormed := by
  rcases form with integer | ⟨real, notBare⟩
  · exact Or.inl (integer.regroup groupSize)
  · exact Or.inr ⟨real.regroup groupSize, fun bare => notBare (real.isBare_of_regroup bare)⟩

/-- A grouped text is read as the regrouped numeral. -/
theorem WellFormed.parse?_grouped (form : numeral.WellFormed) (groupSize : Nat) :
    parse? (numeral.grouped groupSize) = some (numeral.regroup groupSize) := by
  rw [← text_regroup]
  exact (form.regroup groupSize).parse?_text

/-! ## Chains -/

/-- Group a numeral with each size in turn, read the text and go on with what was
read.  The texts are kept with the numerals read from them; a rejected text ends the
whole chain. -/
def regroupChain : List Nat → Numeral → Option (List (Text × Numeral))
  | [], _ => some []
  | groupSize :: groupSizes, numeral =>
    let text := numeral.grouped groupSize
    match parse? text with
    | none => none
    | some next => (regroupChain groupSizes next).map ((text, next) :: ·)

/-- One step of a chain: the text of a numeral with the same parts is read, and gives
a numeral with the same parts. -/
theorem exists_parse?_grouped
    (form : numeral.WellFormed) (same : numeral.SameParts other) (groupSize : Nat) :
    ∃ next : Numeral, parse? (numeral.grouped groupSize) = some next ∧ next.WellFormed ∧
      next.SameParts other ∧ numeral.grouped groupSize = other.grouped groupSize := by
  have nextSame : (numeral.regroup groupSize).SameParts other :=
    (sameParts_regroup numeral groupSize).trans same
  exact ⟨numeral.regroup groupSize, form.parse?_grouped groupSize, form.regroup groupSize,
    nextSame, same.grouped_eq groupSize⟩

theorem exists_regroupChain
    (form : numeral.WellFormed) (same : numeral.SameParts other) (groupSizes : List Nat) :
    ∃ steps, regroupChain groupSizes numeral = some steps ∧
      steps.map Prod.fst = groupSizes.map other.grouped ∧
      ∀ step ∈ steps, step.2.SameParts other := by
  induction groupSizes generalizing numeral with
  | nil => exact ⟨[], rfl, rfl, nofun⟩
  | cons groupSize groupSizes inductionHypothesis =>
      obtain ⟨next, reading, nextForm, nextSame, spelled⟩ :=
        exists_parse?_grouped form same groupSize
      -- The chain goes on from a numeral with the same parts, not from the same numeral.
      obtain ⟨steps, chain, texts, parts⟩ := inductionHypothesis nextForm nextSame
      refine ⟨(numeral.grouped groupSize, next) :: steps, ?_, ?_, ?_⟩
      · simp only [regroupChain, reading, chain, Option.map_some]
      · rw [List.map_cons, List.map_cons, texts, spelled]
      · intro step member
        rcases List.mem_cons.1 member with rfl | later
        · exact nextSame
        · exact parts step later

/-- Grouping twice with one size is grouping once. -/
theorem WellFormed.grouped_grouped (form : numeral.WellFormed) (groupSize : Nat) :
    (parse? (numeral.grouped groupSize)).map (·.grouped groupSize) =
      some (numeral.grouped groupSize) := by
  rw [form.parse?_grouped, Option.map_some, (sameParts_regroup numeral groupSize).grouped_eq]

theorem regroupings_eq
    {text : Text} (reading : parse? text = some numeral) (same : numeral.SameParts other)
    (groupSizes : List Nat) :
    regroupings groupSizes text = groupSizes.map fun groupSize =>
      some ⟨other.grouped groupSize, some other.size, some true⟩ := by
  induction groupSizes generalizing text numeral with
  | nil => rfl
  | cons groupSize groupSizes inductionHypothesis =>
      have form : numeral.WellFormed := (parse?_eq_some_iff.1 reading).1
      obtain ⟨next, again, nextForm, nextSame, spelled⟩ :=
        exists_parse?_grouped form same groupSize
      have rest := inductionHypothesis again nextSame
      rw [spelled] at again rest
      have stable : decide (next.grouped groupSize = other.grouped groupSize) = true :=
        decide_eq_true (nextSame.grouped_eq groupSize)
      simp only [regroupings, reading, spelled, again, rest, Option.map_some, stable,
        nextSame.size, List.map_cons]

/-- Grouping and reading may follow each other for any number of group sizes.  The last
size alone decides the last text, and all that is read has the parts of the start. -/
theorem regroupChain_of_parse?
    {text : Text} (reading : parse? text = some numeral) (groupSizes : List Nat) :
    (∃ steps, regroupChain groupSizes numeral = some steps ∧
      steps.map Prod.fst = groupSizes.map numeral.grouped ∧
      (∀ step ∈ steps, step.2.SameParts numeral) ∧
      steps.getLast?.map Prod.fst = groupSizes.getLast?.map numeral.grouped) ∧
    (regroupings groupSizes text = groupSizes.map fun groupSize =>
      some ⟨numeral.grouped groupSize, some numeral.size, some true⟩) ∧
    ∀ groupSize, (parse? (numeral.grouped groupSize)).map (·.grouped groupSize) =
      some (numeral.grouped groupSize) := by
  have form : numeral.WellFormed := (parse?_eq_some_iff.1 reading).1
  have same : numeral.SameParts numeral := ⟨rfl, rfl, rfl, rfl, rfl, rfl, rfl⟩
  obtain ⟨steps, chain, texts, parts⟩ := exists_regroupChain form same groupSizes
  refine ⟨⟨steps, chain, texts, parts, ?_⟩, regroupings_eq reading same groupSizes,
    form.grouped_grouped⟩
  rw [← List.getLast?_map, texts, List.getLast?_map]

/-- A real with an exponent in a chain that removes, widens and restores its groups. -/
theorem regroupChain_of_real :
    ∃ numeral, parse? "1_2__3.4567e1_0m".toList = some numeral ∧
      ∃ steps, regroupChain [3, 0, 200, 2] numeral = some steps ∧
        steps.getLast?.map Prod.fst = some "1_23.45_67e10m".toList := by
  have reading : ∃ numeral, parse? "1_2__3.4567e1_0m".toList = some numeral ∧
      numeral.grouped 2 = "1_23.45_67e10m".toList :=
    ⟨_, rfl, rfl⟩
  obtain ⟨numeral, read, spelled⟩ := reading
  obtain ⟨⟨steps, chain, -, -, last⟩, -, -⟩ := regroupChain_of_parse? read [3, 0, 200, 2]
  refine ⟨numeral, read, steps, chain, ?_⟩
  rw [last]
  exact congrArg some spelled

end Numeral

end NumeralStyle
