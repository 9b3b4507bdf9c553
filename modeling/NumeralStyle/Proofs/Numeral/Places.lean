import NumeralStyle.Proofs.Numeral.Enclosure
import NumeralStyle.Proofs.Numeral.Spelling

/-!
# Places of separators

A text is determined by its scrubbed text and by the places at which separators stand in
it.  Grouping puts one separator at each place that divides a region into groups, with
the integer counted from its end and the fraction from the point.  The main statement
gives both for every grouped numeral, whose digits a loop writes from left to right.
-/

namespace NumeralStyle

/-- For each separator of a text, the number of other characters in front of it. -/
def separatorPlaces : Text → List Nat
  | [] => []
  | letter :: rest =>
    if letter = separator then
      0 :: separatorPlaces rest
    else
      (separatorPlaces rest).map (· + 1)

variable {text run rest divided : Text} {digit : Char} {groupSize place : Nat}

/-! ## Places in a text -/

theorem scrub_separator_cons (rest : Text) : scrub (separator :: rest) = scrub rest :=
  rfl

theorem separatorPlaces_separator_cons (rest : Text) :
    separatorPlaces (separator :: rest) = 0 :: separatorPlaces rest :=
  if_pos rfl

theorem separatorPlaces_cons (different : digit ≠ separator) (rest : Text) :
    separatorPlaces (digit :: rest) = (separatorPlaces rest).map (· + 1) :=
  if_neg different

theorem separatorPlaces_eq_nil (absent : separator ∉ text) : separatorPlaces text = [] := by
  induction text with
  | nil => rfl
  | cons letter rest inductionHypothesis =>
      obtain ⟨different, later⟩ := List.ne_and_not_mem_of_not_mem_cons absent
      rw [separatorPlaces_cons different.symm, inductionHypothesis later]
      rfl

/-- Behind other text every place moves by the length of that text without its
separators. -/
theorem separatorPlaces_append (left right : Text) :
    separatorPlaces (left ++ right) =
      separatorPlaces left ++ (separatorPlaces right).map (· + (scrub left).length) := by
  induction left with
  | nil => exact (List.map_id' _).symm
  | cons letter rest inductionHypothesis =>
      rw [List.cons_append]
      by_cases same : letter = separator
      · rw [same, separatorPlaces_separator_cons, separatorPlaces_separator_cons,
          scrub_separator_cons, inductionHypothesis]
        rfl
      · rw [separatorPlaces_cons same, separatorPlaces_cons same, scrub_cons_of_ne same,
          inductionHypothesis, List.map_append, List.map_map]
        rfl

theorem zero_not_mem_map_succ (places : List Nat) : 0 ∉ places.map (· + 1) := by
  simp

theorem eq_nil_of_separatorPlaces_eq_nil
    (scrubbed : scrub text = []) (places : separatorPlaces text = []) :
    text = [] := by
  cases text with
  | nil => rfl
  | cons letter rest =>
      by_cases same : letter = separator
      · rw [same, separatorPlaces_separator_cons] at places
        cases places
      · rw [scrub_cons_of_ne same] at scrubbed
        cases scrubbed

/-- The characters and the places of the separators determine a text. -/
theorem eq_of_separatorPlaces_eq
    {left right : Text} (scrubbed : scrub left = scrub right)
    (places : separatorPlaces left = separatorPlaces right) :
    left = right := by
  induction left generalizing right with
  | nil => exact (eq_nil_of_separatorPlaces_eq_nil scrubbed.symm places.symm).symm
  | cons letter rest inductionHypothesis =>
      cases right with
      | nil => exact eq_nil_of_separatorPlaces_eq_nil scrubbed places
      | cons otherLetter otherRest =>
          -- A separator in front shows in the places, another character in the scrubbed text.
          by_cases same : letter = separator <;> by_cases otherSame : otherLetter = separator
          · rw [same, otherSame, separatorPlaces_separator_cons,
              separatorPlaces_separator_cons] at places
            rw [same, otherSame, scrub_separator_cons, scrub_separator_cons] at scrubbed
            rw [same, otherSame, inductionHypothesis scrubbed (List.cons.inj places).2]
          · rw [same, separatorPlaces_separator_cons, separatorPlaces_cons otherSame] at places
            exact absurd (places ▸ List.mem_cons_self) (zero_not_mem_map_succ _)
          · rw [otherSame, separatorPlaces_separator_cons, separatorPlaces_cons same] at places
            exact absurd (places ▸ List.mem_cons_self) (zero_not_mem_map_succ _)
          · rw [separatorPlaces_cons same, separatorPlaces_cons otherSame] at places
            rw [scrub_cons_of_ne same, scrub_cons_of_ne otherSame] at scrubbed
            obtain ⟨sameLetter, sameRest⟩ := List.cons.inj scrubbed
            have samePlaces := (List.map_injective_iff.2 (add_left_injective 1)) places
            rw [sameLetter, inductionHypothesis sameRest samePlaces]

/-- Where a digit may be preceded by a separator, the first place tells whether it is. -/
theorem mem_separatorPlaces_step
    (different : digit ≠ separator) (separates : Prop) [Decidable separates] :
    place ∈ separatorPlaces (if separates then separator :: digit :: rest else digit :: rest) ↔
      (place = 0 ∧ separates) ∨ ∃ earlier ∈ separatorPlaces rest, earlier + 1 = place := by
  by_cases condition : separates
  · rw [if_pos condition, separatorPlaces_separator_cons, separatorPlaces_cons different,
      List.mem_cons, List.mem_map]
    simp only [condition, and_true]
  · rw [if_neg condition, separatorPlaces_cons different, List.mem_map]
    simp only [condition, and_false, false_or]

/-! ## Places in a divided run -/

theorem Divides.append
    {otherRun otherDivided : Text} (divides : Divides run divided)
    (otherDivides : Divides otherRun otherDivided) :
    Divides (run ++ otherRun) (divided ++ otherDivided) := by
  induction divides with
  | nil => exact otherDivides
  | keep letter _ inductionHypothesis => exact Divides.keep letter inductionHypothesis
  | separate letter _ inductionHypothesis => exact Divides.separate letter inductionHypothesis

theorem divides_self (text : Text) : Divides text text := by
  induction text with
  | nil => exact Divides.nil
  | cons letter rest inductionHypothesis => exact Divides.keep letter inductionHypothesis

/-- No place of a divided run has two separators. -/
theorem Divides.pairwise_separatorPlaces
    (divides : Divides run divided) (absent : separator ∉ run) :
    (separatorPlaces divided).Pairwise (· < ·) := by
  induction divides with
  | nil => exact List.Pairwise.nil
  | keep letter _ inductionHypothesis =>
      obtain ⟨different, later⟩ := List.ne_and_not_mem_of_not_mem_cons absent
      rw [separatorPlaces_cons different.symm, List.pairwise_map]
      exact (inductionHypothesis later).imp Nat.succ_lt_succ
  | separate letter _ inductionHypothesis =>
      obtain ⟨different, later⟩ := List.ne_and_not_mem_of_not_mem_cons absent
      rw [separatorPlaces_separator_cons, separatorPlaces_cons different.symm,
        List.pairwise_cons, List.pairwise_map]
      refine ⟨?_, (inductionHypothesis later).imp Nat.succ_lt_succ⟩
      intro place member
      obtain ⟨earlier, -, rfl⟩ := List.mem_map.1 member
      exact Nat.succ_pos earlier

/-- From the right a run is divided where a multiple of the group size is left. -/
theorem mem_separatorPlaces_groupFromRight (absent : separator ∉ run) :
    place ∈ separatorPlaces (groupFromRight groupSize run) ↔
      ∃ after, place + after = run.length ∧ 0 < after ∧ groupSize ∣ after := by
  induction run generalizing place with
  | nil =>
      refine ⟨nofun, fun split => ?_⟩
      obtain ⟨after, whole, positive, -⟩ := split
      rw [List.length_nil] at whole
      omega
  | cons digit rest inductionHypothesis =>
      obtain ⟨different, later⟩ := List.ne_and_not_mem_of_not_mem_cons absent
      rw [groupFromRight, mem_separatorPlaces_step different.symm]
      simp only [inductionHypothesis later, List.length_cons]
      constructor
      · rintro (⟨rfl, divisible⟩ | ⟨earlier, ⟨after, whole, positive, divides⟩, rfl⟩)
        · exact ⟨rest.length + 1, Nat.zero_add _, Nat.succ_pos _,
            Nat.dvd_of_mod_eq_zero divisible⟩
        · exact ⟨after, by omega, positive, divides⟩
      · rintro ⟨after, whole, positive, divides⟩
        cases place with
        | zero =>
            rw [Nat.zero_add] at whole
            rw [whole] at divides
            exact Or.inl ⟨rfl, Nat.mod_eq_zero_of_dvd divides⟩
        | succ earlier => exact Or.inr ⟨earlier, ⟨after, by omega, positive, divides⟩, rfl⟩

/-- The first digit of an integer is preceded by a separator only behind a mark. -/
theorem mem_separatorPlaces_groupInteger {marked : Bool} (absent : separator ∉ run) :
    place ∈ separatorPlaces (groupInteger groupSize marked run) ↔
      ∃ after, place + after = run.length ∧ 0 < after ∧ groupSize ∣ after ∧
        (marked = true ∨ 0 < place) := by
  cases run with
  | nil =>
      refine ⟨nofun, fun split => ?_⟩
      obtain ⟨after, whole, positive, -⟩ := split
      rw [List.length_nil] at whole
      omega
  | cons digit rest =>
      obtain ⟨different, later⟩ := List.ne_and_not_mem_of_not_mem_cons absent
      cases marked with
      | true =>
          have grouped : groupInteger groupSize true (digit :: rest) =
              groupFromRight groupSize (digit :: rest) := rfl
          rw [grouped, mem_separatorPlaces_groupFromRight absent]
          simp only [true_or, and_true]
      | false =>
          have grouped : groupInteger groupSize false (digit :: rest) =
              digit :: groupFromRight groupSize rest := rfl
          rw [grouped, separatorPlaces_cons different.symm, List.mem_map]
          simp only [mem_separatorPlaces_groupFromRight later, List.length_cons]
          constructor
          · rintro ⟨earlier, ⟨after, whole, positive, divides⟩, rfl⟩
            exact ⟨after, by omega, positive, divides, Or.inr (Nat.succ_pos earlier)⟩
          · rintro ⟨after, whole, positive, divides, marked | inside⟩
            · cases marked
            · exact ⟨place - 1, ⟨after, by omega, positive, divides⟩, Nat.sub_add_cancel inside⟩

/-- From the left a run is divided where a positive multiple of the group size stands
already. -/
theorem mem_separatorPlaces_groupFromLeft {preceding : Nat} (absent : separator ∉ run) :
    place ∈ separatorPlaces (groupFromLeft groupSize preceding run) ↔
      place < run.length ∧ 0 < preceding + place ∧ groupSize ∣ preceding + place := by
  induction run generalizing preceding place with
  | nil => exact ⟨nofun, fun split => absurd split.1 (Nat.not_lt_zero place)⟩
  | cons digit rest inductionHypothesis =>
      obtain ⟨different, later⟩ := List.ne_and_not_mem_of_not_mem_cons absent
      rw [groupFromLeft, mem_separatorPlaces_step different.symm]
      simp only [inductionHypothesis later, List.length_cons]
      constructor
      · rintro (⟨rfl, positive, divisible⟩ | ⟨earlier, ⟨inside, positive, divides⟩, rfl⟩)
        · exact ⟨Nat.succ_pos _, positive, Nat.dvd_of_mod_eq_zero divisible⟩
        · rw [Nat.add_assoc, Nat.add_comm 1 earlier] at positive divides
          exact ⟨Nat.succ_lt_succ inside, positive, divides⟩
      · rintro ⟨inside, positive, divides⟩
        cases place with
        | zero => exact Or.inl ⟨rfl, positive, Nat.mod_eq_zero_of_dvd divides⟩
        | succ earlier =>
            rw [Nat.add_comm earlier 1, ← Nat.add_assoc] at positive divides
            exact Or.inr ⟨earlier, ⟨Nat.lt_of_succ_lt_succ inside, positive, divides⟩, rfl⟩

theorem Regions.divides_grouped (regions : Regions) (groupSize : Nat) (marked : Bool) :
    Divides regions.text (regions.grouped groupSize marked).text := by
  have integer := divides_groupInteger groupSize marked regions.integer
  refine Divides.append ?_ (divides_self regions.exponent)
  unfold mantissa Regions.grouped
  cases regions.fraction with
  | none => exact integer
  | some fraction =>
      exact integer.append (Divides.keep '.' (divides_groupFromLeft groupSize 0 fraction))

/-- Separators stand in the integer and in the fraction, whose places move by the integer
and the point. -/
theorem Regions.mem_separatorPlaces_grouped
    {regions : Regions} {marked : Bool} (absent : separator ∉ regions.text) :
    place ∈ separatorPlaces (regions.grouped groupSize marked).text ↔
      (∃ after, place + after = regions.integer.length ∧ 0 < after ∧ groupSize ∣ after ∧
        (marked = true ∨ 0 < place)) ∨
        ∃ fraction before, regions.fraction = some fraction ∧ before < fraction.length ∧
          0 < before ∧ groupSize ∣ before ∧ before + 1 + regions.integer.length = place := by
  obtain ⟨integer, fraction, exponent⟩ := regions
  cases fraction with
  | none =>
      simp only [text, mantissa, List.mem_append, not_or] at absent
      obtain ⟨inInteger, inExponent⟩ := absent
      simp only [text, mantissa, Regions.grouped, Option.map_none, separatorPlaces_append,
        separatorPlaces_eq_nil inExponent, List.map_nil, List.append_nil,
        mem_separatorPlaces_groupInteger inInteger]
      simp
  | some fraction =>
      simp only [text, mantissa, List.mem_append, List.mem_cons, not_or] at absent
      obtain ⟨⟨inInteger, point, inFraction⟩, inExponent⟩ := absent
      have scrubbed : scrub (groupInteger groupSize marked integer) = integer := by
        rw [(divides_groupInteger groupSize marked integer).scrub_eq, scrub_eq_self inInteger]
      simp only [text, mantissa, Regions.grouped, Option.map_some, separatorPlaces_append,
        separatorPlaces_eq_nil inExponent, List.map_nil, List.append_nil, List.mem_append,
        scrubbed, separatorPlaces_cons (Ne.symm point), List.map_map, List.mem_map,
        mem_separatorPlaces_groupInteger inInteger, mem_separatorPlaces_groupFromLeft inFraction]
      simp [and_assoc]

namespace Numeral

variable {numeral : Numeral}

/-! ## Places in a grouped numeral -/

/-- The places that divide a numeral into groups, counted from the start of its text
without separators. -/
inductive IsBreak (numeral : Numeral) (groupSize : Nat) : Nat → Prop
  /-- Between two digits of the integer, when the digits behind fill groups. -/
  | inInteger (before after : Nat) :
      before + after = numeral.regions.integer.length →
      0 < before →
      0 < after →
      groupSize ∣ after →
      IsBreak numeral groupSize (numeral.mark.length + before)
  /-- In front of the first digit behind a mark, when all digits fill groups. -/
  | behindMark :
      numeral.mark ≠ [] →
      groupSize ∣ numeral.regions.integer.length →
      IsBreak numeral groupSize numeral.mark.length
  /-- Between two digits of the fraction, when the digits in front fill groups. -/
  | inFraction (fraction : Text) (before after : Nat) :
      numeral.regions.fraction = some fraction →
      before + after = fraction.length →
      0 < before →
      0 < after →
      groupSize ∣ before →
      IsBreak numeral groupSize
        (numeral.mark.length + numeral.regions.integer.length + 1 + before)

/-- The text consists of the parts of the numeral and of one separator at each place that
divides them into groups. -/
structure IsGrouping (numeral : Numeral) (groupSize : Nat) (text : Text) : Prop where
  scrubbed : scrub text = numeral.mark ++ numeral.scrubbedDigits ++ numeral.suffix
  undoubled : (separatorPlaces text).Pairwise (· < ·)
  places : ∀ place, place ∈ separatorPlaces text ↔ numeral.IsBreak groupSize place

theorem IsGrouping.unique
    {text otherText : Text} (grouping : numeral.IsGrouping groupSize text)
    (otherGrouping : numeral.IsGrouping groupSize otherText) :
    text = otherText := by
  apply eq_of_separatorPlaces_eq (grouping.scrubbed.trans otherGrouping.scrubbed.symm)
  apply grouping.undoubled.eq_of_mem_iff otherGrouping.undoubled
  intro place
  rw [grouping.places, otherGrouping.places]

theorem separator_not_mem_regions_text (numeral : Numeral) :
    separator ∉ numeral.regions.text := by
  rw [regions_text]
  exact separator_not_mem_scrub numeral.digits

theorem size_of_base_eq_decimal (decimal : numeral.base = .decimal) :
    numeral.size = numeral.regions.size := by
  rw [size, decimal]

theorem IntegerForm.regions_eq (form : numeral.IntegerForm) :
    numeral.regions = ⟨numeral.scrubbedDigits, none, []⟩ := by
  rw [regions, if_pos form.isInteger, Regions.ofInteger]

theorem IntegerForm.size_eq (form : numeral.IntegerForm) :
    numeral.size = numeral.scrubbedDigits.length := by
  rw [size]
  cases numeral.base with
  | decimal =>
      rw [form.regions_eq]
      exact Nat.max_zero _
  | hexadecimal => rfl
  | binary => rfl

/-- Only integers have a mark, and they have digits. -/
theorem WellFormed.integer_length_pos
    (form : numeral.WellFormed) (marked : numeral.mark ≠ []) :
    0 < numeral.regions.integer.length := by
  rcases form with integer | ⟨real, -⟩
  · rw [integer.regions_eq]
    exact List.length_pos_iff.2 integer.scrubbedDigits_ne_nil
  · exact absurd real.mark marked

theorem WellFormed.scrub_grouped (form : numeral.WellFormed) (groupSize : Nat) :
    scrub (numeral.grouped groupSize) =
      numeral.mark ++ numeral.scrubbedDigits ++ numeral.suffix := by
  have scrubbed := (form.regroup groupSize).scrub_text
  rwa [text_regroup, scrubbedDigits_regroup] at scrubbed

theorem WellFormed.pairwise_separatorPlaces_grouped
    (form : numeral.WellFormed) (groupSize : Nat) :
    (separatorPlaces (numeral.grouped groupSize)).Pairwise (· < ·) := by
  have regions := numeral.regions.divides_grouped groupSize (!numeral.mark.isEmpty)
  have whole := ((divides_self numeral.mark).append regions).append (divides_self numeral.suffix)
  rw [grouped_eq]
  apply whole.pairwise_separatorPlaces
  simp only [List.mem_append, not_or]
  exact ⟨⟨form.separator_not_mem_mark, numeral.separator_not_mem_regions_text⟩,
    form.separator_not_mem_suffix⟩

theorem WellFormed.mem_separatorPlaces_grouped_iff
    (form : numeral.WellFormed) (groupSize place : Nat) :
    place ∈ separatorPlaces (numeral.grouped groupSize) ↔ numeral.IsBreak groupSize place := by
  have absent := numeral.separator_not_mem_regions_text
  rw [grouped_eq, separatorPlaces_append, separatorPlaces_append,
    separatorPlaces_eq_nil form.separator_not_mem_mark,
    separatorPlaces_eq_nil form.separator_not_mem_suffix,
    scrub_eq_self form.separator_not_mem_mark, List.map_nil, List.append_nil, List.nil_append,
    List.mem_map]
  simp only [Regions.mem_separatorPlaces_grouped absent, Bool.not_eq_true',
    List.isEmpty_eq_false_iff]
  constructor
  · rintro ⟨inside, ⟨after, whole, positive, divides, opens⟩ |
      ⟨fraction, before, present, whole, positive, divides, rfl⟩, rfl⟩
    · rw [Nat.add_comm]
      rcases Nat.eq_zero_or_pos inside with rfl | behind
      · rw [Nat.zero_add] at whole
        rw [whole] at divides
        exact IsBreak.behindMark (opens.resolve_right (Nat.lt_irrefl 0)) divides
      · exact IsBreak.inInteger inside after whole behind positive divides
    · have same : before + 1 + numeral.regions.integer.length + numeral.mark.length =
          numeral.mark.length + numeral.regions.integer.length + 1 + before := by omega
      rw [same]
      exact IsBreak.inFraction fraction before (fraction.length - before) present
        (Nat.add_sub_cancel' whole.le) positive (Nat.sub_pos_of_lt whole) divides
  · intro breaks
    cases breaks with
    | inInteger before after whole front behind divides =>
        exact ⟨before, Or.inl ⟨after, whole, behind, divides, Or.inr front⟩, Nat.add_comm _ _⟩
    | behindMark marked divides =>
        exact ⟨0, Or.inl ⟨_, Nat.zero_add _, form.integer_length_pos marked, divides,
          Or.inl marked⟩, Nat.zero_add _⟩
    | inFraction fraction before after present whole front behind divides =>
        exact ⟨before + 1 + numeral.regions.integer.length,
          Or.inr ⟨fraction, before, present, by omega, front, divides, rfl⟩, by omega⟩

theorem WellFormed.isGrouping_grouped (form : numeral.WellFormed) (groupSize : Nat) :
    numeral.IsGrouping groupSize (numeral.grouped groupSize) :=
  ⟨form.scrub_grouped groupSize, form.pairwise_separatorPlaces_grouped groupSize,
    form.mem_separatorPlaces_grouped_iff groupSize⟩

/-- The grouped text of a numeral, as the loop writes it, is the one text that has its parts,
one separator at each place that divides them into groups, and no other separator.  Groups
of size zero divide nothing. -/
theorem isGrouping_iff_eq_grouped
    {text : Text} (reading : parse? text = some numeral) :
    (∀ groupSize, 0 < groupSize → ∀ grouped,
      numeral.IsGrouping groupSize grouped ↔ grouped = numeral.grouped groupSize) ∧
      numeral.grouped 0 = numeral.mark ++ numeral.scrubbedDigits ++ numeral.suffix := by
  have form : numeral.WellFormed := (parse?_eq_some_iff.1 reading).1
  refine ⟨fun groupSize _ grouped => ?_, if_pos rfl⟩
  have isGrouping := form.isGrouping_grouped groupSize
  exact ⟨fun grouping => grouping.unique isGrouping, fun same => same ▸ isGrouping⟩

/-- A real is divided on both sides of its point, and not in its exponent. -/
theorem isGrouping_iff_eq_grouped_real :
    ∃ numeral, parse? "1_2345.6789e1000f".toList = some numeral ∧ 0 < 3 ∧
      numeral.IsGrouping 3 "12_345.678_9e1000f".toList ∧
        separatorPlaces "12_345.678_9e1000f".toList = [2, 9] := by
  have reading : ∃ numeral, parse? "1_2345.6789e1000f".toList = some numeral ∧
      "12_345.678_9e1000f".toList = numeral.grouped 3 :=
    ⟨_, rfl, rfl⟩
  obtain ⟨numeral, read, spelled⟩ := reading
  refine ⟨numeral, read, by decide, ?_, rfl⟩
  exact ((isGrouping_iff_eq_grouped read).1 3 (by decide) _).2 spelled

end Numeral

end NumeralStyle
