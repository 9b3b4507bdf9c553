import NumeralStyle.Proofs.Check.Canonical
import NumeralStyle.Proofs.Numeral.Places

/-!
# Sizes from which on numerals are grouped

Grouping leaves a numeral without separators as it is exactly when no place divides it
into groups.  A region has such a place as soon as it is longer than one group, and an
integer behind a mark as soon as it fills one.  The size is the length of the longer
region, so that it decides both cases.  Under a rule for numerals longer than one group
the two decisions differ only for a marked numeral of exactly one group, which the rule
passes over.  The main statement gives both decisions.
-/

namespace NumeralStyle

/-- A size is exceeded by a region. -/
theorem Regions.lt_size_iff {regions : Regions} {length : Nat} :
    length < regions.size ↔
      length < regions.integer.length ∨
        ∃ fraction, regions.fraction = some fraction ∧ length < fraction.length := by
  rw [size, lt_max_iff]
  cases regions.fraction with
  | none => simp
  | some fraction => simp

namespace Numeral

variable {numeral : Numeral} {groupSize : Nat}

/-! ## Places that divide a numeral -/

/-- Grouping leaves a numeral without separators as it is when no place divides it. -/
theorem WellFormed.grouped_eq_text_iff
    (form : numeral.WellFormed) (unseparated : separator ∉ numeral.text) :
    numeral.grouped groupSize = numeral.text ↔
      ¬ ∃ place, numeral.IsBreak groupSize place := by
  have scrubbed : scrub (numeral.grouped groupSize) = scrub numeral.text :=
    (form.scrub_grouped groupSize).trans form.scrub_text.symm
  have isPlace := form.mem_separatorPlaces_grouped_iff groupSize
  constructor
  · intro same divided
    obtain ⟨place, isBreak⟩ := divided
    have member := (isPlace place).2 isBreak
    rw [same, separatorPlaces_eq_nil unseparated] at member
    exact List.not_mem_nil member
  · intro undivided
    apply eq_of_separatorPlaces_eq scrubbed
    rw [separatorPlaces_eq_nil unseparated, List.eq_nil_iff_forall_not_mem]
    intro place member
    exact undivided ⟨place, (isPlace place).1 member⟩

/-- A place divides a numeral when a region is longer than one group or the groups of
an integer behind a mark are full. -/
theorem exists_isBreak_iff (positive : 0 < groupSize) :
    (∃ place, numeral.IsBreak groupSize place) ↔
      groupSize < numeral.regions.size ∨
        (numeral.mark ≠ [] ∧ groupSize ∣ numeral.regions.integer.length) := by
  rw [Regions.lt_size_iff]
  constructor
  · intro divided
    obtain ⟨place, isBreak⟩ := divided
    cases isBreak with
    | inInteger before after whole front back divides =>
        have full := Nat.le_of_dvd back divides
        exact Or.inl (Or.inl (by omega))
    | behindMark marked divides => exact Or.inr ⟨marked, divides⟩
    | inFraction fraction before after present whole front back divides =>
        have full := Nat.le_of_dvd front divides
        exact Or.inl (Or.inr ⟨fraction, present, by omega⟩)
  · intro long
    rcases long with (integer | ⟨fraction, present, long⟩) | ⟨marked, divides⟩
    · -- The last group of the integer has digits in front of it.
      have whole := Nat.sub_add_cancel integer.le
      exact ⟨_, IsBreak.inInteger _ groupSize whole (Nat.sub_pos_of_lt integer) positive
        (Nat.dvd_refl groupSize)⟩
    · have whole := Nat.add_sub_cancel' long.le
      exact ⟨_, IsBreak.inFraction fraction groupSize _ present whole positive
        (Nat.sub_pos_of_lt long) (Nat.dvd_refl groupSize)⟩
    · exact ⟨_, IsBreak.behindMark marked divides⟩

/-! ## Sizes -/

/-- Behind a mark all digits are one region, whose length is the size. -/
theorem WellFormed.size_of_mark_ne_nil
    (form : numeral.WellFormed) (marked : numeral.mark ≠ []) :
    numeral.regions.size = numeral.size ∧ numeral.regions.integer.length = numeral.size := by
  cases form with
  | inl integer =>
      rw [integer.size_eq, integer.regions_eq]
      exact ⟨Nat.max_zero _, rfl⟩
  | inr real => exact absurd real.1.mark marked

/-- The size at which groups begin: one more than a group, or behind a mark one group. -/
theorem WellFormed.exists_isBreak_iff_size
    (form : numeral.WellFormed) (positive : 0 < groupSize) :
    (∃ place, numeral.IsBreak groupSize place) ↔
      if numeral.base = .decimal then groupSize < numeral.size
      else groupSize ≤ numeral.size := by
  rw [exists_isBreak_iff positive]
  by_cases decimal : numeral.base = .decimal
  · have unmarked := form.base_eq_decimal_iff.1 decimal
    rw [if_pos decimal, size_of_base_eq_decimal decimal]
    simp [unmarked]
  · have marked : numeral.mark ≠ [] := fun empty =>
      decimal (form.base_eq_decimal_iff.2 empty)
    have nonempty := form.integer_length_pos marked
    obtain ⟨regionsSize, integerLength⟩ := form.size_of_mark_ne_nil marked
    rw [if_neg decimal, regionsSize, integerLength]
    rw [integerLength] at nonempty
    constructor
    · intro long
      rcases long with longer | ⟨_, divides⟩
      · exact longer.le
      · exact Nat.le_of_dvd nonempty divides
    · intro full
      rcases Nat.lt_or_eq_of_le full with longer | same
      · exact Or.inl longer
      · exact Or.inr ⟨marked, same ▸ Nat.dvd_refl groupSize⟩

end Numeral

namespace Check

open Numeral

variable {check : Check} {numeral : Numeral}

/-! ## Rules for numerals longer than one group -/

theorem minimumSize_longerThanOneGroup (groupSize : UInt8) :
    (Rule.longerThanOneGroup groupSize).minimumSize.toNat = groupSize.toNat + 1 := by
  have bounded := groupSize.toNat_lt
  rw [Rule.longerThanOneGroup, UInt64.toNat_add, UInt8.toNat_toUInt64, UInt64.toNat_one]
  omega

/-- Of numerals without separators such a rule has exactly those grouped that are longer
than one group, whether or not the check passes over separated ones. -/
theorem suggest?_of_longerThanOneGroup
    (form : numeral.WellFormed) (unseparated : separator ∉ numeral.text)
    {groupSize : UInt8}
    (rule : check.style.ruleFor numeral.base = .longerThanOneGroup groupSize) :
    check.suggest? numeral =
      if groupSize.toNat < numeral.size then
        some ⟨numeral.text, numeral.grouped groupSize.toNat, numeral.base⟩
      else
        none := by
  have size : (check.style.ruleFor numeral.base).groupSize = groupSize := by
    rw [rule, Rule.longerThanOneGroup]
  have minimum : (check.style.ruleFor numeral.base).minimumSize.toNat = groupSize.toNat + 1 := by
    rw [rule, minimumSize_longerThanOneGroup]
  have canonical : check.canonicalText numeral = numeral.grouped groupSize.toNat := by
    rw [canonicalText, size]
  have positive : 0 < groupSize.toNat := by
    apply Nat.pos_of_ne_zero
    intro zero
    apply check.valid numeral.base
    rw [size]
    exact UInt8.toNat_inj.1 zero
  split
  · rename_i longer
    have divided : ∃ place, numeral.IsBreak groupSize.toNat place := by
      rw [form.exists_isBreak_iff_size positive]
      split
      · exact longer
      · exact longer.le
    refine suggest?_eq_some_iff.2 ⟨?_, ?_, ?_, ?_⟩
    · intro passed
      exact unseparated (form.hasSeparators_iff.1 passed.2)
    · rw [minimum]
      exact longer
    · rw [canonical, ne_eq, form.grouped_eq_text_iff unseparated, not_not]
      exact divided
    · rw [canonical]
  · rename_i notLonger
    rw [Option.eq_none_iff_forall_ne_some]
    intro suggestion found
    have large := (suggest?_eq_some_iff.1 found).2.1
    rw [minimum] at large
    exact notLonger large

/-- A numeral without separators is left as it is by grouping when its size is at most one
group, and behind a mark when it is less.  A check that has the rule for numerals longer
than one group suggests the grouped text when the size is more than one group, whether or
not it passes over separated numerals. -/
theorem grouped_and_suggested_iff_size
    {text : Text} (reading : parse? text = some numeral) (unseparated : separator ∉ text) :
    (∀ groupSize, 0 < groupSize →
      (numeral.base = .decimal →
        (numeral.grouped groupSize = numeral.text ↔ numeral.size ≤ groupSize)) ∧
      (numeral.base ≠ .decimal →
        (numeral.grouped groupSize = numeral.text ↔ numeral.size < groupSize))) ∧
    ∀ (check : Check) (groupSize : UInt8),
      check.style.ruleFor numeral.base = .longerThanOneGroup groupSize →
        check.suggestFor? text =
          if groupSize.toNat < numeral.size then
            some ⟨numeral.text, numeral.grouped groupSize.toNat, numeral.base⟩
          else
            none := by
  obtain ⟨form, spelled⟩ := parse?_eq_some_iff.1 reading
  have inText : separator ∉ numeral.text := by
    rw [spelled]
    exact fun member => unseparated (Text.mem_of_mem_trim member)
  refine ⟨?_, ?_⟩
  · intro groupSize positive
    rw [form.grouped_eq_text_iff inText, form.exists_isBreak_iff_size positive]
    refine ⟨?_, ?_⟩
    · intro decimal
      rw [if_pos decimal, Nat.not_lt]
    · intro marked
      rw [if_neg marked, Nat.not_le]
  · intro check groupSize rule
    rw [suggestFor?, reading, Option.bind_some]
    exact suggest?_of_longerThanOneGroup form inText rule

/-- Four hexadecimal digits fill a group of four, so that grouping opens them with a
separator, but they are not longer than it. -/
theorem grouped_and_suggested_iff_size_wordHex :
    ∃ numeral, parse? "0xBEEFu".toList = some numeral ∧ separator ∉ "0xBEEFu".toList ∧
      numeral.grouped 4 ≠ numeral.text ∧
        ∃ check, ofStyle .wordHex = .ok check ∧
          check.suggestFor? "0xBEEFu".toList = none ∧
            check.skipSeparated.suggestFor? "0xBEEFu".toList = none := by
  have unseparated : separator ∉ "0xBEEFu".toList := by decide
  obtain ⟨numeral, reading, isHexadecimal, size⟩ :
      ∃ numeral, parse? "0xBEEFu".toList = some numeral ∧ numeral.base = .hexadecimal ∧
        numeral.size = 4 :=
    ⟨_, rfl, rfl, rfl⟩
  obtain ⟨check, made, rule⟩ :
      ∃ check, ofStyle .wordHex = .ok check ∧
        check.style.ruleFor .hexadecimal = .longerThanOneGroup 4 :=
    ⟨_, rfl, rfl⟩
  have four : 0 < 4 := by decide
  have marked : numeral.base ≠ .decimal := by
    rw [isHexadecimal]
    decide
  have notLonger : ¬ (4 : UInt8).toNat < numeral.size := by
    rw [size]
    decide
  obtain ⟨grouping, suggesting⟩ := grouped_and_suggested_iff_size reading unseparated
  rw [isHexadecimal] at suggesting
  refine ⟨numeral, reading, unseparated, ?_, check, made, ?_, ?_⟩
  · rw [ne_eq, (grouping 4 four).2 marked, size]
    decide
  · rw [suggesting check 4 rule, if_neg notLonger]
  · rw [suggesting check.skipSeparated 4 rule, if_neg notLonger]

end Check

end NumeralStyle
