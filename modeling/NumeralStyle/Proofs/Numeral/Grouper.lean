import Mathlib.Data.Nat.ModEq
import NumeralStyle.Numeral.Grouping

/-!
# What the grouping loop writes

The loop that writes groups looks at one number only, the next break.  Inside a run the
next break is not behind the index and less than a group ahead of it.  Hence a digit
stands at the break exactly if its index is congruent to the break modulo the group size,
and the residue of the break stays as it is.  For an integer it is the residue of the
length, for a fraction it is zero, so that one loop counts from the right in one and from
the left in the other.  A first digit is at the break only behind a mark, and so the test
whether anything is written yet never holds a separator back.  The main statement gives the
grouped text of every numeral in terms of the digits that follow or precede each digit.
-/

namespace NumeralStyle

/-! ## Dividing without a loop -/

/-- Divide a run from the right: a separator precedes each digit from which the
number of digits to the end is a multiple of the group size. -/
def groupFromRight (groupSize : Nat) : Text → Text
  | [] => []
  | digit :: rest =>
    if (rest.length + 1) % groupSize = 0 then
      separator :: digit :: groupFromRight groupSize rest
    else
      digit :: groupFromRight groupSize rest

/-- Divide the integer of a numeral.  Only behind a mark may it open with a
separator. -/
def groupInteger (groupSize : Nat) (marked : Bool) : Text → Text
  | [] => []
  | digit :: rest =>
    if marked then
      groupFromRight groupSize (digit :: rest)
    else
      digit :: groupFromRight groupSize rest

/-- Divide a run from the left, when some digits of it stand already: a separator
precedes each digit whose distance from the start is a positive multiple of the
group size. -/
def groupFromLeft (groupSize : Nat) (preceding : Nat) : Text → Text
  | [] => []
  | digit :: rest =>
    if 0 < preceding ∧ preceding % groupSize = 0 then
      separator :: digit :: groupFromLeft groupSize (preceding + 1) rest
    else
      digit :: groupFromLeft groupSize (preceding + 1) rest

def Regions.grouped (groupSize : Nat) (marked : Bool) (regions : Regions) : Regions where
  integer := groupInteger groupSize marked regions.integer
  fraction := regions.fraction.map (groupFromLeft groupSize 0)
  exponent := regions.exponent

/-! ## Groups of size zero -/

theorem groupFromRight_zero (run : Text) : groupFromRight 0 run = run := by
  induction run with
  | nil => rfl
  | cons digit rest inductionHypothesis =>
      rw [groupFromRight, Nat.mod_zero, if_neg (Nat.succ_ne_zero rest.length), inductionHypothesis]

theorem groupInteger_zero (marked : Bool) (run : Text) : groupInteger 0 marked run = run := by
  cases run with
  | nil => rfl
  | cons digit rest =>
      cases marked with
      | true => exact groupFromRight_zero (digit :: rest)
      | false => exact congrArg (digit :: ·) (groupFromRight_zero rest)

theorem groupFromLeft_zero (preceding : Nat) (run : Text) :
    groupFromLeft 0 preceding run = run := by
  induction run generalizing preceding with
  | nil => rfl
  | cons digit rest inductionHypothesis =>
      have undivided : ¬ (0 < preceding ∧ preceding % 0 = 0) := by
        rw [Nat.mod_zero]
        omega
      rw [groupFromLeft, if_neg undivided, inductionHypothesis]

theorem Regions.grouped_zero (marked : Bool) (regions : Regions) :
    regions.grouped 0 marked = regions := by
  have identity : groupFromLeft 0 0 = id := funext (groupFromLeft_zero 0)
  rw [grouped, groupInteger_zero, identity, Option.map_id]
  rfl

namespace Grouper

variable {grouper : Grouper} {nextBreak index : Nat} {run : Text}

/-! ## Writing letters -/

@[simp]
theorem text_push (grouper : Grouper) (letter : Char) :
    (grouper.push letter).text = grouper.text ++ [letter] :=
  List.reverse_cons

@[simp]
theorem text_pushText (grouper : Grouper) (text : Text) :
    (grouper.pushText text).text = grouper.text ++ text := by
  simp [Grouper.text, pushText, List.reverseAux_eq]

@[simp]
theorem groupSize_push (grouper : Grouper) (letter : Char) :
    (grouper.push letter).groupSize = grouper.groupSize :=
  rfl

/-- Once something is written, a separator is written wherever one is due. -/
theorem pushSeparator_eq_push (opened : grouper.reversed ≠ []) :
    grouper.pushSeparator = grouper.push separator :=
  if_neg fun empty => opened (List.isEmpty_iff.1 empty)

@[simp]
theorem groupSize_pushSeparator (grouper : Grouper) :
    grouper.pushSeparator.groupSize = grouper.groupSize := by
  rw [pushSeparator]
  split <;> rfl

@[simp]
theorem groupSize_pushRun (grouper : Grouper) (nextBreak index : Nat) (run : Text) :
    (grouper.pushRun nextBreak index run).groupSize = grouper.groupSize := by
  induction run generalizing grouper nextBreak index with
  | nil => rfl
  | cons digit rest inductionHypothesis =>
      rw [pushRun]
      split
      · rw [inductionHypothesis]
        exact grouper.groupSize_pushSeparator
      · exact inductionHypothesis _ _ _

/-! ## Inside a run -/

/-- The state of the loop in front of a digit, when something is written already and the
break is not behind the digit and less than a group ahead of it. -/
structure IsInside (grouper : Grouper) (nextBreak index : Nat) : Prop where
  opened : grouper.reversed ≠ []
  reached : index ≤ nextBreak
  near : nextBreak < index + grouper.groupSize

namespace IsInside

/-- The break is reached where the index is congruent to it. -/
theorem eq_iff_modEq (inside : grouper.IsInside nextBreak index) :
    index = nextBreak ↔ index ≡ nextBreak [MOD grouper.groupSize] := by
  have reached := inside.reached
  have small : nextBreak - index < grouper.groupSize :=
    Nat.sub_lt_left_of_lt_add reached inside.near
  constructor
  · intro atBreak
    rw [atBreak]
  · intro congruent
    have divides := (Nat.modEq_iff_dvd' reached).1 congruent
    have together := Nat.eq_zero_of_dvd_of_lt divides small
    omega

/-- A digit at the break moves the break on by a group. -/
theorem push_separator
    (inside : grouper.IsInside nextBreak index) (atBreak : index = nextBreak) (digit : Char) :
    ((grouper.push separator).push digit).IsInside
      (nextBreak + grouper.groupSize) (index + 1) where
  opened := List.cons_ne_nil _ _
  reached := by
    have near := inside.near
    omega
  near := by
    rw [atBreak, Nat.add_right_comm]
    exact Nat.lt_succ_self _

/-- Any other digit leaves the break where it is. -/
theorem push
    (inside : grouper.IsInside nextBreak index) (notAtBreak : index ≠ nextBreak) (digit : Char) :
    (grouper.push digit).IsInside nextBreak (index + 1) where
  opened := List.cons_ne_nil _ _
  reached := inside.reached.lt_of_ne notAtBreak
  near := by
    rw [Nat.add_right_comm]
    exact Nat.lt_succ_of_lt inside.near

/-- When the break has the residue of the length, it counts groups from the right. -/
theorem text_pushRun_eq_groupFromRight
    (inside : grouper.IsInside nextBreak index)
    (aligned : nextBreak ≡ index + run.length [MOD grouper.groupSize]) :
    (grouper.pushRun nextBreak index run).text =
      grouper.text ++ groupFromRight grouper.groupSize run := by
  induction run generalizing grouper nextBreak index with
  | nil => exact (List.append_nil _).symm
  | cons digit rest inductionHypothesis =>
      have due : index = nextBreak ↔ (rest.length + 1) % grouper.groupSize = 0 := by
        rw [inside.eq_iff_modEq, ← Nat.dvd_iff_mod_eq_zero, ← Nat.left_modEq_add_iff]
        exact ⟨fun congruent => congruent.trans aligned, fun whole => whole.trans aligned.symm⟩
      -- The index and what is left of the run add up to the same length throughout.
      have alignedNext : nextBreak ≡ index + 1 + rest.length [MOD grouper.groupSize] := by
        rwa [Nat.add_right_comm]
      rw [pushRun, groupFromRight]
      by_cases atBreak : index = nextBreak
      · have moved : nextBreak + grouper.groupSize ≡ index + 1 + rest.length
            [MOD grouper.groupSize] := Nat.add_modEq_right.trans alignedNext
        have written := inductionHypothesis (inside.push_separator atBreak digit) moved
        rw [if_pos atBreak, if_pos (due.1 atBreak), pushSeparator_eq_push inside.opened, written]
        simp
      · have written := inductionHypothesis (inside.push atBreak digit) alignedNext
        rw [if_neg atBreak, if_neg (mt due.2 atBreak), written]
        simp

/-- When the break is a multiple of the group size, it counts groups from the left. -/
theorem text_pushRun_eq_groupFromLeft
    (inside : grouper.IsInside nextBreak index) (started : 0 < index)
    (aligned : grouper.groupSize ∣ nextBreak) :
    (grouper.pushRun nextBreak index run).text =
      grouper.text ++ groupFromLeft grouper.groupSize index run := by
  induction run generalizing grouper nextBreak index with
  | nil => exact (List.append_nil _).symm
  | cons digit rest inductionHypothesis =>
      have due : index = nextBreak ↔ 0 < index ∧ index % grouper.groupSize = 0 := by
        rw [inside.eq_iff_modEq, and_iff_right started, ← Nat.dvd_iff_mod_eq_zero,
          ← Nat.modEq_zero_iff_dvd]
        have residue := aligned.modEq_zero_nat
        exact ⟨fun congruent => congruent.trans residue, fun full => full.trans residue.symm⟩
      rw [pushRun, groupFromLeft]
      by_cases atBreak : index = nextBreak
      · have moved : grouper.groupSize ∣ nextBreak + grouper.groupSize :=
          Nat.dvd_add aligned (Nat.dvd_refl _)
        have written :=
          inductionHypothesis (inside.push_separator atBreak digit) (Nat.succ_pos index) moved
        rw [if_pos atBreak, if_pos (due.1 atBreak), pushSeparator_eq_push inside.opened, written]
        simp
      · have written := inductionHypothesis (inside.push atBreak digit) (Nat.succ_pos index) aligned
        rw [if_neg atBreak, if_neg (mt due.2 atBreak), written]
        simp

end IsInside

/-! ## Whole runs -/

/-- The first digit of a run is written by itself when the first break is behind it, and
the loop is inside the run from then on. -/
theorem isInside_of_first
    (positive : 0 < nextBreak) (short : nextBreak ≤ grouper.groupSize) (digit : Char) :
    (grouper.push digit).IsInside nextBreak 1 where
  opened := List.cons_ne_nil _ _
  reached := positive
  near := Nat.lt_one_add_iff.2 short

theorem pushRun_cons_of_pos (positive : 0 < nextBreak) (digit : Char) (rest : Text) :
    grouper.pushRun nextBreak 0 (digit :: rest) = (grouper.push digit).pushRun nextBreak 1 rest :=
  if_neg positive.ne

theorem firstBreak_true (groupSize length : Nat) :
    firstBreak groupSize true length = length % groupSize :=
  if_neg fun conditions => Bool.false_ne_true conditions.2

theorem firstBreak_pos {groupSize : Nat} (positive : 0 < groupSize) (length : Nat) :
    0 < firstBreak groupSize false length := by
  rw [firstBreak]
  by_cases full : length % groupSize = 0
  · rwa [if_pos ⟨full, rfl⟩]
  · rw [if_neg fun conditions => full conditions.1]
    exact Nat.pos_of_ne_zero full

theorem firstBreak_le {groupSize : Nat} (positive : 0 < groupSize) (marked : Bool) (length : Nat) :
    firstBreak groupSize marked length ≤ groupSize := by
  rw [firstBreak]
  split
  · exact le_rfl
  · exact (Nat.mod_lt length positive).le

/-- From the first break to the end of the run there are full groups. -/
theorem firstBreak_modEq (groupSize : Nat) (marked : Bool) (length : Nat) :
    firstBreak groupSize marked length ≡ length [MOD groupSize] := by
  rw [firstBreak]
  split
  · rename_i conditions
    have full : groupSize ∣ length := Nat.dvd_of_mod_eq_zero conditions.1
    exact Nat.modulus_modEq_zero.trans full.modEq_zero_nat.symm
  · exact Nat.mod_modEq length groupSize

/-- Behind a mark an integer may open with a separator, and without one it never does. -/
theorem text_pushInteger
    {marked : Bool} (positive : 0 < grouper.groupSize)
    (opened : marked = true → grouper.reversed ≠ []) :
    (grouper.pushInteger marked run).text =
      grouper.text ++ groupInteger grouper.groupSize marked run := by
  have aligned := firstBreak_modEq grouper.groupSize marked run.length
  have short := firstBreak_le positive marked run.length
  rw [pushInteger]
  cases run with
  | nil => exact (List.append_nil _).symm
  | cons digit rest =>
      cases marked with
      | true =>
          -- What is written of the mark already puts the loop inside.
          have near : firstBreak grouper.groupSize true (digit :: rest).length <
              0 + grouper.groupSize := by
            rw [firstBreak_true, Nat.zero_add]
            exact Nat.mod_lt _ positive
          have inside : grouper.IsInside _ 0 := ⟨opened rfl, Nat.zero_le _, near⟩
          apply inside.text_pushRun_eq_groupFromRight
          rwa [Nat.zero_add]
      | false =>
          have later := firstBreak_pos positive (digit :: rest).length
          have inside := isInside_of_first later short digit
          have alignedRest : firstBreak grouper.groupSize false (digit :: rest).length ≡
              1 + rest.length [MOD grouper.groupSize] := by
            rwa [Nat.add_comm 1]
          have written := inside.text_pushRun_eq_groupFromRight alignedRest
          rw [pushRun_cons_of_pos later, written]
          simp [groupInteger]

/-- A fraction never opens with a separator. -/
theorem text_pushFraction (positive : 0 < grouper.groupSize) :
    (grouper.pushFraction run).text = grouper.text ++ groupFromLeft grouper.groupSize 0 run := by
  rw [pushFraction]
  cases run with
  | nil => exact (List.append_nil _).symm
  | cons digit rest =>
      have inside := isInside_of_first positive le_rfl digit
      rw [pushRun_cons_of_pos positive,
        inside.text_pushRun_eq_groupFromLeft Nat.one_pos (Nat.dvd_refl _)]
      simp [groupFromLeft]

theorem text_pushMantissa
    {marked : Bool} (positive : 0 < grouper.groupSize)
    (opened : marked = true → grouper.reversed ≠ []) (regions : Regions) :
    (grouper.pushMantissa marked regions).text =
      grouper.text ++ (regions.grouped grouper.groupSize marked).mantissa := by
  have integer : (grouper.pushInteger marked regions.integer).text =
      grouper.text ++ groupInteger grouper.groupSize marked regions.integer :=
    text_pushInteger positive opened
  rw [pushMantissa, Regions.grouped, Regions.mantissa]
  cases regions.fraction with
  | none => exact integer
  | some fraction =>
      have sameSize : ((grouper.pushInteger marked regions.integer).push '.').groupSize =
          grouper.groupSize := grouper.groupSize_pushRun _ _ _
      dsimp only [Option.map_some]
      rw [text_pushFraction (by rwa [sameSize]), sameSize, text_push, integer]
      simp

end Grouper

namespace Numeral

theorem regions_text (numeral : Numeral) : numeral.regions.text = numeral.scrubbedDigits := by
  rw [regions]
  split
  · exact List.append_nil _
  · exact Regions.text_ofReal _

/-- The loop writes the regions of a numeral as they are divided without it. -/
theorem grouped_eq (numeral : Numeral) (groupSize : Nat) :
    numeral.grouped groupSize =
      numeral.mark ++ (numeral.regions.grouped groupSize (!numeral.mark.isEmpty)).text ++
        numeral.suffix := by
  by_cases zero : groupSize = 0
  · rw [grouped, if_pos zero, zero, Regions.grouped_zero, regions_text]
  · have marked : ((Grouper.empty groupSize).pushText numeral.mark).text = numeral.mark :=
      Grouper.text_pushText _ _
    have opened : (!numeral.mark.isEmpty) = true →
        ((Grouper.empty groupSize).pushText numeral.mark).reversed ≠ [] := by
      simp [Grouper.pushText, Grouper.empty]
    have mantissa :=
      Grouper.text_pushMantissa (Nat.pos_of_ne_zero zero) opened numeral.regions
    rw [grouped, if_neg zero]
    dsimp only
    rw [Grouper.text_pushText, Grouper.text_pushText, mantissa, marked, Regions.text,
      ← List.append_assoc]
    rfl

end Numeral

end NumeralStyle
