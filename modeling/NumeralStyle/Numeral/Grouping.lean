import NumeralStyle.Numeral.Reading

/-!
# Grouping the digits of a numeral

The separators that a numeral has are replaced by one after each group of digits.
The integer is divided from the right and the fraction from the left; the exponent
stays undivided.  Groups of size zero mean that there are no separators.

One loop writes the digits of a region from left to right.  It knows the index of the
next digit that is preceded by a separator, and moves it on by a group each time it is
reached.
-/

namespace NumeralStyle

/-- A text in groups as far as it is written.  The letters are kept in reverse. -/
structure Grouper where
  groupSize : Nat
  reversed : Text
  deriving DecidableEq, Repr

namespace Grouper

def empty (groupSize : Nat) : Grouper :=
  ⟨groupSize, []⟩

/-- What is written so far. -/
def text (grouper : Grouper) : Text :=
  grouper.reversed.reverse

def push (grouper : Grouper) (letter : Char) : Grouper :=
  { grouper with reversed := letter :: grouper.reversed }

def pushText (grouper : Grouper) (text : Text) : Grouper :=
  { grouper with reversed := text.reverseAux grouper.reversed }

/-- Write a separator, unless nothing is written yet. -/
def pushSeparator (grouper : Grouper) : Grouper :=
  if grouper.reversed.isEmpty then grouper else grouper.push separator

/-- Write the digits of a run from the given index on, with a separator in front of the
digit at the next break and of each digit that is a number of groups behind it. -/
def pushRun (grouper : Grouper) (nextBreak index : Nat) : Text → Grouper
  | [] => grouper
  | digit :: rest =>
    if index = nextBreak then
      (grouper.pushSeparator.push digit).pushRun (nextBreak + grouper.groupSize) (index + 1) rest
    else
      (grouper.push digit).pushRun nextBreak (index + 1) rest

/-- The index of the first digit of a run that is preceded by a separator, when the groups
are full at the right end.  A run of full groups opens with a separator only where that is
allowed. -/
def firstBreak (groupSize : Nat) (allowsLeading : Bool) (length : Nat) : Nat :=
  if length % groupSize = 0 ∧ !allowsLeading then groupSize else length % groupSize

/-- Write a run in groups that are full at its right end. -/
def pushInteger (grouper : Grouper) (allowsLeading : Bool) (run : Text) : Grouper :=
  grouper.pushRun (firstBreak grouper.groupSize allowsLeading run.length) 0 run

/-- Write a run in groups that are full at its left end. -/
def pushFraction (grouper : Grouper) (run : Text) : Grouper :=
  grouper.pushRun grouper.groupSize 0 run

def pushMantissa (grouper : Grouper) (allowsLeading : Bool) (regions : Regions) : Grouper :=
  let integer := grouper.pushInteger allowsLeading regions.integer
  match regions.fraction with
  | none => integer
  | some fraction => (integer.push '.').pushFraction fraction

end Grouper

namespace Numeral

/-- The text of a numeral with its digits in groups.  Only behind a mark may a separator
open the digits. -/
def grouped (numeral : Numeral) (groupSize : Nat) : Text :=
  if groupSize = 0 then
    numeral.mark ++ numeral.scrubbedDigits ++ numeral.suffix
  else
    let marked := (Grouper.empty groupSize).pushText numeral.mark
    let mantissa := marked.pushMantissa (!numeral.mark.isEmpty) numeral.regions
    ((mantissa.pushText numeral.regions.exponent).pushText numeral.suffix).text

/-- What one regrouping of a text shows: the new text, and, if that is again a
numeral, its size and whether it is left unchanged by the same regrouping. -/
structure Regrouping where
  text : Text
  size : Option Nat
  isStable : Option Bool
  deriving DecidableEq, Repr

/-- Regroup a text with one group size after the other, until a text is no numeral.
The last entry is then absent. -/
def regroupings : List Nat → Text → List (Option Regrouping)
  | [], _ => []
  | groupSize :: groupSizes, text =>
    match parse? text with
    | none => [none]
    | some numeral =>
      let regrouped := numeral.grouped groupSize
      let again := parse? regrouped
      some
          { text := regrouped
            size := again.map size
            isStable := again.map fun numeral => numeral.grouped groupSize = regrouped } ::
        regroupings groupSizes regrouped

end Numeral

end NumeralStyle
