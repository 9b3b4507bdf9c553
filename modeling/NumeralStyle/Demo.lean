import NumeralStyle.Check

/-!
# Demonstration

A transcript that reads some texts, regroups some numerals and checks some others
against the conventional style, with one line for each.
-/

namespace NumeralStyle.Demo

/-- Fill a text up with spaces on the right. -/
def pad (width : Nat) (text : Text) : Text :=
  text ++ List.replicate (width - text.length) ' '

def readingLine (text : Text) : Text :=
  let column := "  ".toList ++ pad 20 text
  match Numeral.parse? text with
  | none => column ++ " rejected".toList
  | some numeral =>
    column ++ " base=".toList ++ pad 12 numeral.base.name.toList ++
      " prefix=".toList ++ pad 3 numeral.mark ++
      " digits=".toList ++ pad 16 numeral.digits ++
      " suffix=".toList ++ pad 3 numeral.suffix ++
      " integer=".toList ++ (if numeral.isInteger then "true" else "false").toList

/-- The line about regrouping a text, if the text is a numeral. -/
def regroupingLine? (text : Text) (groupSize : Nat) : Option Text :=
  (Numeral.parse? text).map fun numeral =>
    "  ".toList ++ pad 20 text ++ " -> ".toList ++ pad 20 (numeral.grouped groupSize) ++
      " (size ".toList ++ Nat.toDigits 10 numeral.size ++ ")".toList

def suggestionLine (suggestion : Suggestion) : Text :=
  "  ".toList ++ pad 20 suggestion.written ++ " should be ".toList ++
    suggestion.replacement ++ " (".toList ++ suggestion.base.name.toList ++ ")".toList

def readings : List Text :=
  ["10_543_765Lu".toList, "0x1ade_3FE1_29AaUL".toList, "0B1001_1010u".toList,
    ".3e5f".toList, "123_".toList, "count".toList]

def regrouped : List (Text × Nat) :=
  [("1_2__3___4____5".toList, 3), ("1234.5678e9".toList, 3), ("0xDEADBEEF".toList, 4)]

def checked : List Text :=
  ["1000000".toList, "0xFFFFFFFFu".toList, "0b1000000UL".toList, "123456.789".toList,
    "1_000".toList, "42".toList]

def conventionalCheck : Check where
  style := .conventional
  valid := Style.conventional.firstInvalid?_eq_none_iff.1 (by decide)

def transcript : List Text :=
  ["=== Digit Grouping Example ===".toList, [], "Parsing literals...".toList] ++
    readings.map readingLine ++
    [[], "Regrouping...".toList] ++
    regrouped.filterMap (fun (text, groupSize) => regroupingLine? text groupSize) ++
    [[], "Checking against the conventional policy...".toList] ++
    (conventionalCheck.suggestions checked).map suggestionLine ++
    [[], "=== Example Complete ===".toList]

end NumeralStyle.Demo
