import NumeralStyle.Proofs.Numeral.Letters

/-!
# Letter case

The case of a letter may be changed, for the letters of ASCII alone.  Texts that differ
in nothing else are the same text in lower case.  A test of characters that does not tell
a letter from its lower case gives the same answers on both texts, so that whatever is
cut out of a text by such tests commutes with changing the case.
-/

namespace NumeralStyle

/-- A function of characters that does not tell a letter from its lower case. -/
def IgnoresCase {α : Type} (test : Char → α) : Prop :=
  ∀ letter, test letter.toLower = test letter

namespace Text

/-- The text with the letters of ASCII in lower case. -/
def lower (text : Text) : Text :=
  text.map Char.toLower

/-- A text with the case of any of its letters changed.  Characters beyond ASCII have no
other case. -/
def IsCaseVariant (text variant : Text) : Prop :=
  List.Forall₂
    (fun letter other => other = letter ∨ other = letter.toLower ∨ other = letter.toUpper)
    text variant

end Text

open Text

/-! ## Tests that ignore case -/

def upperLetters : List Char :=
  (List.range 26).map fun index => Char.ofNat (65 + index)

theorem mem_upperLetters {letter : Char} (upper : letter.isUpper = true) :
    letter ∈ upperLetters := by
  obtain ⟨least, greatest⟩ := isUpper_iff_toNat.1 upper
  refine List.mem_map.2 ⟨letter.toNat - 65, List.mem_range.2 (by omega), ?_⟩
  rw [Nat.add_sub_cancel' least, Char.ofNat_toNat]

/-- Only the letters that have another lower case need to be tried. -/
theorem ignoresCase_of_upperLetters
    {α : Type} [DecidableEq α] {test : Char → α}
    (uppers : (upperLetters.all fun letter => test letter.toLower = test letter) = true) :
    IgnoresCase test := by
  intro letter
  by_cases upper : letter.isUpper = true
  · exact of_decide_eq_true (List.all_eq_true.1 uppers letter (mem_upperLetters upper))
  · rw [Char.toLower_eq_of_not_isUpper upper]

theorem ignoresCase_toLower : IgnoresCase Char.toLower :=
  ignoresCase_of_upperLetters (by decide)

theorem ignoresCase_isDigit : IgnoresCase Char.isDigit :=
  ignoresCase_of_upperLetters (by decide)

theorem ignoresCase_isDigitOrSeparator : IgnoresCase isDigitOrSeparator :=
  ignoresCase_of_upperLetters (by decide)

theorem ignoresCase_not_isExponentMarker : IgnoresCase fun letter => !isExponentMarker letter :=
  ignoresCase_of_upperLetters (by decide)

theorem ignoresCase_isBlank : IgnoresCase isBlank :=
  ignoresCase_of_upperLetters (by decide)

variable {letter other : Char}

/-- A character without case is not the lower case of another. -/
theorem toLower_eq_iff_of_not_isAlpha (caseless : other.isAlpha = false) :
    letter.toLower = other ↔ letter = other := by
  by_cases upper : letter.isUpper = true
  · have bounds := isUpper_iff_toNat.1 upper
    have validLower : (letter.toNat + 32).isValidChar := Or.inl (by omega)
    rw [Char.isAlpha, Bool.or_eq_false_iff, Bool.eq_false_iff, Bool.eq_false_iff, ne_eq, ne_eq,
      isUpper_iff_toNat, isLower_iff_toNat] at caseless
    rw [Char.toLower_eq_of_isUpper upper, ← Char.toNat_inj, ← Char.toNat_inj, Char.toNat_ofNat,
      if_pos validLower]
    omega
  · rw [Char.toLower_eq_of_not_isUpper upper]

/-- Characters with the same lower case are one character, or one is the other in lower or
in upper case. -/
theorem toLower_eq_toLower_iff :
    letter.toLower = other.toLower ↔
      other = letter ∨ other = letter.toLower ∨ other = letter.toUpper := by
  constructor
  · intro same
    by_cases upper : other.isUpper = true
    · have notLower : ¬ other.isLower = true := by
        rw [isUpper_iff_toNat] at upper
        rw [isLower_iff_toNat]
        omega
      have raised := congrArg Char.toUpper same
      rw [Char.toUpper_toLower_eq_toUpper, Char.toUpper_toLower_eq_toUpper,
        Char.toUpper_eq_of_not_isLower notLower] at raised
      exact Or.inr (Or.inr raised.symm)
    · rw [Char.toLower_eq_of_not_isUpper upper] at same
      exact Or.inr (Or.inl same.symm)
  · intro kind
    rcases kind with rfl | rfl | rfl
    · rfl
    · exact (ignoresCase_toLower letter).symm
    · exact (Char.toLower_toUpper_eq_toLower letter).symm

namespace Text

variable {text variant : Text} {accept : Char → Bool}

/-- A case variant is the same text in lower case. -/
theorem isCaseVariant_iff : text.IsCaseVariant variant ↔ lower text = lower variant := by
  have pointwise : text.IsCaseVariant variant ↔
      List.Forall₂ (fun letter other => letter.toLower = other.toLower) text variant := by
    simp only [IsCaseVariant, toLower_eq_toLower_iff]
  rw [pointwise, lower, lower, ← List.forall₂_eq_eq_eq, List.forall₂_map_left_iff,
    List.forall₂_map_right_iff]

/-! ## Texts in lower case -/

@[simp]
theorem lower_nil : lower [] = [] :=
  rfl

@[simp]
theorem lower_cons (letter : Char) (rest : Text) :
    lower (letter :: rest) = letter.toLower :: lower rest :=
  rfl

@[simp]
theorem lower_append (front back : Text) : lower (front ++ back) = lower front ++ lower back :=
  List.map_append

theorem lower_reverse (text : Text) : lower text.reverse = (lower text).reverse :=
  List.map_reverse

@[simp]
theorem length_lower (text : Text) : (lower text).length = text.length :=
  List.length_map _

@[simp]
theorem lower_lower (text : Text) : lower (lower text) = lower text := by
  rw [lower, lower, List.map_map]
  exact List.map_congr_left fun letter _ => ignoresCase_toLower letter

@[simp]
theorem lower_eq_nil_iff : lower text = [] ↔ text = [] :=
  List.map_eq_nil_iff

/-- Digits and separators have no case. -/
theorem lower_eq_self (digits : ∀ letter ∈ text, isDigitOrSeparator letter = true) :
    lower text = text := by
  have fixed : ∀ letter ∈ text, letter.toLower = id letter := by
    intro letter member
    apply Char.toLower_eq_of_not_isUpper
    intro upper
    have none : (upperLetters.all fun letter => !isDigitOrSeparator letter) = true := by decide
    have refused := List.all_eq_true.1 none letter (mem_upperLetters upper)
    rw [digits letter member] at refused
    cases refused
  rw [lower, List.map_congr_left fixed, List.map_id]

theorem head?_lower (text : Text) : (lower text).head? = text.head?.map Char.toLower :=
  List.head?_map

theorem getLast?_lower (text : Text) : (lower text).getLast? = text.getLast?.map Char.toLower :=
  List.getLast?_map

theorem head?_lower_eq_some_iff {first : Char} (caseless : first.isAlpha = false) :
    (lower text).head? = some first ↔ text.head? = some first := by
  simp only [head?_lower, Option.map_eq_some_iff, toLower_eq_iff_of_not_isAlpha caseless,
    exists_eq_right]

theorem getLast?_lower_eq_some_iff {last : Char} (caseless : last.isAlpha = false) :
    (lower text).getLast? = some last ↔ text.getLast? = some last := by
  simp only [getLast?_lower, Option.map_eq_some_iff, toLower_eq_iff_of_not_isAlpha caseless,
    exists_eq_right]

theorem mem_lower_iff {member : Char} (caseless : member.isAlpha = false) :
    member ∈ lower text ↔ member ∈ text := by
  simp only [lower, List.mem_map, toLower_eq_iff_of_not_isAlpha caseless, exists_eq_right]

theorem any_head?_lower (ignores : IgnoresCase accept) :
    (lower text).head?.any accept = text.head?.any accept := by
  rw [head?_lower, Option.any_map, funext ignores]

theorem any_getLast?_lower (ignores : IgnoresCase accept) :
    (lower text).getLast?.any accept = text.getLast?.any accept := by
  rw [getLast?_lower, Option.any_map, funext ignores]

theorem all_lower (ignores : IgnoresCase accept) : (lower text).all accept = text.all accept := by
  have same : accept ∘ Char.toLower = accept := funext ignores
  rw [lower, List.all_map, same]

theorem takeWhile_lower (ignores : IgnoresCase accept) :
    (lower text).takeWhile accept = lower (text.takeWhile accept) := by
  have same : accept ∘ Char.toLower = accept := funext ignores
  rw [lower, List.takeWhile_map, same]
  rfl

theorem dropWhile_lower (ignores : IgnoresCase accept) :
    (lower text).dropWhile accept = lower (text.dropWhile accept) := by
  have same : accept ∘ Char.toLower = accept := funext ignores
  rw [lower, List.dropWhile_map, same]
  rfl

theorem filter_lower (ignores : IgnoresCase accept) :
    (lower text).filter accept = lower (text.filter accept) := by
  have same : accept ∘ Char.toLower = accept := funext ignores
  rw [lower, List.filter_map, same]
  rfl

theorem trim_lower (text : Text) : trim (lower text) = lower (trim text) := by
  simp only [trim, trimEnd, trimStart, dropWhile_lower ignoresCase_isBlank, ← lower_reverse]

end Text

end NumeralStyle
