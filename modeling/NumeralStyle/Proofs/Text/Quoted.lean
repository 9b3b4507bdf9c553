import Mathlib
import NumeralStyle.Text.Quoted

/-!
# Quoted texts can be told apart

No quoted character is the beginning of another, and none opens with the quote that ends
the text.  The main statements say that a quoted text can be taken off the front of
anything, so that different texts are quoted differently, and that line breaks never
stand in a quoted text.
-/

namespace NumeralStyle.Text

/-- What is written can be split off the front of any longer text. -/
def SelfDelimiting {Value : Type} (write : Value → Text) : Prop :=
  ∀ left right rest otherRest,
    write left ++ rest = write right ++ otherRest → left = right ∧ rest = otherRest

theorem SelfDelimiting.injective
    {Value : Type} {write : Value → Text} (delimits : SelfDelimiting write) :
    Function.Injective write := by
  intro left right same
  exact (delimits left right [] [] (congrArg (· ++ []) same)).1

/-- Values behind each other stay apart up to a closing character with which none of them
opens. -/
theorem SelfDelimiting.flatMap_closed
    {Value : Type} {write : Value → Text} (delimits : SelfDelimiting write) {close : Char}
    (opened : ∀ value, ∃ first behind, write value = first :: behind ∧ first ≠ close) :
    SelfDelimiting fun values : List Value => values.flatMap write ++ [close] := by
  intro left right rest otherRest same
  simp only [List.append_assoc] at same
  induction left generalizing right with
  | nil =>
      cases right with
      | nil => exact ⟨rfl, (List.cons.inj same).2⟩
      | cons value values =>
          obtain ⟨first, behind, shape, different⟩ := opened value
          rw [List.flatMap_cons, shape] at same
          exact absurd (List.cons.inj same).1.symm different
  | cons value values inductionHypothesis =>
      cases right with
      | nil =>
          obtain ⟨first, behind, shape, different⟩ := opened value
          rw [List.flatMap_cons, shape] at same
          exact absurd (List.cons.inj same).1 different
      | cons otherValue otherValues =>
          rw [List.flatMap_cons, List.flatMap_cons, List.append_assoc, List.append_assoc] at same
          obtain ⟨sameValue, sameRest⟩ := delimits _ _ _ _ same
          obtain ⟨sameValues, sameEnd⟩ := inductionHypothesis otherValues sameRest
          exact ⟨by rw [sameValue, sameValues], sameEnd⟩

/-- A text without the closing character ends where that character comes first. -/
theorem append_closed_inj
    {front otherFront rest otherRest : Text} {close : Char}
    (absent : close ∉ front) (otherAbsent : close ∉ otherFront)
    (same : front ++ close :: rest = otherFront ++ close :: otherRest) :
    front = otherFront ∧ rest = otherRest := by
  rcases List.append_eq_append_iff.1 same with ⟨between, rfl, split⟩ | ⟨between, rfl, split⟩
  · cases between with
    | nil => exact ⟨(List.append_nil front).symm, (List.cons.inj split).2⟩
    | cons letter between =>
        rw [(List.cons.inj split).1] at otherAbsent
        exact absurd (List.mem_append_right front List.mem_cons_self) otherAbsent
  · cases between with
    | nil => exact ⟨List.append_nil otherFront, (List.cons.inj split).2.symm⟩
    | cons letter between =>
        rw [(List.cons.inj split).1] at absent
        exact absurd (List.mem_append_right otherFront List.mem_cons_self) absent

/-! ## Hexadecimal digits -/

theorem exists_digitChar_of_mem_toDigits
    {base value : Nat} {letter : Char} (large : 1 < base)
    (member : letter ∈ Nat.toDigits base value) :
    ∃ digit < base, letter = Nat.digitChar digit := by
  induction value using Nat.strongRecOn with
  | ind value inductionHypothesis =>
      rw [Nat.toDigits_eq_if large] at member
      split at member
      · rename_i small
        exact ⟨value, small, List.mem_singleton.1 member⟩
      · rename_i notSmall
        rcases List.mem_append.1 member with inFront | isLast
        · exact inductionHypothesis (value / base) (Nat.div_lt_self (by omega) large) inFront
        · exact ⟨value % base, Nat.mod_lt value (by omega), List.mem_singleton.1 isLast⟩

theorem digitChar_injective_of_lt :
    ∀ digit < 16, ∀ other < 16, Nat.digitChar digit = Nat.digitChar other → digit = other := by
  decide

theorem toDigits_sixteen_injective : Function.Injective (Nat.toDigits 16) := by
  have large : 1 < 16 := by decide
  intro value
  induction value using Nat.strongRecOn with
  | ind value inductionHypothesis =>
      intro other same
      rw [Nat.toDigits_eq_if large, Nat.toDigits_eq_if (n := other) large] at same
      split at same <;> split at same
      · rename_i small otherSmall
        exact digitChar_injective_of_lt value small other otherSmall (List.cons.inj same).1
      · rename_i small otherLarge
        have empty := (List.append_eq_singleton_iff.1 same.symm)
        simp [Nat.toDigits_ne_nil] at empty
      · have empty := (List.append_eq_singleton_iff.1 same)
        simp [Nat.toDigits_ne_nil] at empty
      · rename_i notSmall otherNotSmall
        obtain ⟨sameFront, sameLast⟩ := List.append_inj' same rfl
        have front := inductionHypothesis (value / 16) (by omega) sameFront
        have last := digitChar_injective_of_lt (value % 16) (Nat.mod_lt value (by decide))
          (other % 16) (Nat.mod_lt other (by decide)) (List.cons.inj sameLast).1
        omega

/-! ## Quoted characters -/

/-- The characters with an escape of two characters, and the second of these. -/
def shortEscapes : List (Char × Char) :=
  [('"', '"'), ('\\', '\\'), ('\n', 'n'), ('\r', 'r'), ('\t', 't'), ('\x00', '0')]

/-- The ways in which a character is quoted. -/
inductive Quotes : Char → Text → Prop
  | short (letter code : Char) :
      (letter, code) ∈ shortEscapes →
      Quotes letter ['\\', code]
  | code (letter : Char) : Quotes letter (codeEscape letter)
  | plain (letter : Char) :
      letter ∉ shortEscapes.map Prod.fst →
      Quotes letter [letter]

theorem quotes_quoteLetter (letter : Char) : Quotes letter (quoteLetter letter) := by
  by_cases listed : letter ∈ shortEscapes.map Prod.fst
  · obtain ⟨⟨escaped, code⟩, member, rfl⟩ := List.mem_map.1 listed
    have short : quoteLetter escaped = ['\\', code] := by
      have all : ∀ pair ∈ shortEscapes, quoteLetter pair.1 = ['\\', pair.2] := by decide
      exact all _ member
    rw [short]
    exact Quotes.short escaped code member
  · have notListed := listed
    simp only [shortEscapes, List.map_cons, List.map_nil, List.mem_cons, List.not_mem_nil,
      or_false, not_or] at notListed
    obtain ⟨quote, backslash, newline, carriage, tabulator, null⟩ := notListed
    rw [quoteLetter, if_neg quote, if_neg backslash, if_neg newline, if_neg carriage,
      if_neg tabulator, if_neg null]
    split
    · exact Quotes.code letter
    · exact Quotes.plain letter listed

variable {letter otherLetter : Char} {text otherText rest otherRest : Text}

theorem brace_not_mem_toDigits (value : Nat) : '\x7d' ∉ Nat.toDigits 16 value := by
  intro member
  obtain ⟨digit, small, same⟩ := exists_digitChar_of_mem_toDigits (by decide) member
  have noBrace : ∀ digit < 16, '\x7d' ≠ Nat.digitChar digit := by decide
  exact noBrace digit small same

theorem selfDelimiting_codeEscape : SelfDelimiting codeEscape := by
  intro letter otherLetter rest otherRest same
  simp only [codeEscape, List.append_assoc, List.cons_append, List.nil_append,
    List.cons.injEq, true_and] at same
  obtain ⟨sameDigits, sameRest⟩ :=
    append_closed_inj (brace_not_mem_toDigits _) (brace_not_mem_toDigits _) same
  exact ⟨Char.toNat_inj.1 (toDigits_sixteen_injective sameDigits), sameRest⟩

/-- The second character of an escape tells which one it is. -/
theorem eq_of_mem_shortEscapes
    {code : Char} (member : (letter, code) ∈ shortEscapes)
    (otherMember : (otherLetter, code) ∈ shortEscapes) :
    letter = otherLetter := by
  have all : ∀ pair ∈ shortEscapes, ∀ other ∈ shortEscapes,
      pair.2 = other.2 → pair.1 = other.1 := by decide
  exact all _ member _ otherMember rfl

theorem u_not_mem_shortEscapes : (letter, 'u') ∉ shortEscapes := by
  have all : ∀ pair ∈ shortEscapes, pair.2 ≠ 'u' := by decide
  exact fun member => all _ member rfl

theorem backslash_mem_shortEscapes : '\\' ∈ shortEscapes.map Prod.fst := by
  decide

/-- Both kinds of escapes open with a backslash, which is never quoted by itself, and the
second character tells the two kinds apart. -/
theorem Quotes.append_inj
    (quotes : Quotes letter text) (otherQuotes : Quotes otherLetter otherText)
    (same : text ++ rest = otherText ++ otherRest) :
    letter = otherLetter ∧ rest = otherRest := by
  cases quotes with
  | short code member =>
      cases otherQuotes with
      | short otherCode otherMember =>
          obtain ⟨rfl, sameRest⟩ := List.cons.inj (List.cons.inj same).2
          exact ⟨eq_of_mem_shortEscapes member otherMember, sameRest⟩
      | code =>
          obtain ⟨rfl, -⟩ := List.cons.inj (List.cons.inj same).2
          exact absurd member u_not_mem_shortEscapes
      | plain notListed =>
          obtain ⟨rfl, -⟩ := List.cons.inj same
          exact absurd backslash_mem_shortEscapes notListed
  | code =>
      cases otherQuotes with
      | short otherCode otherMember =>
          obtain ⟨rfl, -⟩ := List.cons.inj (List.cons.inj same).2
          exact absurd otherMember u_not_mem_shortEscapes
      | code => exact selfDelimiting_codeEscape _ _ _ _ same
      | plain notListed =>
          obtain ⟨rfl, -⟩ := List.cons.inj same
          exact absurd backslash_mem_shortEscapes notListed
  | plain notListed =>
      cases otherQuotes with
      | short otherCode otherMember =>
          obtain ⟨rfl, -⟩ := List.cons.inj same
          exact absurd backslash_mem_shortEscapes notListed
      | code =>
          obtain ⟨rfl, -⟩ := List.cons.inj same
          exact absurd backslash_mem_shortEscapes notListed
      | plain => exact List.cons.inj same

theorem selfDelimiting_quoteLetter : SelfDelimiting quoteLetter :=
  fun letter otherLetter _ _ same =>
    (quotes_quoteLetter letter).append_inj (quotes_quoteLetter otherLetter) same

/-- A quoted character never looks like the end of the text. -/
theorem Quotes.opened (quotes : Quotes letter text) :
    ∃ first behind, text = first :: behind ∧ first ≠ '"' := by
  cases quotes with
  | short code member => exact ⟨_, _, rfl, by decide⟩
  | code => exact ⟨_, _, rfl, by decide⟩
  | plain notListed =>
      refine ⟨_, _, rfl, ?_⟩
      rintro rfl
      exact notListed (by decide)

/-- No line of the text ends before the text does. -/
def IsOneLine (text : Text) : Prop :=
  ∀ letter ∈ text, letter ∉ ['\n', '\r']

theorem isOneLine_of_all
    (unbroken : text.all (fun letter => letter ∉ ['\n', '\r']) = true) :
    IsOneLine text :=
  fun letter member => of_decide_eq_true (List.all_eq_true.1 unbroken letter member)

theorem IsOneLine.append (front : IsOneLine text) (back : IsOneLine otherText) :
    IsOneLine (text ++ otherText) :=
  fun letter member => (List.mem_append.1 member).elim (front letter) (back letter)

theorem isOneLine_flatMap
    {Value : Type} {values : List Value} {write : Value → Text}
    (all : ∀ value ∈ values, IsOneLine (write value)) :
    IsOneLine (values.flatMap write) := by
  intro letter member
  obtain ⟨value, listed, inValue⟩ := List.mem_flatMap.1 member
  exact all value listed letter inValue

theorem Quotes.isOneLine (quotes : Quotes letter text) : IsOneLine text := by
  cases quotes with
  | short code member =>
      have all : ∀ pair ∈ shortEscapes, pair.2 ∉ ['\n', '\r'] := by decide
      intro part inEscape
      rcases List.mem_cons.1 inEscape with rfl | isCode
      · decide
      · rw [List.mem_singleton.1 isCode]
        exact all _ member
  | code =>
      have digits : ∀ digit < 16, Nat.digitChar digit ∉ ['\n', '\r'] := by decide
      intro part member
      simp only [codeEscape, List.mem_append, List.mem_cons, List.not_mem_nil, or_false,
        or_assoc] at member
      rcases member with rfl | rfl | rfl | inDigits | rfl
      · decide
      · decide
      · decide
      · obtain ⟨digit, small, rfl⟩ := exists_digitChar_of_mem_toDigits (by decide) inDigits
        exact digits digit small
      · decide
  | plain notListed =>
      intro part member lineBreak
      rw [List.mem_singleton.1 member, List.mem_cons, List.mem_singleton] at lineBreak
      rcases lineBreak with rfl | rfl <;> exact notListed (by decide)

/-! ## Quoted texts -/

/-- A quoted text can be split off the front of anything. -/
theorem selfDelimiting_quote : SelfDelimiting quote := by
  have closed := selfDelimiting_quoteLetter.flatMap_closed
    fun letter => (quotes_quoteLetter letter).opened
  intro left right rest otherRest same
  exact closed left right rest otherRest (List.cons.inj same).2

/-- Line breaks are shown by escapes. -/
theorem isOneLine_quote (text : Text) : IsOneLine (quote text) := by
  have quotes : IsOneLine ['"'] := isOneLine_of_all rfl
  have letters : IsOneLine (text.flatMap quoteLetter) :=
    isOneLine_flatMap fun letter _ => (quotes_quoteLetter letter).isOneLine
  exact (quotes.append letters).append quotes

end NumeralStyle.Text
