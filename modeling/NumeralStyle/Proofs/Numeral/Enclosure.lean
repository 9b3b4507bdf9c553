import NumeralStyle.Proofs.Numeral.Shape

/-!
# Enclosed separators

The shape of a real can be told without its regions: it is that of the digits without
separators, and every separator is enclosed by digits.  That is a condition on
neighbouring characters only, so that it splits along with a text.  The main statement
says that both descriptions agree.
-/

namespace NumeralStyle

/-- Next to a separator stands a digit or another separator. -/
def Joins (left right : Char) : Prop :=
  (left = separator → isDigitOrSeparator right = true) ∧
    (right = separator → isDigitOrSeparator left = true)

/-- No separator stands at either end or next to anything but digits and separators. -/
structure Enclosed (text : Text) : Prop where
  opened : text.head? ≠ some separator
  closed : text.getLast? ≠ some separator
  joined : text.IsChain Joins

variable {front back run text : Text}

theorem joins_of_ne {left right : Char} (leftDiffers : left ≠ separator)
    (rightDiffers : right ≠ separator) :
    Joins left right :=
  ⟨fun same => absurd same leftDiffers, fun same => absurd same rightDiffers⟩

theorem ne_separator_of_not_isDigitOrSeparator
    {letter : Char} (outside : isDigitOrSeparator letter = false) :
    letter ≠ separator := by
  rintro rfl
  cases outside

theorem enclosed_nil : Enclosed [] :=
  ⟨nofun, nofun, List.IsChain.nil⟩

theorem enclosed_singleton {letter : Char} (different : letter ≠ separator) :
    Enclosed [letter] := by
  have ends : some letter ≠ some separator := fun same => different (Option.some.inj same)
  exact ⟨ends, ends, List.IsChain.singleton letter⟩

theorem Enclosed.append (left : Enclosed front) (right : Enclosed back) :
    Enclosed (front ++ back) := by
  refine ⟨?_, ?_, List.isChain_append.2 ⟨left.joined, right.joined, ?_⟩⟩
  · rw [List.head?_append]
    cases first : front.head? with
    | none => exact right.opened
    | some letter =>
        rw [Option.some_or, ← first]
        exact left.opened
  · rw [List.getLast?_append]
    cases last : back.getLast? with
    | none => exact left.closed
    | some letter =>
        rw [Option.some_or, ← last]
        exact right.closed
  · intro letter last other first
    refine joins_of_ne ?_ ?_
    · rintro rfl
      exact left.closed last
    · rintro rfl
      exact right.opened first

/-- A character that is neither a digit nor a separator divides an enclosed text. -/
theorem Enclosed.of_append_cons
    {letter : Char} (enclosed : Enclosed (front ++ letter :: back))
    (outside : isDigitOrSeparator letter = false) :
    Enclosed front ∧ Enclosed back := by
  obtain ⟨frontJoined, joined, across⟩ := List.isChain_append.1 enclosed.joined
  obtain ⟨following, backJoined⟩ := List.isChain_cons.1 joined
  have notAccepted : isDigitOrSeparator letter ≠ true := by
    rw [outside]
    exact Bool.false_ne_true
  refine ⟨⟨?_, ?_, frontJoined⟩, ⟨?_, ?_, backJoined⟩⟩
  · intro first
    apply enclosed.opened
    rw [List.head?_append, first, Option.some_or]
  · intro last
    exact notAccepted ((across separator last letter rfl).1 rfl)
  · intro first
    exact notAccepted ((following separator first).2 rfl)
  · intro last
    apply enclosed.closed
    rw [List.getLast?_append, List.getLast?_cons, last]
    rfl

theorem scrub_cons_of_ne {letter : Char} (different : letter ≠ separator) (rest : Text) :
    scrub (letter :: rest) = letter :: scrub rest :=
  List.filter_cons_of_pos (decide_eq_true different)

/-- An enclosed text without digits and other characters is empty. -/
theorem Enclosed.eq_nil_of_scrub (enclosed : Enclosed text) (empty : scrub text = []) :
    text = [] := by
  cases text with
  | nil => rfl
  | cons letter rest =>
      have different : letter ≠ separator := fun same => enclosed.opened (congrArg some same)
      rw [scrub_cons_of_ne different] at empty
      cases empty

/-! ## Runs of digits -/

theorem isDigitRun_iff_scrub :
    isDigitRun run = true ↔ isDigitRun (scrub run) = true ∧ Enclosed run := by
  constructor
  · intro isRun
    obtain ⟨⟨first, opening, firstDigit⟩, ⟨last, closing, lastDigit⟩, accepted⟩ :=
      isDigitRun_iff.1 isRun
    refine ⟨isDigitRun_scrub isRun, ?_, ?_, List.Pairwise.isChain ?_⟩
    · rw [opening]
      exact fun same => ne_separator_of_isDigit firstDigit (Option.some.inj same)
    · rw [closing]
      exact fun same => ne_separator_of_isDigit lastDigit (Option.some.inj same)
    · refine List.pairwise_of_forall_mem_list fun left inLeft right inRight => ?_
      exact ⟨fun _ => accepted right inRight, fun _ => accepted left inLeft⟩
  · intro conditions
    obtain ⟨scrubbedRun, enclosed⟩ := conditions
    have nonempty : run ≠ [] := by
      rintro rfl
      cases scrubbedRun
    have scrubbedAccepted := (isDigitRun_iff.1 scrubbedRun).2.2
    have accepted : ∀ letter ∈ run, isDigitOrSeparator letter = true := by
      intro letter member
      by_cases same : letter = separator
      · rw [same]
        rfl
      · exact scrubbedAccepted letter (List.mem_filter.2 ⟨member, decide_eq_true same⟩)
    have firstDigit : (run.head nonempty).isDigit = true := by
      apply isDigit_of_isDigitOrSeparator (accepted _ (List.head_mem nonempty))
      intro same
      apply enclosed.opened
      rw [List.head?_eq_some_head nonempty, same]
    have lastDigit : (run.getLast nonempty).isDigit = true := by
      apply isDigit_of_isDigitOrSeparator (accepted _ (List.getLast_mem nonempty))
      intro same
      apply enclosed.closed
      rw [List.getLast?_eq_some_getLast nonempty, same]
    exact isDigitRun_iff.2 ⟨⟨_, List.head?_eq_some_head nonempty, firstDigit⟩,
      ⟨_, List.getLast?_eq_some_getLast nonempty, lastDigit⟩, accepted⟩

theorem enclosed_of_isDigitRun (isRun : isDigitRun run = true) : Enclosed run :=
  (isDigitRun_iff_scrub.1 isRun).2

/-- A sign in front of digits is left in front when separators are put back. -/
theorem Enclosed.exists_sign_append
    {sign : Text} (enclosed : Enclosed text) (isSign : sign ∈ signs)
    (isRun : isDigitRun run = true) (scrubbed : scrub text = sign ++ run) :
    ∃ digits, isDigitRun digits = true ∧ text = sign ++ digits := by
  have unsigned : isDigitRun (scrub text) = true →
      ∃ digits, isDigitRun digits = true ∧ text = [] ++ digits := fun scrubbedRun =>
    ⟨text, isDigitRun_iff_scrub.2 ⟨scrubbedRun, enclosed⟩, rfl⟩
  have signed : ∀ mark, isDigitOrSeparator mark = false → scrub text = mark :: run →
      ∃ digits, isDigitRun digits = true ∧ text = [mark] ++ digits := by
    intro mark outside scrubbed
    cases text with
    | nil => cases scrubbed
    | cons letter rest =>
        have different : letter ≠ separator := fun same => enclosed.opened (congrArg some same)
        rw [scrub_cons_of_ne different, List.cons.injEq] at scrubbed
        obtain ⟨rfl, restScrubbed⟩ := scrubbed
        have whole : Enclosed ([] ++ letter :: rest) := enclosed
        have restEnclosed := (whole.of_append_cons outside).2
        exact ⟨rest, isDigitRun_iff_scrub.2 ⟨restScrubbed ▸ isRun, restEnclosed⟩, rfl⟩
  rcases mem_signs_iff.1 isSign with rfl | rfl | rfl
  · exact unsigned (scrubbed ▸ isRun)
  · exact signed '+' rfl scrubbed
  · exact signed '-' rfl scrubbed

namespace Regions

variable {regions : Regions}

/-! ## Regions of reals -/

theorem not_isDigitOrSeparator_of_isExponentMarker
    {letter : Char} (marked : isExponentMarker letter = true) :
    isDigitOrSeparator letter = false := by
  by_contra accepted
  rw [not_isExponentMarker_of_isDigitOrSeparator (by simpa using accepted)] at marked
  cases marked

theorem enclosed_mantissa (shape : regions.hasMantissaShape = true) :
    Enclosed regions.mantissa := by
  have point : Enclosed ['.'] := enclosed_singleton (by decide)
  rw [mantissa]
  rcases hasMantissaShape_iff.1 shape with ⟨absent, integer⟩ | ⟨fraction, present, integer, run⟩
  · rw [absent]
    exact enclosed_of_isDigitRun integer
  · have integerEnclosed : Enclosed regions.integer := by
      rcases integer with empty | isRun
      · rw [empty]
        exact enclosed_nil
      · exact enclosed_of_isDigitRun isRun
    rw [present]
    exact integerEnclosed.append (point.append (enclosed_of_isDigitRun run))

/-- The separators of a real are enclosed by digits. -/
theorem IsReal.enclosed (real : regions.IsReal) : Enclosed regions.text := by
  rw [text]
  refine (enclosed_mantissa real.mantissa).append ?_
  rcases real.exponent with absent | ⟨marker, sign, run, marked, isSign, isRun, present⟩
  · rw [absent]
    exact enclosed_nil
  · have outside := not_isDigitOrSeparator_of_isExponentMarker marked
    have markerEnclosed := enclosed_singleton (ne_separator_of_not_isDigitOrSeparator outside)
    have signEnclosed : Enclosed sign := by
      rcases mem_signs_iff.1 isSign with rfl | rfl | rfl
      · exact enclosed_nil
      · exact enclosed_singleton (by decide)
      · exact enclosed_singleton (by decide)
    rw [present]
    exact markerEnclosed.append (signEnclosed.append (enclosed_of_isDigitRun isRun))

theorem hasMantissaShape_of_scrubbed
    (shape : regions.scrubbed.hasMantissaShape = true) (enclosed : Enclosed regions.mantissa) :
    regions.hasMantissaShape = true := by
  rw [hasMantissaShape_iff] at shape ⊢
  rw [mantissa] at enclosed
  cases present : regions.fraction with
  | none =>
      rw [present] at enclosed
      have integer : isDigitRun (scrub regions.integer) = true := by
        simpa [scrubbed, present] using shape
      exact Or.inl ⟨rfl, isDigitRun_iff_scrub.2 ⟨integer, enclosed⟩⟩
  | some fraction =>
      rw [present] at enclosed
      obtain ⟨integer, run⟩ : (scrub regions.integer = [] ∨
          isDigitRun (scrub regions.integer) = true) ∧ isDigitRun (scrub fraction) = true := by
        simpa [scrubbed, present] using shape
      have point : isDigitOrSeparator '.' = false := rfl
      obtain ⟨integerEnclosed, fractionEnclosed⟩ := enclosed.of_append_cons point
      exact Or.inr ⟨fraction, rfl,
        integer.imp integerEnclosed.eq_nil_of_scrub
          fun isRun => isDigitRun_iff_scrub.2 ⟨isRun, integerEnclosed⟩,
        isDigitRun_iff_scrub.2 ⟨run, fractionEnclosed⟩⟩

/-- Regions are those of a real if they are without separators and the separators are
enclosed by digits. -/
theorem isReal_of_scrubbed
    (scrubbed : regions.scrubbed.IsReal) (enclosed : Enclosed regions.text)
    (marked : ∀ letter ∈ regions.exponent.head?, isExponentMarker letter = true) :
    regions.IsReal := by
  rw [text] at enclosed
  cases present : regions.exponent with
  | nil =>
      rw [present, List.append_nil] at enclosed
      exact ⟨hasMantissaShape_of_scrubbed scrubbed.mantissa enclosed, Or.inl present⟩
  | cons marker power =>
      rw [present] at enclosed marked
      have isMarker : isExponentMarker marker = true := marked marker rfl
      have outside := not_isDigitOrSeparator_of_isExponentMarker isMarker
      have scrubbedExponent : regions.scrubbed.exponent = marker :: scrub power := by
        rw [Regions.scrubbed, present,
          scrub_cons_of_ne (ne_separator_of_not_isDigitOrSeparator outside)]
      obtain ⟨mantissaEnclosed, powerEnclosed⟩ := enclosed.of_append_cons outside
      refine ⟨hasMantissaShape_of_scrubbed scrubbed.mantissa mantissaEnclosed, Or.inr ?_⟩
      rcases scrubbed.exponent with absent | ⟨other, sign, run, _, isSign, isRun, whole⟩
      · rw [scrubbedExponent] at absent
        cases absent
      · rw [scrubbedExponent, List.cons.injEq] at whole
        obtain ⟨digits, digitsRun, split⟩ :=
          powerEnclosed.exists_sign_append isSign isRun whole.2
        exact ⟨marker, sign, digits, isMarker, isSign, digitsRun, by rw [present, split]⟩

/-- Digits have real shape exactly if they have it without separators and the separators
are enclosed by digits. -/
theorem isReal_ofReal_iff_scrub {digits : Text} :
    (ofReal digits).IsReal ↔ (ofReal (scrub digits)).IsReal ∧ Enclosed digits := by
  rw [ofReal_scrub]
  constructor
  · intro real
    have enclosed := real.enclosed
    rw [text_ofReal] at enclosed
    exact ⟨real.scrubbed, enclosed⟩
  · intro conditions
    refine isReal_of_scrubbed conditions.1 ?_ fun _ => isExponentMarker_of_head?_exponent
    rw [text_ofReal]
    exact conditions.2

end Regions

end NumeralStyle
