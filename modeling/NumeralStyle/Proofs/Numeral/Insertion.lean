import NumeralStyle.Proofs.Numeral.Enclosure
import NumeralStyle.Proofs.Numeral.Spelling

/-!
# Inserting separators

Separators that are put into the text of a numeral leave the text readable exactly at
legal positions: inside the digits between digits and separators, and right behind a
mark.  Elsewhere the text is rejected, also where it might fall to another way of
reading, since a spelling of a numeral can differ from it in its digits only.  The main
statement decides every position and says that what is read has all the parts of the
numeral and is grouped alike.
-/

namespace NumeralStyle

/-- Put separators into a text, behind as many characters as the position says. -/
def insertSeparators (count position : Nat) (text : Text) : Text :=
  text.take position ++ (List.replicate count separator ++ text.drop position)

/-- On both sides of a cut stands a digit of the base or a separator. -/
def Base.Surrounds (base : Base) (front back : Text) : Prop :=
  front.getLast?.any (Numeral.isIntegerDigit base) = true ∧
    back.head?.any (Numeral.isIntegerDigit base) = true

variable {front back : Text} {count position : Nat}

theorem Base.Surrounds.front_ne_nil {base : Base} (surrounds : base.Surrounds front back) :
    front ≠ [] := by
  rintro rfl
  cases surrounds.1

theorem Base.Surrounds.back_ne_nil {base : Base} (surrounds : base.Surrounds front back) :
    back ≠ [] := by
  rintro rfl
  cases surrounds.2

/-! ## At a cut -/

theorem getElem?_length_append (front back : Text) :
    (front ++ back)[front.length]? = back.head? := by
  rw [List.getElem?_append_right (Nat.le_refl _), Nat.sub_self, List.head?_eq_getElem?]

theorem getElem?_length_sub_one_append (nonempty : front ≠ []) (back : Text) :
    (front ++ back)[front.length - 1]? = front.getLast? := by
  have inside : front.length - 1 < front.length :=
    Nat.sub_one_lt (List.length_pos_iff.2 nonempty).ne'
  rw [List.getElem?_append_left inside, List.getLast?_eq_getElem?]

theorem insertSeparators_length_append (count : Nat) (front back : Text) :
    insertSeparators count front.length (front ++ back) =
      front ++ (List.replicate count separator ++ back) := by
  rw [insertSeparators, List.take_left, List.drop_left]

/-! ## Separators in a row -/

theorem scrub_append_separators (count : Nat) (front back : Text) :
    scrub (front ++ (List.replicate count separator ++ back)) = scrub (front ++ back) := by
  have separators : scrub (List.replicate count separator) = [] :=
    List.filter_replicate_of_neg (by decide)
  simp only [scrub_append, separators, List.nil_append]

theorem eq_separator_or_mem_of_mem_append_separators
    {letter : Char} (member : letter ∈ front ++ (List.replicate count separator ++ back)) :
    letter = separator ∨ letter ∈ front ++ back := by
  rcases List.mem_append.1 member with inFront | member
  · exact Or.inr (List.mem_append_left back inFront)
  · rcases List.mem_append.1 member with inRow | inBack
    · exact Or.inl (List.eq_of_mem_replicate inRow)
    · exact Or.inr (List.mem_append_right front inBack)

theorem head?_separators_append (positive : 0 < count) (back : Text) :
    (List.replicate count separator ++ back).head? = some separator := by
  rw [List.head?_append, List.head?_replicate, if_neg (Nat.ne_of_gt positive), Option.some_or]

theorem getLast?_append_separators (positive : 0 < count) (front : Text) :
    (front ++ List.replicate count separator).getLast? = some separator := by
  rw [List.getLast?_append, List.getLast?_replicate, if_neg (Nat.ne_of_gt positive),
    Option.some_or]

/-- What is put behind a beginning does not change the first character. -/
theorem head?_append_separators (nonempty : front ≠ []) (count : Nat) (back : Text) :
    (front ++ (List.replicate count separator ++ back)).head? = (front ++ back).head? := by
  rw [List.head?_append_of_ne_nil _ nonempty, List.head?_append_of_ne_nil _ nonempty]

theorem getLast?_separators_append (nonempty : back ≠ []) (count : Nat) (front : Text) :
    (front ++ (List.replicate count separator ++ back)).getLast? = (front ++ back).getLast? := by
  rw [← List.append_assoc, List.getLast?_append_of_ne_nil _ nonempty,
    List.getLast?_append_of_ne_nil _ nonempty]

/-! ## Enclosed separators -/

/-- Separators that are enclosed have digits or separators on both sides. -/
theorem Enclosed.surrounds_of_append_separators
    (inserted : Enclosed (front ++ (List.replicate count separator ++ back)))
    (positive : 0 < count) :
    Base.decimal.Surrounds front back := by
  have opening := head?_separators_append positive back
  have closing := getLast?_append_separators positive front
  obtain ⟨opened, closed, joined⟩ := inserted
  have frontJoined := (List.isChain_append.1 joined).2.2
  -- The cut behind the row of separators shows once the row is counted to the front.
  rw [← List.append_assoc] at closed joined
  have backJoined := (List.isChain_append.1 joined).2.2
  rw [Base.Surrounds, Option.any_eq_true, Option.any_eq_true]
  simp only [isIntegerDigit_decimal]
  constructor
  · cases last : front.getLast? with
    | none =>
        rw [List.getLast?_eq_none_iff.1 last, List.nil_append] at opened
        exact absurd opening opened
    | some letter =>
        exact ⟨letter, rfl, (frontJoined letter last separator opening).2 rfl⟩
  · cases first : back.head? with
    | none =>
        rw [List.head?_eq_none_iff.1 first, List.append_nil] at closed
        exact absurd closing closed
    | some letter =>
        exact ⟨letter, rfl, (backJoined separator closing letter first).1 rfl⟩

theorem Enclosed.append_separators
    (enclosed : Enclosed (front ++ back)) (surrounds : Base.decimal.Surrounds front back)
    (positive : 0 < count) :
    Enclosed (front ++ (List.replicate count separator ++ back)) := by
  have opening := head?_separators_append positive back
  obtain ⟨frontJoined, backJoined, _⟩ := List.isChain_append.1 enclosed.joined
  have rowJoined : (List.replicate count separator).IsChain Joins :=
    List.Pairwise.isChain (List.pairwise_replicate.2 (Or.inr ⟨fun _ => rfl, fun _ => rfl⟩))
  obtain ⟨last, frontLast, lastAccepted⟩ := (Option.any_eq_true _ _).1 surrounds.1
  obtain ⟨first, backFirst, firstAccepted⟩ := (Option.any_eq_true _ _).1 surrounds.2
  rw [isIntegerDigit_decimal] at lastAccepted firstAccepted
  refine ⟨?_, ?_, List.isChain_append.2 ⟨frontJoined,
    List.isChain_append.2 ⟨rowJoined, backJoined, ?_⟩, ?_⟩⟩
  · rw [head?_append_separators surrounds.front_ne_nil]
    exact enclosed.opened
  · rw [getLast?_separators_append surrounds.back_ne_nil]
    exact enclosed.closed
  · intro left rowLast right isFirst
    rw [List.eq_of_mem_replicate (List.mem_of_getLast? rowLast),
      Option.some.inj (isFirst.symm.trans backFirst)]
    exact ⟨fun _ => firstAccepted, fun _ => rfl⟩
  · intro left isLast right rowFirst
    rw [Option.some.inj (isLast.symm.trans frontLast),
      Option.some.inj (rowFirst.symm.trans opening)]
    exact ⟨fun _ => rfl, fun _ => lastAccepted⟩

/-- Without a row of separators the characters that were around it stand side by side. -/
theorem Enclosed.of_append_separators
    (enclosed : Enclosed (front ++ (List.replicate count separator ++ back)))
    (positive : 0 < count) :
    Enclosed (front ++ back) := by
  have surrounds := enclosed.surrounds_of_append_separators positive
  obtain ⟨frontJoined, rowJoined, _⟩ := List.isChain_append.1 enclosed.joined
  have backJoined := (List.isChain_append.1 rowJoined).2.1
  obtain ⟨last, frontLast, lastAccepted⟩ := (Option.any_eq_true _ _).1 surrounds.1
  obtain ⟨first, backFirst, firstAccepted⟩ := (Option.any_eq_true _ _).1 surrounds.2
  rw [isIntegerDigit_decimal] at lastAccepted firstAccepted
  refine ⟨?_, ?_, List.isChain_append.2 ⟨frontJoined, backJoined, ?_⟩⟩
  · rw [← head?_append_separators surrounds.front_ne_nil count]
    exact enclosed.opened
  · rw [← getLast?_separators_append surrounds.back_ne_nil count]
    exact enclosed.closed
  · intro left isLast right isFirst
    rw [Option.some.inj (isLast.symm.trans frontLast),
      Option.some.inj (isFirst.symm.trans backFirst)]
    exact ⟨fun _ => firstAccepted, fun _ => lastAccepted⟩

/-! ## Separators among the digits of integers -/

/-- All characters of an integer are digits of its base or separators. -/
theorem Base.IsIntegerDigits.surrounds_iff
    {base : Base} (form : base.IsIntegerDigits (front ++ back)) :
    base.Surrounds front back ↔ front ≠ [] ∧ back ≠ [] := by
  constructor
  · intro surrounds
    exact ⟨surrounds.front_ne_nil, surrounds.back_ne_nil⟩
  · intro nonempty
    obtain ⟨frontNonempty, backNonempty⟩ := nonempty
    have last := form.accepted _ (List.mem_append_left back (List.getLast_mem frontNonempty))
    have first := form.accepted _ (List.mem_append_right front (List.head_mem backNonempty))
    rw [Base.Surrounds, List.getLast?_eq_some_getLast frontNonempty,
      List.head?_eq_some_head backNonempty]
    exact ⟨last, first⟩

/-- No separator may end the digits of an integer, and only behind a mark one may open
them. -/
theorem Base.IsIntegerDigits.append_separators_iff
    {base : Base} (form : base.IsIntegerDigits (front ++ back)) (positive : 0 < count) :
    base.IsIntegerDigits (front ++ (List.replicate count separator ++ back)) ↔
      back ≠ [] ∧ (base = .decimal → front ≠ []) := by
  constructor
  · intro inserted
    refine ⟨?_, ?_⟩
    · rintro rfl
      apply inserted.closed
      rw [List.append_nil, getLast?_append_separators positive]
    · rintro decimal rfl
      apply inserted.opened decimal
      rw [List.nil_append, head?_separators_append positive]
  · intro conditions
    obtain ⟨backNonempty, frontNonempty⟩ := conditions
    refine ⟨?_, ?_, ?_, ?_⟩
    · simp [backNonempty]
    · intro letter member
      rcases eq_separator_or_mem_of_mem_append_separators member with rfl | original
      · rfl
      · exact form.accepted letter original
    · rw [getLast?_separators_append backNonempty]
      exact form.closed
    · intro decimal
      rw [head?_append_separators (frontNonempty decimal)]
      exact form.opened decimal

/-! ## Text around separators -/

/-- What is left of a text in front of separators, when none of them belongs to it. -/
theorem exists_append_of_append_separators
    {opening rest : Text} (unseparated : separator ∉ opening) (positive : 0 < count)
    (whole : opening ++ rest = front ++ (List.replicate count separator ++ back)) :
    ∃ left, front = opening ++ left := by
  rcases List.append_eq_append_iff.1 whole with ⟨left, split, _⟩ | ⟨beyond, split, shifted⟩
  · exact ⟨left, split⟩
  · cases beyond with
    | nil => exact ⟨[], by rw [split, List.append_nil, List.append_nil]⟩
    | cons letter others =>
        have first := head?_separators_append positive back
        rw [shifted] at first
        have same : letter = separator := Option.some.inj first
        rw [split, same] at unseparated
        exact absurd (List.mem_append_right front List.mem_cons_self) unseparated

theorem exists_append_of_separators_append
    {closing rest : Text} (unseparated : separator ∉ closing) (positive : 0 < count)
    (whole : rest ++ closing = front ++ (List.replicate count separator ++ back)) :
    ∃ right, back = right ++ closing := by
  have reversed : closing.reverse ++ rest.reverse =
      back.reverse ++ (List.replicate count separator ++ front.reverse) := by
    simpa using congrArg List.reverse whole
  obtain ⟨left, split⟩ := exists_append_of_append_separators
    (fun member => unseparated (List.mem_reverse.1 member)) positive reversed
  refine ⟨left.reverse, ?_⟩
  simpa using congrArg List.reverse split

namespace Numeral

variable {numeral other : Numeral} {left right : Text}

/-! ## Legal positions -/

/-- Where separators may be put into the text of a numeral: strictly inside the digits
with a digit of the base or a separator on both sides, or right behind a mark. -/
def IsLegal (numeral : Numeral) (position : Nat) : Prop :=
  (numeral.mark.length < position ∧ position < numeral.mark.length + numeral.digits.length ∧
      numeral.text[position - 1]?.any (isIntegerDigit numeral.base) = true ∧
      numeral.text[position]?.any (isIntegerDigit numeral.base) = true) ∨
    (numeral.mark ≠ [] ∧ position = numeral.mark.length)

instance (numeral : Numeral) (position : Nat) : Decidable (numeral.IsLegal position) :=
  inferInstanceAs (Decidable (_ ∨ _))

/-- A position among the digits is a cut of the digits. -/
theorem isLegal_iff_of_cut (cut : numeral.digits = left ++ right) :
    numeral.IsLegal (numeral.mark.length + left.length) ↔
      numeral.base.Surrounds left right ∨ (numeral.mark ≠ [] ∧ left = []) := by
  have length : (numeral.mark ++ left).length = numeral.mark.length + left.length :=
    List.length_append
  have text : numeral.text = (numeral.mark ++ left) ++ (right ++ numeral.suffix) := by
    rw [Numeral.text, cut]
    simp only [List.append_assoc]
  have before (nonempty : left ≠ []) :
      numeral.text[numeral.mark.length + left.length - 1]? = left.getLast? := by
    have nonemptyFront := List.append_ne_nil_of_right_ne_nil numeral.mark nonempty
    rw [text, ← length, getElem?_length_sub_one_append nonemptyFront,
      List.getLast?_append_of_ne_nil _ nonempty]
  have behind (nonempty : right ≠ []) :
      numeral.text[numeral.mark.length + left.length]? = right.head? := by
    rw [text, ← length, getElem?_length_append, List.head?_append_of_ne_nil _ nonempty]
  have strict : (numeral.mark.length < numeral.mark.length + left.length ∧
      numeral.mark.length + left.length < numeral.mark.length + numeral.digits.length) ↔
        left ≠ [] ∧ right ≠ [] := by
    rw [cut, List.length_append, ← List.length_pos_iff, ← List.length_pos_iff]
    omega
  have atMark : numeral.mark.length + left.length = numeral.mark.length ↔ left = [] := by
    rw [← List.length_eq_zero_iff]
    omega
  rw [IsLegal, ← and_assoc, strict, atMark]
  refine or_congr_left ?_
  constructor
  · intro conditions
    obtain ⟨⟨leftNonempty, rightNonempty⟩, last, first⟩ := conditions
    rw [before leftNonempty] at last
    rw [behind rightNonempty] at first
    exact ⟨last, first⟩
  · intro surrounds
    refine ⟨⟨surrounds.front_ne_nil, surrounds.back_ne_nil⟩, ?_, ?_⟩
    · rw [before surrounds.front_ne_nil]
      exact surrounds.1
    · rw [behind surrounds.back_ne_nil]
      exact surrounds.2

/-! ## Separators among the digits -/

theorem IntegerForm.append_separators_iff
    (form : numeral.IntegerForm) (cut : numeral.digits = left ++ right) (positive : 0 < count) :
    { numeral with digits := left ++ (List.replicate count separator ++ right) }.IntegerForm ↔
      numeral.base.Surrounds left right ∨ (numeral.mark ≠ [] ∧ left = []) := by
  have digits := form.digits
  rw [cut] at digits
  have inserted : { numeral with
        digits := left ++ (List.replicate count separator ++ right) }.IntegerForm ↔
      numeral.base.IsIntegerDigits (left ++ (List.replicate count separator ++ right)) :=
    ⟨IntegerForm.digits, fun digits => ⟨form.isInteger, form.mark, digits, form.suffix⟩⟩
  rw [inserted, digits.append_separators_iff positive, digits.surrounds_iff,
    form.base_eq_decimal_iff]
  by_cases empty : left = []
  · have rightNonempty : right ≠ [] := by
      rintro rfl
      exact digits.nonempty (by rw [empty, List.append_nil])
    simp [empty, rightNonempty]
  · simp [empty]

theorem RealForm.append_separators_iff
    (form : numeral.RealForm) (cut : numeral.digits = left ++ right) (positive : 0 < count) :
    { numeral with digits := left ++ (List.replicate count separator ++ right) }.RealForm ↔
      numeral.base.Surrounds left right := by
  have scrubbed := scrub_append_separators count left right
  rw [← cut] at scrubbed
  obtain ⟨scrubbedReal, enclosed⟩ := Regions.isReal_ofReal_iff_scrub.1 form.digits
  rw [cut] at enclosed
  constructor
  · intro inserted
    have insertedEnclosed := (Regions.isReal_ofReal_iff_scrub.1 inserted.digits).2
    rw [form.base]
    exact insertedEnclosed.surrounds_of_append_separators positive
  · intro surrounds
    rw [form.base] at surrounds
    have insertedEnclosed := enclosed.append_separators surrounds positive
    refine ⟨form.isInteger, form.base, form.mark, ?_, ?_⟩
    · refine Regions.isReal_ofReal_iff_scrub.2 ⟨?_, insertedEnclosed⟩
      rw [scrubbed]
      exact scrubbedReal
    · rw [scrubbed]
      exact form.suffix

/-- Separators may be put where they are surrounded, or in front of marked digits. -/
theorem WellFormed.append_separators_iff
    (form : numeral.WellFormed) (cut : numeral.digits = left ++ right) (positive : 0 < count) :
    { numeral with digits := left ++ (List.replicate count separator ++ right) }.WellFormed ↔
      numeral.base.Surrounds left right ∨ (numeral.mark ≠ [] ∧ left = []) := by
  rcases form with integer | ⟨real, notBare⟩
  · rw [← integer.append_separators_iff cut positive]
    refine or_iff_left fun other => ?_
    exact absurd (integer.isInteger.symm.trans other.1.isInteger) nofun
  · have unmarked : ¬ (numeral.mark ≠ [] ∧ left = []) := fun place => place.1 real.mark
    rw [or_iff_left unmarked, ← real.append_separators_iff cut positive]
    constructor
    · intro inserted
      rcases inserted with integer | ⟨insertedReal, _⟩
      · exact absurd (integer.isInteger.symm.trans real.isInteger) nofun
      · exact insertedReal
    · intro insertedReal
      refine Or.inr ⟨insertedReal, fun bare => notBare ⟨bare.1, ?_⟩⟩
      apply isDigitRun_of_scrub real.digits
      rw [cut, ← scrub_append_separators count]
      exact isDigitRun_scrub bare.2

/-- A spelling differs from a numeral in separators among the digits only. -/
theorem WellFormed.exists_cut
    (form : numeral.WellFormed) (otherForm : other.WellFormed) (positive : 0 < count)
    (whole : numeral.text = front ++ back)
    (inserted : other.text = front ++ (List.replicate count separator ++ back)) :
    ∃ left right, front = numeral.mark ++ left ∧ back = right ++ numeral.suffix ∧
      numeral.digits = left ++ right ∧
      other = { numeral with digits := left ++ (List.replicate count separator ++ right) } := by
  have scrubbed : scrub other.text = scrub numeral.text := by
    rw [inserted, scrub_append_separators, whole]
  -- As spellings of one numeral both texts have the mark and the suffix in common.
  have same := otherForm.sameParts_of_scrub_text form scrubbed
  have otherText : numeral.mark ++ (other.digits ++ numeral.suffix) =
      front ++ (List.replicate count separator ++ back) := by
    rw [← inserted, Numeral.text, same.mark, same.suffix, List.append_assoc]
  obtain ⟨left, rfl⟩ :=
    exists_append_of_append_separators form.separator_not_mem_mark positive otherText
  obtain ⟨right, rfl⟩ := exists_append_of_separators_append form.separator_not_mem_suffix positive
    ((List.append_assoc _ _ _).trans otherText)
  have cut : numeral.digits = left ++ right := by
    rw [Numeral.text, List.append_assoc, List.append_assoc, List.append_cancel_left_eq,
      ← List.append_assoc] at whole
    exact List.append_cancel_right whole
  have otherCut : other.digits = left ++ (List.replicate count separator ++ right) := by
    rw [List.append_assoc, List.append_cancel_left_eq, ← List.append_assoc,
      ← List.append_assoc] at otherText
    rw [List.append_cancel_right otherText, List.append_assoc]
  refine ⟨left, right, rfl, rfl, cut, ?_⟩
  rw [← otherCut, ← same.base, ← same.mark, ← same.suffix, ← same.isInteger]

/-- The numeral with separators put into its digits. -/
def insertSeparators (numeral : Numeral) (count position : Nat) : Numeral :=
  { numeral with digits := NumeralStyle.insertSeparators count position numeral.digits }

theorem sameParts_insertSeparators (numeral : Numeral) (count position : Nat) :
    (numeral.insertSeparators count position).SameParts numeral := by
  refine sameParts_of_scrubbedDigits rfl rfl ?_ rfl rfl
  rw [scrubbedDigits, insertSeparators, NumeralStyle.insertSeparators, scrub_append_separators,
    List.take_append_drop, scrubbedDigits]

/-- Behind the mark, separators among the digits are separators in the text. -/
theorem text_insertSeparators (numeral : Numeral)
    (inside : position ≤ numeral.digits.length) :
    (numeral.insertSeparators count position).text =
      NumeralStyle.insertSeparators count (numeral.mark.length + position) numeral.text := by
  have length : (numeral.mark ++ numeral.digits.take position).length =
      numeral.mark.length + position := by
    rw [List.length_append, List.length_take_of_le inside]
  have whole : numeral.text = (numeral.mark ++ numeral.digits.take position) ++
      (numeral.digits.drop position ++ numeral.suffix) := by
    rw [List.append_assoc, ← List.append_assoc (numeral.digits.take position),
      List.take_append_drop, ← List.append_assoc, Numeral.text]
  rw [whole, ← length, insertSeparators_length_append]
  simp only [Numeral.text, insertSeparators, NumeralStyle.insertSeparators, List.append_assoc]

theorem IsLegal.bounds (legal : numeral.IsLegal position) :
    numeral.mark.length ≤ position ∧ position ≤ numeral.mark.length + numeral.digits.length := by
  rcases legal with ⟨above, below, _⟩ | ⟨_, same⟩ <;> omega

theorem WellFormed.trim_insertSeparators (form : numeral.WellFormed) (count position : Nat) :
    Text.trim (NumeralStyle.insertSeparators count position numeral.text) =
      NumeralStyle.insertSeparators count position numeral.text := by
  apply trim_eq_self_of_isNumeralLetter
  intro letter member
  rcases eq_separator_or_mem_of_mem_append_separators member with rfl | original
  · rfl
  · rw [List.take_append_drop] at original
    exact form.isNumeralLetter letter original

/-- With separators at a legal position the text is read as the numeral with separators
among its digits, and with separators elsewhere it is not read. -/
theorem WellFormed.parse?_insertSeparators_eq_some_iff
    (form : numeral.WellFormed) (inside : position ≤ numeral.text.length) (positive : 0 < count)
    (other : Numeral) :
    parse? (NumeralStyle.insertSeparators count position numeral.text) = some other ↔
      numeral.IsLegal position ∧
        other = numeral.insertSeparators count (position - numeral.mark.length) := by
  rw [parse?_eq_some_iff, form.trim_insertSeparators]
  constructor
  · intro found
    obtain ⟨otherForm, inserted⟩ := found
    obtain ⟨left, right, front, -, cut, rfl⟩ := form.exists_cut otherForm positive
      (List.take_append_drop position numeral.text).symm inserted
    have reached : position = numeral.mark.length + left.length := by
      rw [← List.length_append, ← front, List.length_take_of_le inside]
    rw [reached]
    refine ⟨(isLegal_iff_of_cut cut).2 ((form.append_separators_iff cut positive).1 otherForm), ?_⟩
    rw [insertSeparators, Nat.add_sub_cancel_left, cut, insertSeparators_length_append]
  · intro found
    obtain ⟨legal, rfl⟩ := found
    obtain ⟨above, below⟩ := legal.bounds
    obtain ⟨offset, rfl⟩ := Nat.exists_eq_add_of_le above
    have among : offset ≤ numeral.digits.length := Nat.le_of_add_le_add_left below
    have cut := (List.take_append_drop offset numeral.digits).symm
    have place := isLegal_iff_of_cut cut
    rw [List.length_take_of_le among] at place
    rw [Nat.add_sub_cancel_left]
    exact ⟨(form.append_separators_iff cut positive).2 (place.1 legal),
      text_insertSeparators numeral among⟩

/-- Separators that are put into the text of a numeral leave it readable exactly at legal
positions, and what is read has the parts of the numeral and is grouped alike. -/
theorem isSome_parse?_insertSeparators_iff
    {text : Text} (reading : parse? text = some numeral) (trimmed : Text.trim text = text)
    (inside : position ≤ text.length) (positive : 0 < count) :
    ((parse? (NumeralStyle.insertSeparators count position text)).isSome = true ↔
        numeral.IsLegal position) ∧
      ∀ other, parse? (NumeralStyle.insertSeparators count position text) = some other →
        other.SameParts numeral ∧
          ∀ groupSize, other.grouped groupSize = numeral.grouped groupSize := by
  obtain ⟨form, spelled⟩ := parse?_eq_some_iff.1 reading
  rw [trimmed] at spelled
  subst spelled
  have found := form.parse?_insertSeparators_eq_some_iff inside positive
  refine ⟨?_, ?_⟩
  · rw [Option.isSome_iff_exists]
    constructor
    · intro accepted
      obtain ⟨other, otherReading⟩ := accepted
      exact ((found other).1 otherReading).1
    · intro legal
      exact ⟨_, (found _).2 ⟨legal, rfl⟩⟩
  · intro other otherReading
    obtain ⟨_, rfl⟩ := (found other).1 otherReading
    have same := sameParts_insertSeparators numeral count (position - numeral.mark.length)
    exact ⟨same, same.grouped_eq⟩

/-- A mark may be followed by separators, but no suffix may be preceded by them. -/
theorem isSome_parse?_insertSeparators_hexadecimal :
    ∃ numeral, parse? "0xCA_FEuL".toList = some numeral ∧
      (∃ other, parse? "0x__CA_FEuL".toList = some other ∧ other.SameParts numeral) ∧
        parse? "0xCA_FE__uL".toList = none := by
  obtain ⟨numeral, reading, legal, illegal⟩ :
      ∃ numeral, parse? "0xCA_FEuL".toList = some numeral ∧ numeral.IsLegal 2 ∧
        ¬ numeral.IsLegal 7 :=
    ⟨⟨.hexadecimal, "0x".toList, "CA_FE".toList, "uL".toList, true⟩, rfl, by decide, by decide⟩
  have two : 0 < 2 := by decide
  have behindMark : 2 ≤ "0xCA_FEuL".toList.length := by decide
  have behindDigits : 7 ≤ "0xCA_FEuL".toList.length := by decide
  obtain ⟨accepted, parts⟩ := isSome_parse?_insertSeparators_iff reading rfl behindMark two
  obtain ⟨rejected, -⟩ := isSome_parse?_insertSeparators_iff reading rfl behindDigits two
  obtain ⟨other, otherReading⟩ := Option.isSome_iff_exists.1 (accepted.2 legal)
  refine ⟨numeral, reading, ⟨other, otherReading, (parts other otherReading).1⟩, ?_⟩
  exact Option.not_isSome_iff_eq_none.1 fun isRead => illegal (rejected.1 isRead)


end Numeral

end NumeralStyle
