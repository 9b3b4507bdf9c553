import NumeralStyle.Proofs.Numeral.Spelling
import NumeralStyle.Proofs.Text.Slices

/-!
# Numerals by the range of their digits

A numeral may be kept as its whole text and the range of bytes at which its digits stand,
with mark, digits and suffix cut out of the text on demand.  Such a numeral can be read
by byte offsets alone: the mark has a length that the base tells, the suffix is looked up
at the end of the text, and the digits are what lies between.  Offsets might split a
character or run out of bounds, on a text that is no numeral above all.  Here every such
range is an error, even where it could be taken for a rejection.  The main statement says
that no text leads to one, and that this reader finds what the reader of characters finds.
-/

namespace NumeralStyle

open Text

/-- A numeral as its text, with the range of bytes at which its digits stand. -/
structure Located where
  text : Text
  base : Base
  start : Nat
  stop : Nat
  scrubbed : Text
  isInteger : Bool
  deriving DecidableEq, Repr

namespace Located

/-- Keep a text and the range of its digits, along with the digits scrubbed. -/
def ofRange (text : Text) (base : Base) (start stop : Nat) (isInteger : Bool) :
    Except Misslice Located := do
  let digits ← slice text start stop
  return ⟨text, base, start, stop, scrub digits, isInteger⟩

/-- How a numeral is displayed. -/
def display (located : Located) : Text :=
  located.text

def mark (located : Located) : Except Misslice Text :=
  slice located.text 0 located.start

def digits (located : Located) : Except Misslice Text :=
  slice located.text located.start located.stop

def suffix (located : Located) : Except Misslice Text :=
  slice located.text located.stop (byteLength located.text)

/-- Whether scrubbing made the digits shorter. -/
def hasSeparators (located : Located) : Bool :=
  byteLength located.scrubbed ≠ located.stop - located.start

/-! ## Reading by byte offsets -/

/-- The length of the mark that opens a text, each character of it counted as one byte. -/
def markLength? (base : Base) (text : Text) : Option Nat :=
  (base.splitMark? text).map fun parts => parts.1.length

def suffixPairs : List Text :=
  ["UL".toList, "Ul".toList, "uL".toList, "ul".toList,
    "LU".toList, "Lu".toList, "lU".toList, "lu".toList]

def suffixLetters : List Text :=
  ["U".toList, "u".toList, "L".toList, "l".toList]

/-- Whether the last bytes of a text, so many and not all, are a text of the table.  They
need not be a slice. -/
def endsIn (text : Text) (length : Nat) (table : List Text) : Bool :=
  length < byteLength text &&
    (slice? text (byteLength text - length) (byteLength text)).any fun tail => tail ∈ table

/-- The length in bytes of the integer suffix at the end of a text, the longest first. -/
def suffixLength (text : Text) : Nat :=
  if endsIn text 2 suffixPairs then
    2
  else if endsIn text 1 suffixLetters then
    1
  else
    0

/-- Read an integer as what lies between its mark and its suffix. -/
def integer? (base : Base) (text : Text) : Except Misslice (Option Located) :=
  match markLength? base text with
  | none => return none
  | some start => do
    let stop := byteLength text - suffixLength text
    let digits ← slice text start stop
    if digits ≠ [] ∧ text.head? ≠ some separator ∧ digits.getLast? ≠ some separator ∧
        digits.all (Numeral.isIntegerDigit base) then
      return some (← ofRange text base start stop true)
    else
      return none

/-- Read a real as what stands in front of its type marker. -/
def real? (text : Text) : Except Misslice (Option Located) :=
  match text.getLast? with
  | none => return none
  | some last => do
    let type? := RealType.ofMarker? last
    let stop := if type?.isSome then byteLength text - last.utf8Size else byteLength text
    let digits ← slice text 0 stop
    if digits ≠ [] ∧ (Regions.ofReal digits).hasRealShape ∧
        (type?.getD .double).accepts (scrub digits) then
      return some (← ofRange text .decimal 0 stop false)
    else
      return none

/-- Try the bases in order, and then a real. -/
def readFirst? (text : Text) : List Base → Except Misslice (Option Located)
  | [] => real? text
  | base :: bases => do
    match ← integer? base text with
    | some located => return some located
    | none => readFirst? text bases

/-- Read a numeral from a text, whose blank ends are trimmed, by byte offsets. -/
def read? (text : Text) : Except Misslice (Option Located) :=
  if trim text = [] then return none else readFirst? (trim text) Base.all

end Located

/-- The range of the digits in the text of a numeral. -/
@[simps]
def Numeral.located (numeral : Numeral) : Located where
  text := numeral.text
  base := numeral.base
  start := byteLength numeral.mark
  stop := byteLength numeral.mark + byteLength numeral.digits
  scrubbed := numeral.scrubbedDigits
  isInteger := numeral.isInteger

variable {text front tail suffix : Text} {letter : Char} {base : Base} {numeral : Numeral}
  {length : Nat}

/-! ## Characters of one byte -/

theorem toNat_lt_of_isNumeralLetter (accepted : isNumeralLetter letter = true) :
    letter.toNat < 128 := by
  rw [isNumeralLetter_iff_toNat] at accepted
  omega

theorem byteLength_of_isNumeralLetter
    (accepted : ∀ letter ∈ text, isNumeralLetter letter = true) :
    byteLength text = text.length :=
  byteLength_eq_length fun letter member => toNat_lt_of_isNumeralLetter (accepted letter member)

theorem byteLength_mark (isMark : text ∈ base.marks) : byteLength text = text.length :=
  byteLength_of_isNumeralLetter (Numeral.isNumeralLetter_of_mem_mark isMark)

theorem byteLength_integerSuffix (isSuffix : Numeral.isIntegerSuffix suffix = true) :
    byteLength suffix = suffix.length := by
  apply byteLength_eq_length
  intro letter member
  rcases Numeral.marker_of_mem_integerSuffix isSuffix member with rfl | rfl | rfl | rfl <;> decide

namespace Located

/-! ## Suffixes by their length -/

theorem mem_suffixPairs_iff :
    tail ∈ suffixPairs ↔ Numeral.isIntegerSuffix tail = true ∧ tail.length = 2 := by
  constructor
  · have all : ∀ tail ∈ suffixPairs,
        Numeral.isIntegerSuffix tail = true ∧ tail.length = 2 := by decide
    exact all tail
  · intro conditions
    obtain ⟨isSuffix, length⟩ := conditions
    obtain ⟨left, right, rfl⟩ := List.length_eq_two.1 length
    simp only [Numeral.isIntegerSuffix, Numeral.isUnsignedMarker, Numeral.isLongMarker,
      Bool.or_eq_true, Bool.and_eq_true, decide_eq_true_eq] at isSuffix
    rcases isSuffix with ⟨rfl | rfl, rfl | rfl⟩ | ⟨rfl | rfl, rfl | rfl⟩ <;> decide

theorem mem_suffixLetters_iff :
    tail ∈ suffixLetters ↔ Numeral.isIntegerSuffix tail = true ∧ tail.length = 1 := by
  constructor
  · have all : ∀ tail ∈ suffixLetters,
        Numeral.isIntegerSuffix tail = true ∧ tail.length = 1 := by decide
    exact all tail
  · intro conditions
    obtain ⟨isSuffix, length⟩ := conditions
    obtain ⟨letter, rfl⟩ := List.length_eq_one_iff.1 length
    simp only [Numeral.isIntegerSuffix, Numeral.isUnsignedMarker, Numeral.isLongMarker,
      Bool.or_eq_true, decide_eq_true_eq] at isSuffix
    rcases isSuffix with (rfl | rfl) | rfl | rfl <;> decide

theorem endsIn_iff {table : List Text} :
    endsIn text length table = true ↔
      ∃ front tail, front ++ tail = text ∧ front ≠ [] ∧ tail ∈ table ∧
        byteLength tail = length := by
  rw [endsIn, Bool.and_eq_true, decide_eq_true_eq, Option.any_eq_true]
  constructor
  · intro found
    obtain ⟨shorter, tail, sliced, listed⟩ := found
    obtain ⟨front, back, whole, startLength, stopLength⟩ := slice?_eq_some_iff.1 sliced
    have lengths : byteLength front + byteLength tail + byteLength back = byteLength text := by
      rw [← whole, byteLength_append, byteLength_append]
    have nothingBehind : back = [] := byteLength_eq_zero_iff.1 (by omega)
    refine ⟨front, tail, ?_, ?_, of_decide_eq_true listed, by omega⟩
    · rw [← whole, nothingBehind, List.append_nil]
    · intro empty
      rw [empty, byteLength_nil] at startLength
      omega
  · intro found
    obtain ⟨front, tail, rfl, nonempty, listed, rfl⟩ := found
    have positive : byteLength front ≠ 0 := fun zero =>
      nonempty (byteLength_eq_zero_iff.1 zero)
    rw [byteLength_append, Nat.add_sub_cancel_right]
    refine ⟨by omega, tail, ?_, decide_eq_true listed⟩
    exact slice?_eq_some_iff.2 ⟨front, [], List.append_nil _, rfl, rfl⟩

/-- Behind digits no suffix is found that is longer than the one that stands there. -/
theorem endsIn_eq_false
    {table : List Text}
    (listed : ∀ tail ∈ table, Numeral.isIntegerSuffix tail = true ∧ tail.length = length)
    (closed : ∀ last ∈ front.getLast?, Numeral.isIntegerDigit base last = true)
    (longer : suffix.length < length) :
    endsIn (front ++ suffix) length table = false := by
  rw [Bool.eq_false_iff]
  intro found
  obtain ⟨other, tail, whole, -, member, -⟩ := endsIn_iff.1 found
  obtain ⟨isSuffix, tailLength⟩ := listed tail member
  rcases List.append_eq_append_iff.1 whole with ⟨between, split, rfl⟩ | ⟨between, -, rfl⟩
  · -- The longer suffix would begin with the last digit.
    have nonempty : between ≠ [] := by
      intro empty
      rw [empty, List.nil_append] at tailLength
      omega
    have last : front.getLast? = some (between.getLast nonempty) := by
      rw [split, List.getLast?_append, List.getLast?_eq_some_getLast nonempty, Option.some_or]
    have digit := closed _ last
    have inTail : between.getLast nonempty ∈ between ++ suffix :=
      List.mem_append_left _ (List.getLast_mem nonempty)
    rw [Numeral.isIntegerDigit_of_mem_integerSuffix base isSuffix inTail] at digit
    cases digit
  · rw [List.length_append] at longer
    omega

/-- Behind digits the suffix has the length that the table tells. -/
theorem suffixLength_append
    (nonempty : front ≠ [])
    (closed : ∀ last ∈ front.getLast?, Numeral.isIntegerDigit base last = true)
    (isSuffix : Numeral.isIntegerSuffix suffix = true) :
    suffixLength (front ++ suffix) = suffix.length := by
  have bytes := byteLength_integerSuffix isSuffix
  have noPair : suffix.length < 2 → endsIn (front ++ suffix) 2 suffixPairs = false :=
    endsIn_eq_false (fun _ => mem_suffixPairs_iff.1) closed
  have noLetter : suffix.length < 1 → endsIn (front ++ suffix) 1 suffixLetters = false :=
    endsIn_eq_false (fun _ => mem_suffixLetters_iff.1) closed
  have bounded : suffix.length ≤ 2 := by
    unfold Numeral.isIntegerSuffix at isSuffix
    split at isSuffix
    · exact Nat.zero_le 2
    · exact Nat.le_succ 1
    · exact Nat.le_refl 2
    · cases isSuffix
  rw [suffixLength]
  obtain empty | one | two : suffix.length = 0 ∨ suffix.length = 1 ∨ suffix.length = 2 := by
    omega
  · rw [noPair (by omega), noLetter (by omega), empty]
    rfl
  · have found : endsIn (front ++ suffix) 1 suffixLetters = true :=
      endsIn_iff.2 ⟨front, suffix, rfl, nonempty, mem_suffixLetters_iff.2 ⟨isSuffix, one⟩,
        bytes.trans one⟩
    rw [noPair (by omega), found, one]
    rfl
  · have found : endsIn (front ++ suffix) 2 suffixPairs = true :=
      endsIn_iff.2 ⟨front, suffix, rfl, nonempty, mem_suffixPairs_iff.2 ⟨isSuffix, two⟩,
        bytes.trans two⟩
    rw [found, two]
    rfl

/-- Whatever the text is, a suffix of the length that the table tells stands at its end. -/
theorem exists_append_of_suffixLength (text : Text) :
    ∃ front suffix, front ++ suffix = text ∧ Numeral.isIntegerSuffix suffix = true ∧
      byteLength suffix = suffixLength text := by
  rw [suffixLength]
  by_cases pair : endsIn text 2 suffixPairs = true
  · obtain ⟨front, tail, whole, -, member, bytes⟩ := endsIn_iff.1 pair
    rw [if_pos pair]
    exact ⟨front, tail, whole, (mem_suffixPairs_iff.1 member).1, bytes⟩
  · rw [if_neg pair]
    by_cases letter : endsIn text 1 suffixLetters = true
    · obtain ⟨front, tail, whole, -, member, bytes⟩ := endsIn_iff.1 letter
      rw [if_pos letter]
      exact ⟨front, tail, whole, (mem_suffixLetters_iff.1 member).1, bytes⟩
    · rw [if_neg letter]
      exact ⟨text, [], List.append_nil text, rfl, byteLength_nil⟩

/-! ## The reader by byte offsets finds what the reader finds -/

theorem ofRange_eq
    {start stop : Nat} (startLength : byteLength numeral.mark = start)
    (stopLength : start + byteLength numeral.digits = stop) :
    ofRange numeral.text numeral.base start stop numeral.isInteger = .ok numeral.located := by
  subst startLength stopLength
  rw [ofRange, Numeral.text, slice_append]
  rfl

/-- A mark and the suffix that the table tells, with anything in the place of the
digits. -/
structure IsCandidate (numeral : Numeral) : Prop where
  isInteger : numeral.isInteger = true
  mark : numeral.mark ∈ numeral.base.marks
  suffix : Numeral.isIntegerSuffix numeral.suffix = true
  suffixLength : byteLength numeral.suffix = suffixLength numeral.text

/-- The suffix does not reach into the mark. -/
theorem exists_candidate {mark rest : Text} (split : base.splitMark? text = some (mark, rest)) :
    ∃ numeral : Numeral, numeral.base = base ∧ numeral.text = text ∧ numeral.mark = mark ∧
      IsCandidate numeral := by
  obtain ⟨isMark, whole⟩ := Base.splitMark?_eq_some_iff.1 split
  obtain ⟨front, suffix, cut, isSuffix, bytes⟩ := exists_append_of_suffixLength text
  have apart : ∀ letter ∈ mark, letter ∉ suffix := by
    have all : (base.marks.all fun mark => mark.all (· ∉ ['u', 'U', 'l', 'L'])) = true := by
      cases base <;> rfl
    intro letter inMark inSuffix
    have other := of_decide_eq_true
      (List.all_eq_true.1 (List.all_eq_true.1 all mark isMark) letter inMark)
    have marker := Numeral.marker_of_mem_integerSuffix isSuffix inSuffix
    simp only [List.mem_cons, List.not_mem_nil, or_false] at other
    exact other marker
  obtain ⟨digits, rfl⟩ : ∃ digits, front = mark ++ digits := by
    rcases List.append_eq_append_iff.1 (cut.trans whole.symm) with
      ⟨shared, shape, inSuffix⟩ | ⟨digits, shape, -⟩
    · have empty : shared = [] := by
        apply List.eq_nil_iff_forall_not_mem.2
        intro letter member
        apply apart letter
        · rw [shape]
          exact List.mem_append_right _ member
        · rw [inSuffix]
          exact List.mem_append_left _ member
      rw [empty, List.append_nil] at shape
      exact ⟨[], by rw [shape, List.append_nil]⟩
    · exact ⟨digits, shape⟩
  exact ⟨⟨base, mark, digits, suffix, true⟩, rfl, cut, rfl, rfl, isMark, isSuffix,
    bytes.trans (congrArg suffixLength cut.symm)⟩

namespace IsCandidate

variable {other : Numeral}

/-- What the reader still asks of the digits. -/
theorem integerForm_iff (candidate : IsCandidate numeral) :
    numeral.IntegerForm ↔
      numeral.digits ≠ [] ∧ numeral.text.head? ≠ some separator ∧
        numeral.digits.getLast? ≠ some separator ∧
          numeral.digits.all (Numeral.isIntegerDigit numeral.base) = true := by
  rw [List.all_eq_true]
  constructor
  · intro form
    have opened := (Numeral.head?_text_ne_separator_iff form.mark form.digits.nonempty).2
      form.digits.opened
    exact ⟨form.digits.nonempty, opened, form.digits.closed, form.digits.accepted⟩
  · intro conditions
    obtain ⟨nonempty, opened, closed, accepted⟩ := conditions
    have openedDigits := (Numeral.head?_text_ne_separator_iff candidate.mark nonempty).1 opened
    exact ⟨candidate.isInteger, candidate.mark, ⟨nonempty, accepted, closed, openedDigits⟩,
      candidate.suffix⟩

/-- An integer that a text spells has the suffix that the table tells. -/
theorem eq_of_integerForm
    (candidate : IsCandidate numeral) (form : other.IntegerForm)
    (sameBase : other.base = numeral.base) (sameText : other.text = numeral.text) :
    other = numeral := by
  have split : numeral.base.splitMark? numeral.text =
      some (numeral.mark, numeral.digits ++ numeral.suffix) :=
    Base.splitMark?_eq_some_iff.2 ⟨candidate.mark, (List.append_assoc _ _ _).symm⟩
  have otherSplit : numeral.base.splitMark? numeral.text =
      some (other.mark, other.digits ++ other.suffix) := by
    rw [← sameBase, ← sameText]
    exact Base.splitMark?_eq_some_iff.2 ⟨form.mark, (List.append_assoc _ _ _).symm⟩
  obtain ⟨sameMark, sameRest⟩ :=
    Prod.mk.inj (Option.some.inj (otherSplit.symm.trans split))
  have closed : ∀ last ∈ (other.mark ++ other.digits).getLast?,
      Numeral.isIntegerDigit other.base last = true := by
    intro last ending
    rw [List.getLast?_append_of_ne_nil _ form.digits.nonempty] at ending
    exact form.digits.accepted last (List.mem_of_getLast? ending)
  have nonempty : other.mark ++ other.digits ≠ [] :=
    List.append_ne_nil_of_right_ne_nil _ form.digits.nonempty
  have suffixBytes : byteLength other.suffix = byteLength numeral.suffix := by
    rw [candidate.suffixLength, byteLength_integerSuffix form.suffix, ← sameText, Numeral.text,
      suffixLength_append nonempty closed form.suffix]
  have digitBytes : byteLength other.digits = byteLength numeral.digits := by
    have bytes := congrArg byteLength sameRest
    rw [byteLength_append, byteLength_append] at bytes
    omega
  obtain ⟨sameDigits, sameSuffix⟩ := append_inj_of_byteLength sameRest digitBytes
  have sameKind : other.isInteger = numeral.isInteger := by
    rw [form.isInteger, candidate.isInteger]
  cases other
  cases numeral
  simp_all only

theorem integer?_eq (candidate : IsCandidate numeral) :
    integer? numeral.base numeral.text =
      .ok ((Numeral.integer? numeral.base numeral.text).map Numeral.located) := by
  have markBytes := byteLength_mark candidate.mark
  have split : numeral.base.splitMark? numeral.text =
      some (numeral.mark, numeral.digits ++ numeral.suffix) :=
    Base.splitMark?_eq_some_iff.2 ⟨candidate.mark, (List.append_assoc _ _ _).symm⟩
  have stop : byteLength numeral.text - Located.suffixLength numeral.text =
      byteLength numeral.mark + byteLength numeral.digits := by
    rw [← candidate.suffixLength, Numeral.text, byteLength_append, byteLength_append,
      Nat.add_sub_cancel_right]
  have sliced : slice numeral.text (byteLength numeral.mark)
      (byteLength numeral.mark + byteLength numeral.digits) = .ok numeral.digits :=
    slice_append numeral.mark numeral.digits numeral.suffix
  have located : ofRange numeral.text numeral.base (byteLength numeral.mark)
      (byteLength numeral.mark + byteLength numeral.digits) true = .ok numeral.located := by
    rw [← candidate.isInteger]
    exact ofRange_eq rfl rfl
  rw [integer?, markLength?, split, Option.map_some]
  simp only [← markBytes, stop, sliced, located, bind, Except.bind]
  by_cases form : numeral.IntegerForm
  · rw [if_pos (candidate.integerForm_iff.1 form), Numeral.integer?_eq_some_iff.2 ⟨form, rfl, rfl⟩]
    rfl
  · rw [if_neg (mt candidate.integerForm_iff.2 form)]
    cases found : Numeral.integer? numeral.base numeral.text with
    | none => rfl
    | some other =>
        obtain ⟨otherForm, sameBase, sameText⟩ := Numeral.integer?_eq_some_iff.1 found
        exact absurd (candidate.eq_of_integerForm otherForm sameBase sameText ▸ otherForm) form

end IsCandidate

theorem integer?_eq (base : Base) (text : Text) :
    integer? base text = .ok ((Numeral.integer? base text).map Numeral.located) := by
  cases split : base.splitMark? text with
  | none =>
      rw [integer?, markLength?, Numeral.integer?, split]
      rfl
  | some parts =>
      obtain ⟨numeral, rfl, rfl, -, candidate⟩ := exists_candidate split
      exact candidate.integer?_eq

/-- The type marker of a text by its last character. -/
theorem splitMarker_of_getLast? {last : Char} (ending : text.getLast? = some last) :
    byteLength (Numeral.splitMarker text).1 =
        (if (RealType.ofMarker? last).isSome then byteLength text - last.utf8Size
          else byteLength text) ∧
      (Numeral.splitMarker text).2.2 = (RealType.ofMarker? last).getD .double := by
  rw [Numeral.splitMarker, ending]
  cases marker : RealType.ofMarker? last with
  | none =>
      simp only [marker]
      exact ⟨rfl, rfl⟩
  | some type =>
      obtain ⟨front, rfl⟩ := List.getLast?_eq_some_iff.1 ending
      simp only [marker, List.dropLast_concat, Option.isSome_some, if_true, byteLength_append,
        byteLength_cons, byteLength_nil, Nat.add_zero, Nat.add_sub_cancel_right,
        Option.getD_some, and_self]

/-- The three conditions of the reader of reals, without the reasons of rejection. -/
theorem toOption_real (text : Text) :
    (Numeral.real text).toOption =
      if (Numeral.splitMarker text).1 ≠ [] ∧
          (Regions.ofReal (Numeral.splitMarker text).1).hasRealShape ∧
          (Numeral.splitMarker text).2.2.accepts (scrub (Numeral.splitMarker text).1) then
        some ⟨.decimal, [], (Numeral.splitMarker text).1, (Numeral.splitMarker text).2.1, false⟩
      else
        none := by
  simp only [Numeral.real, Bool.not_eq_true']
  split_ifs <;> simp_all [Except.toOption]

theorem real?_eq (text : Text) :
    real? text = .ok ((Numeral.real text).toOption.map Numeral.located) := by
  cases ending : text.getLast? with
  | none =>
      rw [List.getLast?_eq_none_iff] at ending
      subst ending
      rfl
  | some last =>
      obtain ⟨digitBytes, type⟩ := splitMarker_of_getLast? ending
      have whole := Numeral.splitMarker_append text
      have sliced := slice_append [] (Numeral.splitMarker text).1 (Numeral.splitMarker text).2.1
      rw [List.nil_append, whole, byteLength_nil, Nat.zero_add] at sliced
      have located := @ofRange_eq
        ⟨.decimal, [], (Numeral.splitMarker text).1, (Numeral.splitMarker text).2.1, false⟩
        0 _ byteLength_nil (Nat.zero_add _)
      rw [Numeral.text, List.nil_append, whole] at located
      rw [real?, ending, toOption_real]
      simp only [← digitBytes, ← type, sliced, located, bind, Except.bind]
      rw [apply_ite (Option.map Numeral.located), apply_ite Except.ok]
      rfl

/-- The first base that reads the text, and a real when no base does. -/
theorem readFirst?_eq (text : Text) (bases : List Base) :
    readFirst? text bases =
      .ok (((bases.findSome? fun base => Numeral.integer? base text).or
        (Numeral.real text).toOption).map Numeral.located) := by
  induction bases with
  | nil => exact real?_eq text
  | cons base bases inductionHypothesis =>
      rw [readFirst?, integer?_eq, List.findSome?_cons]
      cases Numeral.integer? base text with
      | none => exact inductionHypothesis
      | some numeral => rfl

/-- The reader by byte offsets meets no range that is no slice, and it finds the numeral
that reading the characters finds. -/
theorem read?_eq (text : Text) :
    read? text = .ok ((Numeral.parse? text).map Numeral.located) := by
  rw [read?, Numeral.parse?, Numeral.read]
  by_cases blank : trim text = []
  · rw [if_pos blank, if_pos blank]
    rfl
  · rw [if_neg blank, if_neg blank, readFirst?_eq]
    cases Base.all.findSome? fun base => Numeral.integer? base (trim text) with
    | none => rfl
    | some numeral => rfl

/-- Blanks at the ends may be wider than a byte, and so may the letters that are no suffix. -/
example : read? "\u00a00x_Ff_eUL\n".toList =
    .ok (some ⟨"0x_Ff_eUL".toList, .hexadecimal, 2, 7, "Ffe".toList, true⟩) := by
  rfl

example : read? "12é".toList = .ok none := by
  rfl

end Located

end NumeralStyle
