import Mathlib
import NumeralStyle.Text.Ranges

/-!
# Slices of texts

In UTF-8 a character takes one to four bytes, so that a text can be cut at some byte
offsets only.  A slice between two offsets exists when both are boundaries of characters,
in order and within the text.  The main statements give the slices by the parts of which
a text consists, and the boundaries by the valid positions of a string.
-/

namespace NumeralStyle.Text

/-- The number of bytes of a text in UTF-8. -/
def byteLength (text : Text) : Nat :=
  (text.map Char.utf8Size).sum

/-- An offset at which a text can be cut without splitting a character. -/
def IsBoundary (text : Text) (offset : Nat) : Prop :=
  ∃ front back, front ++ back = text ∧ byteLength front = offset

/-- Cut a text behind a number of bytes, unless that splits a character or the text is
shorter. -/
def cut? : Nat → Text → Option (Text × Text)
  | 0, text => some ([], text)
  | _ + 1, [] => none
  | offset + 1, letter :: rest =>
    if letter.utf8Size ≤ offset + 1 then
      (cut? (offset + 1 - letter.utf8Size) rest).map fun parts => (letter :: parts.1, parts.2)
    else
      none

/-- The part of a text between two byte offsets, if there is such a part. -/
def slice? (text : Text) (start stop : Nat) : Option Text :=
  (cut? stop text).bind fun parts => (cut? start parts.1).map Prod.snd

/-- A range of bytes that is no slice of a text: an end of it splits a character or is out
of bounds, or the ends are out of order. -/
structure Misslice where
  start : Nat
  stop : Nat
  deriving DecidableEq, Repr

def slice (text : Text) (start stop : Nat) : Except Misslice Text :=
  match slice? text start stop with
  | none => .error ⟨start, stop⟩
  | some part => .ok part

variable {text front back part : Text} {letter : Char} {offset start stop : Nat}

/-! ## Lengths in bytes -/

@[simp]
theorem byteLength_nil : byteLength [] = 0 :=
  List.sum_nil

@[simp]
theorem byteLength_cons (letter : Char) (rest : Text) :
    byteLength (letter :: rest) = letter.utf8Size + byteLength rest := by
  simp only [byteLength, List.map_cons, List.sum_cons]

@[simp]
theorem byteLength_append (front back : Text) :
    byteLength (front ++ back) = byteLength front + byteLength back := by
  simp only [byteLength, List.map_append, List.sum_append]

theorem byteLength_eq_zero_iff : byteLength text = 0 ↔ text = [] := by
  cases text with
  | nil => exact iff_of_true byteLength_nil rfl
  | cons letter rest =>
      have positive := letter.utf8Size_pos
      rw [byteLength_cons]
      exact iff_of_false (by omega) (List.cons_ne_nil letter rest)

/-- The length in bytes is that of the string with the same characters. -/
theorem byteLength_eq_utf8ByteSize (text : Text) :
    byteLength text = (String.ofList text).utf8ByteSize := by
  induction text with
  | nil => simp
  | cons letter rest inductionHypothesis =>
      rw [String.utf8ByteSize_ofList, String.utf8Len_cons, ← String.utf8ByteSize_ofList,
        byteLength_cons, inductionHypothesis, Nat.add_comm]

theorem utf8Size_of_toNat_lt (ascii : letter.toNat < 128) : letter.utf8Size = 1 := by
  rw [Char.utf8Size_eq_one_iff, UInt32.le_iff_toNat_le]
  exact Nat.le_of_lt_succ ascii

/-- Of a text without other characters than those of ASCII the bytes are as many as the
characters. -/
theorem byteLength_eq_length (ascii : ∀ letter ∈ text, letter.toNat < 128) :
    byteLength text = text.length := by
  induction text with
  | nil => exact byteLength_nil
  | cons letter rest inductionHypothesis =>
      have first := utf8Size_of_toNat_lt (ascii letter List.mem_cons_self)
      have later := inductionHypothesis fun other member =>
        ascii other (List.mem_cons_of_mem letter member)
      rw [byteLength_cons, first, later, List.length_cons, Nat.add_comm]

/-- Two ways to cut a text at one offset are the same. -/
theorem append_inj_of_byteLength
    {otherFront otherBack : Text} (whole : front ++ back = otherFront ++ otherBack)
    (same : byteLength front = byteLength otherFront) :
    front = otherFront ∧ back = otherBack := by
  induction front generalizing otherFront with
  | nil =>
      cases otherFront with
      | nil => exact ⟨rfl, whole⟩
      | cons letter rest =>
          have positive := letter.utf8Size_pos
          rw [byteLength_nil, byteLength_cons] at same
          omega
  | cons letter rest inductionHypothesis =>
      cases otherFront with
      | nil =>
          have positive := letter.utf8Size_pos
          rw [byteLength_nil, byteLength_cons] at same
          omega
      | cons otherLetter otherRest =>
          rw [List.cons_append, List.cons_append, List.cons.injEq] at whole
          obtain ⟨sameLetter, wholeRest⟩ := whole
          rw [byteLength_cons, byteLength_cons, sameLetter, Nat.add_left_cancel_iff] at same
          obtain ⟨sameRest, sameBack⟩ := inductionHypothesis wholeRest same
          exact ⟨by rw [sameLetter, sameRest], sameBack⟩

/-! ## Cuts and slices -/

theorem cut?_append (front back : Text) :
    cut? (byteLength front) (front ++ back) = some (front, back) := by
  induction front with
  | nil => simp only [byteLength_nil, List.nil_append, cut?]
  | cons letter rest inductionHypothesis =>
      have positive := letter.utf8Size_pos
      obtain ⟨offset, length⟩ : ∃ offset, byteLength (letter :: rest) = offset + 1 :=
        Nat.exists_eq_succ_of_ne_zero (by rw [byteLength_cons]; omega)
      have behind : offset + 1 - letter.utf8Size = byteLength rest := by
        rw [← length, byteLength_cons, Nat.add_sub_cancel_left]
      have fits : letter.utf8Size ≤ offset + 1 := by
        rw [← length, byteLength_cons]
        exact Nat.le_add_right _ _
      rw [length, List.cons_append, cut?, if_pos fits, behind, inductionHypothesis,
        Option.map_some]

theorem append_of_cut? (found : cut? offset text = some (front, back)) :
    front ++ back = text ∧ byteLength front = offset := by
  induction text generalizing offset front with
  | nil =>
      cases offset with
      | zero =>
          cases found
          exact ⟨rfl, byteLength_nil⟩
      | succ offset => cases found
  | cons letter rest inductionHypothesis =>
      cases offset with
      | zero =>
          cases found
          exact ⟨rfl, byteLength_nil⟩
      | succ offset =>
          rw [cut?] at found
          by_cases fits : letter.utf8Size ≤ offset + 1
          · rw [if_pos fits, Option.map_eq_some_iff] at found
            obtain ⟨parts, foundRest, same⟩ := found
            cases same
            obtain ⟨whole, length⟩ := inductionHypothesis foundRest
            rw [List.cons_append, whole, byteLength_cons, length, Nat.add_sub_cancel' fits]
            exact ⟨rfl, rfl⟩
          · rw [if_neg fits] at found
            cases found

/-- A cut exists exactly at the boundaries. -/
theorem cut?_eq_some_iff :
    cut? offset text = some (front, back) ↔ front ++ back = text ∧ byteLength front = offset := by
  constructor
  · exact append_of_cut?
  · intro parts
    rw [← parts.1, ← parts.2, cut?_append]

/-- A slice is a part of the text, with as many bytes in front of it as its start says. -/
theorem slice?_eq_some_iff :
    slice? text start stop = some part ↔
      ∃ front back, front ++ part ++ back = text ∧ byteLength front = start ∧
        start + byteLength part = stop := by
  rw [slice?, Option.bind_eq_some_iff]
  constructor
  · intro found
    obtain ⟨⟨upTo, back⟩, cutStop, rest⟩ := found
    obtain ⟨⟨front, part⟩, cutStart, rfl⟩ := Option.map_eq_some_iff.1 rest
    obtain ⟨whole, stopLength⟩ := cut?_eq_some_iff.1 cutStop
    obtain ⟨rfl, startLength⟩ := cut?_eq_some_iff.1 cutStart
    rw [byteLength_append, startLength] at stopLength
    exact ⟨front, back, whole, startLength, stopLength⟩
  · intro parts
    obtain ⟨front, back, whole, startLength, stopLength⟩ := parts
    refine ⟨(front ++ part, back), cut?_eq_some_iff.2 ⟨whole, ?_⟩, ?_⟩
    · rw [byteLength_append, startLength, stopLength]
    · rw [cut?_eq_some_iff.2 ⟨rfl, startLength⟩, Option.map_some]

theorem slice_eq_ok_iff :
    slice text start stop = .ok part ↔
      ∃ front back, front ++ part ++ back = text ∧ byteLength front = start ∧
        start + byteLength part = stop := by
  rw [← slice?_eq_some_iff, slice]
  cases slice? text start stop with
  | none => exact ⟨nofun, nofun⟩
  | some other => rw [Except.ok.injEq, Option.some.injEq]

/-- The parts of a text are its slices. -/
theorem slice_append (front part back : Text) :
    slice (front ++ part ++ back) (byteLength front) (byteLength front + byteLength part) =
      .ok part :=
  slice_eq_ok_iff.2 ⟨front, back, rfl, rfl, rfl⟩

/-! ## Boundaries -/

/-- The boundaries are the valid positions of the string with the same characters. -/
theorem isBoundary_iff_isValid :
    IsBoundary text offset ↔ String.Pos.Raw.IsValid (String.ofList text) ⟨offset⟩ := by
  rw [IsBoundary, String.Pos.Raw.isValid_ofList]
  constructor
  · intro cut
    obtain ⟨front, back, rfl, length⟩ := cut
    refine ⟨front.length, ?_⟩
    rw [List.take_left, ← byteLength_eq_utf8ByteSize, length]
  · intro position
    obtain ⟨count, length⟩ := position
    refine ⟨text.take count, text.drop count, List.take_append_drop count text, ?_⟩
    rw [byteLength_eq_utf8ByteSize, ← length]

/-- A slice exists exactly between two boundaries that are in order. -/
theorem exists_slice_iff :
    (∃ part, slice text start stop = .ok part) ↔
      IsBoundary text start ∧ IsBoundary text stop ∧ start ≤ stop := by
  simp only [slice_eq_ok_iff]
  constructor
  · intro found
    obtain ⟨part, front, back, whole, startLength, stopLength⟩ := found
    refine ⟨⟨front, part ++ back, ?_, startLength⟩, ⟨front ++ part, back, whole, ?_⟩, ?_⟩
    · rw [← List.append_assoc, whole]
    · rw [byteLength_append, startLength, stopLength]
    · exact stopLength ▸ Nat.le_add_right start _
  · intro boundaries
    obtain ⟨⟨front, back, whole, startLength⟩, ⟨upTo, rest, cut, stopLength⟩, ordered⟩ :=
      boundaries
    -- The shorter of the two beginnings of the text is a beginning of the other.
    rcases List.prefix_or_prefix_of_prefix ⟨back, whole⟩ ⟨rest, cut⟩ with
      ⟨part, extended⟩ | ⟨part, extended⟩
    · refine ⟨part, front, rest, by rw [extended, cut], startLength, ?_⟩
      rw [← startLength, ← stopLength, ← extended, byteLength_append]
    · have lengths := byteLength_append upTo part
      rw [extended, startLength, stopLength] at lengths
      have same : byteLength front = byteLength upTo := by omega
      obtain ⟨rfl, -⟩ := append_inj_of_byteLength (whole.trans cut.symm) same
      refine ⟨[], front, rest, by rw [List.append_nil, cut], startLength, ?_⟩
      rw [byteLength_nil, ← startLength, ← stopLength, Nat.add_zero]

end NumeralStyle.Text
