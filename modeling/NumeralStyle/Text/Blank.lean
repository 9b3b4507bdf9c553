import NumeralStyle.Text.Ranges

/-!
# Blank characters

The blank characters are those with the Unicode property `White_Space`.  A numeral
is read from a text with the blank characters at both ends taken away.  The main
statements say that a trimmed text has no blank at either end, and that trimming
leaves such a text as it is.
-/

namespace NumeralStyle.Text

/-- The ranges of the property `White_Space`. -/
def blankRanges : List CodeRange :=
  [⟨0x0009, 0x000D⟩, ⟨0x0020, 0x0020⟩, ⟨0x0085, 0x0085⟩, ⟨0x00A0, 0x00A0⟩,
    ⟨0x1680, 0x1680⟩, ⟨0x2000, 0x200A⟩, ⟨0x2028, 0x2029⟩, ⟨0x202F, 0x202F⟩,
    ⟨0x205F, 0x205F⟩, ⟨0x3000, 0x3000⟩]

def isBlank (letter : Char) : Bool :=
  inRanges blankRanges letter

def trimStart (text : Text) : Text :=
  text.dropWhile isBlank

def trimEnd (text : Text) : Text :=
  (trimStart text.reverse).reverse

def trim (text : Text) : Text :=
  trimEnd (trimStart text)

theorem isBlank_of_head?_trimStart
    {text : Text} {letter : Char}
    (first : (trimStart text).head? = some letter) :
    isBlank letter = false := by
  have stopped := List.head?_dropWhile_not isBlank text
  unfold trimStart at first
  rw [first] at stopped
  exact stopped

theorem trimStart_eq_self
    {text : Text}
    (opened : ∀ letter, text.head? = some letter → isBlank letter = false) :
    trimStart text = text := by
  cases text with
  | nil => rfl
  | cons letter rest =>
      unfold trimStart
      rw [List.dropWhile_cons, opened letter rfl]
      rfl

theorem isBlank_of_getLast?_trimEnd
    {text : Text} {letter : Char}
    (last : (trimEnd text).getLast? = some letter) :
    isBlank letter = false := by
  unfold trimEnd at last
  rw [List.getLast?_reverse] at last
  exact isBlank_of_head?_trimStart last

theorem trimEnd_eq_self
    {text : Text}
    (closed : ∀ letter, text.getLast? = some letter → isBlank letter = false) :
    trimEnd text = text := by
  unfold trimEnd
  rw [trimStart_eq_self, List.reverse_reverse]
  intro letter first
  exact closed letter (List.head?_reverse ▸ first)

/-- A text whose end was trimmed starts as before, unless nothing is left. -/
theorem head?_of_head?_trimEnd
    {text : Text} {letter : Char}
    (first : (trimEnd text).head? = some letter) :
    text.head? = some letter := by
  obtain ⟨dropped, split⟩ : trimStart text.reverse <:+ text.reverse :=
    List.dropWhile_suffix isBlank
  have whole : text = trimEnd text ++ dropped.reverse := by
    unfold trimEnd
    rw [← List.reverse_append, split, List.reverse_reverse]
  obtain ⟨rest, shape⟩ := List.head?_eq_some_iff.1 first
  rw [whole, shape]
  rfl

theorem isBlank_of_head?_trim
    {text : Text} {letter : Char}
    (first : (trim text).head? = some letter) :
    isBlank letter = false :=
  isBlank_of_head?_trimStart (head?_of_head?_trimEnd first)

theorem isBlank_of_getLast?_trim
    {text : Text} {letter : Char}
    (last : (trim text).getLast? = some letter) :
    isBlank letter = false :=
  isBlank_of_getLast?_trimEnd last

theorem trim_eq_self
    {text : Text}
    (opened : ∀ letter, text.head? = some letter → isBlank letter = false)
    (closed : ∀ letter, text.getLast? = some letter → isBlank letter = false) :
    trim text = text := by
  unfold trim
  rw [trimStart_eq_self opened, trimEnd_eq_self closed]

theorem mem_of_mem_trim
    {text : Text} {letter : Char} (member : letter ∈ trim text) :
    letter ∈ text := by
  simp only [trim, trimEnd, trimStart, List.mem_reverse] at member
  have inReverse := (List.dropWhile_suffix isBlank).subset member
  exact (List.dropWhile_suffix isBlank).subset (List.mem_reverse.1 inReverse)

@[simp]
theorem trim_trim (text : Text) : trim (trim text) = trim text :=
  trim_eq_self (fun _ => isBlank_of_head?_trim) (fun _ => isBlank_of_getLast?_trim)

end NumeralStyle.Text
