import NumeralStyle.Json.Layout
import NumeralStyle.Json.Reading
import NumeralStyle.Json.Record
import NumeralStyle.Proofs.Numeral.Shape

/-!
# Reading what was written

A value that holds naturals, texts, arrays and records is read back from what is written
of it, in every layout that puts only blanks between the parts.  What is read ends where
the written text ends: an item is followed by a blank, a comma or the end of its
container, and none of these continues a number.  The bound of the reader is enough
because a written container is longer than each of its items and than their number.
-/

namespace NumeralStyle.Json

/-! ## Blanks between the parts -/

def IsBlanks (gap : Text) : Prop :=
  ∀ letter ∈ gap, isBlank letter = true

/-- The characters that close a container. -/
def closings : List Char :=
  [']', '\x7d']

/-- What can stand behind a value. -/
def Follows (rest : Text) : Prop :=
  ∀ letter ∈ rest.head?, isBlank letter = true ∨ letter ∈ ',' :: closings

/-- The text opens with a character that is not blank and does not close a container. -/
def Opens (close : Char) (text : Text) : Prop :=
  ∃ first behind, text = first :: behind ∧ isBlank first = false ∧ first ≠ close

variable {gap lastGap text rest : Text} {letter close : Char}

theorem follows_nil : Follows [] :=
  nofun

theorem follows_cons (listed : letter ∈ ',' :: closings) : Follows (letter :: rest) := by
  intro first isFirst
  cases isFirst
  exact Or.inr listed

theorem Follows.append_blanks (follows : Follows rest) (blanks : IsBlanks gap) :
    Follows (gap ++ rest) := by
  cases gap with
  | nil => exact follows
  | cons first behind =>
      intro letter isFirst
      cases isFirst
      exact Or.inl (blanks first List.mem_cons_self)

theorem skipBlank_blanks_append (blanks : IsBlanks gap) :
    skipBlank (gap ++ rest) = skipBlank rest :=
  List.dropWhile_append_of_pos blanks

theorem skipBlank_cons (shown : isBlank letter = false) :
    skipBlank (letter :: rest) = letter :: rest :=
  List.dropWhile_cons_of_neg (by rw [shown]; decide)

theorem Opens.skipBlank_append (opens : Opens close text) (rest : Text) :
    skipBlank (text ++ rest) = text ++ rest := by
  obtain ⟨first, behind, rfl, shown, -⟩ := opens
  exact skipBlank_cons shown

theorem isBlank_of_mem_closings (closes : close ∈ closings) : isBlank close = false := by
  rcases List.mem_pair.1 closes with rfl | rfl <;> decide

/-! ## Naturals -/

theorem isDigit_of_mem_toDigits_ten {value : Nat} (member : letter ∈ Nat.toDigits 10 value) :
    letter.isDigit = true :=
  Nat.isDigit_of_mem_toDigits (by decide) (by decide) member

/-- Only zero is written with a zero in front. -/
theorem eq_zero_of_head?_toDigits
    {value : Nat} (zero : (Nat.toDigits 10 value).head? = some '0') :
    value = 0 := by
  induction value using Nat.strongRecOn with
  | ind value inductionHypothesis =>
      by_contra nonzero
      rw [Nat.toDigits_eq_if (by decide)] at zero
      split at zero
      · rename_i small
        have digits : ∀ digit < 10, Nat.digitChar digit = '0' → digit = 0 := by decide
        exact nonzero (digits value small (Option.some.inj zero))
      · rename_i large
        rw [List.head?_append_of_ne_nil _ Nat.toDigits_ne_nil] at zero
        have quotient := inductionHypothesis (value / 10) (by omega) zero
        omega

theorem exists_toDigits_eq_cons (value : Nat) :
    ∃ first behind, Nat.toDigits 10 value = first :: behind ∧ first.isDigit = true := by
  have nonempty : Nat.toDigits 10 value ≠ [] := Nat.toDigits_ne_nil
  obtain ⟨first, behind, shape⟩ := List.exists_cons_of_ne_nil nonempty
  have member : first ∈ Nat.toDigits 10 value := by
    rw [shape]
    exact List.mem_cons_self
  exact ⟨first, behind, shape, isDigit_of_mem_toDigits_ten member⟩

/-- No character behind a value continues a number. -/
theorem Follows.not_continues (follows : Follows rest) (isFirst : letter ∈ rest.head?) :
    letter.isDigit = false ∧ letter ≠ '.' ∧ isExponentMarker letter = false := by
  rcases follows letter isFirst with blank | closing
  · simp only [isBlank, Bool.or_eq_true, decide_eq_true_eq, or_assoc] at blank
    rcases blank with rfl | rfl | rfl | rfl <;> decide
  · simp only [closings, List.mem_cons, List.not_mem_nil, or_false] at closing
    rcases closing with rfl | rfl | rfl <;> decide

theorem splitMinus_of_isDigit (digit : letter.isDigit = true) :
    splitMinus (letter :: rest) = ([], letter :: rest) := by
  unfold splitMinus
  split
  · rename_i shape
    cases shape
    cases digit
  · rfl

theorem readNumber?_toDigits (value : Nat) (follows : Follows rest) :
    readNumber? (Nat.toDigits 10 value ++ rest) = some (.natural value, rest) := by
  have digits : ∀ letter ∈ Nat.toDigits 10 value, letter.isDigit = true :=
    fun _ => isDigit_of_mem_toDigits_ten
  have span := span_append Char.isDigit digits fun _ isFirst => (follows.not_continues isFirst).1
  have unsigned : splitMinus (Nat.toDigits 10 value ++ rest) =
      ([], Nat.toDigits 10 value ++ rest) := by
    obtain ⟨first, behind, shape, digit⟩ := exists_toDigits_eq_cons value
    rw [shape]
    exact splitMinus_of_isDigit digit
  have integer : splitInteger? (Nat.toDigits 10 value ++ rest) =
      some (Nat.toDigits 10 value, rest) := by
    rw [splitInteger?, splitDigits, span.1, span.2]
    refine if_neg ?_
    rintro (empty | ⟨zero, more⟩)
    · exact Nat.toDigits_ne_nil empty
    · rw [eq_zero_of_head?_toDigits zero] at more
      exact more rfl
  have fraction : splitFraction? rest = some ([], rest) := by
    unfold splitFraction?
    split
    · exact absurd rfl (follows.not_continues rfl).2.1
    · rfl
  have exponent : splitExponent? rest = some ([], rest) := by
    unfold splitExponent?
    split
    · rfl
    · rw [if_neg (by rw [(follows.not_continues rfl).2.2]; decide)]
  rw [readNumber?]
  simp only [unsigned, integer, fraction, exponent, Option.bind_eq_bind, Option.bind_some]
  rw [if_pos (by simp), Nat.ofDigitChars_ten_toDigits]
  rfl

/-! ## Strings -/

/-- The ways in which a character is written in a string, with what the reader needs to
know of them. -/
inductive Escapes : Char → Text → Prop
  | short (letter code : Char) :
      escaped? code = some letter →
      code ≠ 'u' →
      Escapes letter ['\\', code]
  | unit (letter : Char) :
      letter.toNat < 0x20 →
      Escapes letter (unitEscape letter.toNat)
  | plain (letter : Char) :
      letter ≠ '"' →
      letter ≠ '\\' →
      ¬ letter.toNat < 0x20 →
      Escapes letter [letter]

/-- The characters with an escape of two characters, and the second of these. -/
def shortEscapes : List (Char × Char) :=
  [('"', '"'), ('\\', '\\'), ('\x08', 'b'), ('\t', 't'), ('\n', 'n'), ('\x0c', 'f'), ('\r', 'r')]

theorem escapes_escape (letter : Char) : Escapes letter (escape letter) := by
  by_cases listed : letter ∈ shortEscapes.map Prod.fst
  · obtain ⟨⟨escaped, code⟩, member, rfl⟩ := List.mem_map.1 listed
    have all : ∀ pair ∈ shortEscapes,
        escape pair.1 = ['\\', pair.2] ∧ escaped? pair.2 = some pair.1 ∧ pair.2 ≠ 'u' := by
      decide
    obtain ⟨short, value, notUnit⟩ := all _ member
    rw [short]
    exact Escapes.short escaped code value notUnit
  · simp only [shortEscapes, List.map_cons, List.map_nil, List.mem_cons, List.not_mem_nil,
      or_false, not_or] at listed
    obtain ⟨quote, backslash, backspace, tabulator, newline, feed, carriage⟩ := listed
    rw [escape, if_neg quote, if_neg backslash, if_neg backspace, if_neg tabulator,
      if_neg newline, if_neg feed, if_neg carriage]
    split
    · rename_i control
      exact Escapes.unit letter control
    · rename_i shown
      exact Escapes.plain letter quote backslash shown

theorem hexValue?_hexDigit :
    ∀ digit < 16, hexValue? (hexDigit digit) = some digit := by
  decide

theorem readSymbols?_unitEscape {unit : Nat} (small : unit < 65536) :
    readSymbols? (unitEscape unit ++ rest) = prepend (.ofUnit unit) (readSymbols? rest) := by
  have value : unitValue? (hexDigit (unit / 4096 % 16)) (hexDigit (unit / 256 % 16))
      (hexDigit (unit / 16 % 16)) (hexDigit (unit % 16)) = some unit := by
    have digit (part : Nat) : hexValue? (hexDigit (part % 16)) = some (part % 16) :=
      hexValue?_hexDigit _ (Nat.mod_lt part (by decide))
    simp only [unitValue?, digit, Option.bind_eq_bind, Option.bind_some, Option.pure_def,
      Option.some.injEq]
    omega
  simp only [unitEscape, List.cons_append, List.nil_append, readSymbols?, value]

theorem Symbol.ofUnit_control (control : letter.toNat < 0x20) :
    Symbol.ofUnit letter.toNat = .letter letter := by
  have noHalf : (isHighHalf letter.toNat || isLowHalf letter.toNat) = false := by
    simp only [isHighHalf, isLowHalf, Bool.or_eq_false_iff, Bool.and_eq_false_iff,
      decide_eq_false_iff_not]
    omega
  rw [Symbol.ofUnit, noHalf, Char.ofNat_toNat]
  rfl

theorem Escapes.readSymbols?_append (escapes : Escapes letter text) :
    readSymbols? (text ++ rest) = prepend (.letter letter) (readSymbols? rest) := by
  cases escapes with
  | short code value notUnit =>
      rw [List.cons_append, List.cons_append, List.nil_append, readSymbols?, value]
      exact fun _ _ _ _ _ isUnit => absurd isUnit notUnit
  | unit control =>
      rw [readSymbols?_unitEscape (by omega), Symbol.ofUnit_control control]
  | plain notQuote notBackslash shown =>
      rw [List.cons_append, List.nil_append, readSymbols?, if_neg shown]
      · exact notQuote
      · exact fun _ _ _ _ _ isBackslash => absurd isBackslash notBackslash
      · exact fun _ _ isBackslash => absurd isBackslash notBackslash

/-- The symbols of a text are read up to the quote that closes them. -/
theorem readSymbols?_rendered (text : Text) :
    readSymbols? ((symbolsOf text).flatMap Symbol.render ++ '"' :: rest) =
      some (symbolsOf text, rest) := by
  induction text with
  | nil => rfl
  | cons letter behind inductionHypothesis =>
      rw [symbolsOf, List.map_cons, List.flatMap_cons, List.append_assoc, Symbol.render,
        (escapes_escape letter).readSymbols?_append]
      rw [symbolsOf] at inductionHypothesis
      rw [inductionHypothesis]
      rfl

/-! ## Sequences -/

section Sequences

variable {Item : Type} {readItem? : Text → Option (Item × Text)} {writeItem : Item → Text}
variable {item : Item} {items : List Item} {bound : Nat}

/-- Items with a comma and a gap in front of each. -/
def separated (gap : Text) (writeItem : Item → Text) (items : List Item) : Text :=
  items.flatMap fun item => ',' :: gap ++ writeItem item

/-- What stands between the opening and the closing character of a container. -/
def contents (gap lastGap : Text) (writeItem : Item → Text) : List Item → Text
  | [] => []
  | item :: items => gap ++ writeItem item ++ separated gap writeItem items ++ lastGap

/-- The reader takes an item, as it is written, off the front of what can follow it. -/
structure Reads (readItem? : Text → Option (Item × Text)) (close : Char) (written : Text)
    (item : Item) : Prop where
  opens : Opens close written
  read : ∀ rest, Follows rest → readItem? (written ++ rest) = some (item, rest)

/-- The items that follow the first one are read as far as the closing character. -/
theorem readSequence?_written
    (closes : close ∈ closings) (blanks : IsBlanks gap) (lastBlanks : IsBlanks lastGap)
    (reads : ∀ other ∈ item :: items, Reads readItem? close (writeItem other) other)
    (enough : items.length < bound) (rest : Text) :
    readSequence? readItem? close bound
        (writeItem item ++ (separated gap writeItem items ++ (lastGap ++ close :: rest))) =
      some (item :: items, rest) := by
  have shown := isBlank_of_mem_closings closes
  have notComma : close ≠ ',' := by
    rcases List.mem_pair.1 closes with rfl | rfl <;> decide
  -- Behind each item stands either the comma of the next one or the last gap.
  induction items generalizing item bound with
  | nil =>
      obtain ⟨bound, rfl⟩ := Nat.exists_eq_succ_of_ne_zero (Nat.ne_of_gt enough)
      have follows : Follows (lastGap ++ close :: rest) :=
        (follows_cons (List.mem_cons_of_mem _ closes)).append_blanks lastBlanks
      rw [separated, List.flatMap_nil, List.nil_append, readSequence?,
        (reads item List.mem_cons_self).read _ follows]
      dsimp only
      rw [skipBlank_blanks_append lastBlanks, skipBlank_cons shown]
      dsimp only
      rw [if_neg notComma, if_pos rfl]
  | cons next others inductionHypothesis =>
      obtain ⟨bound, rfl⟩ :=
        Nat.exists_eq_succ_of_ne_zero (Nat.ne_of_gt (Nat.zero_lt_of_lt enough))
      have readsOthers : ∀ other ∈ next :: others,
          Reads readItem? close (writeItem other) other :=
        fun other member => reads other (List.mem_cons_of_mem _ member)
      have opens := (readsOthers next List.mem_cons_self).opens
      rw [separated, List.flatMap_cons, List.append_assoc, List.cons_append, List.cons_append,
        readSequence?,
        (reads item List.mem_cons_self).read _ (follows_cons List.mem_cons_self)]
      dsimp only
      rw [skipBlank_cons (by decide)]
      dsimp only
      rw [if_pos rfl, List.append_assoc, skipBlank_blanks_append blanks, opens.skipBlank_append,
        ← separated, inductionHypothesis readsOthers (Nat.lt_of_succ_lt_succ enough)]
      rfl

variable (gap writeItem) in
theorem length_le_length_separated (items : List Item) :
    items.length ≤ (separated gap writeItem items).length := by
  induction items with
  | nil => exact Nat.le_refl 0
  | cons first others inductionHypothesis =>
      rw [separated] at inductionHypothesis ⊢
      simp only [List.flatMap_cons, List.length_append, List.length_cons]
      omega

variable (gap writeItem) in
theorem length_item_le_length_separated (member : item ∈ items) :
    (writeItem item).length + items.length ≤ (separated gap writeItem items).length := by
  induction items with
  | nil => cases member
  | cons first others inductionHypothesis =>
      have commas := length_le_length_separated gap writeItem others
      rw [separated] at commas inductionHypothesis ⊢
      simp only [List.flatMap_cons, List.length_append, List.length_cons]
      rcases List.mem_cons.1 member with rfl | later
      · omega
      · have longer := inductionHypothesis later
        omega

/-- A bound above the length of what stands in a container covers its items and their
number. -/
theorem bounds_of_length_contents_lt
    (enough : (contents gap lastGap writeItem items).length < bound) :
    items.length ≤ bound ∧ ∀ item ∈ items, (writeItem item).length ≤ bound := by
  cases items with
  | nil => exact ⟨Nat.zero_le bound, nofun⟩
  | cons first others =>
      have commas := length_le_length_separated gap writeItem others
      simp only [contents, List.length_append] at enough
      refine ⟨by rw [List.length_cons]; omega, fun item member => ?_⟩
      rcases List.mem_cons.1 member with rfl | later
      · omega
      · have longer := length_item_le_length_separated gap writeItem later
        omega

/-- A container is read from its opening character on, when the bound exceeds the length of
what stands in it. -/
theorem readItems?_contents
    (closes : close ∈ closings) (blanks : IsBlanks gap) (lastBlanks : IsBlanks lastGap)
    (reads : ∀ item ∈ items, (writeItem item).length ≤ bound →
      Reads readItem? close (writeItem item) item)
    (enough : (contents gap lastGap writeItem items).length < bound) :
    readItems? readItem? close bound (contents gap lastGap writeItem items ++ close :: rest) =
      some (items, rest) := by
  obtain ⟨few, short⟩ := bounds_of_length_contents_lt enough
  cases items with
  | nil =>
      rw [contents, List.nil_append, readItems?, skipBlank_cons (isBlank_of_mem_closings closes)]
      dsimp only
      rw [if_pos rfl]
  | cons item items =>
      have readsAll : ∀ other ∈ item :: items, Reads readItem? close (writeItem other) other :=
        fun other member => reads other member (short other member)
      have sequence := readSequence?_written closes blanks lastBlanks readsAll
        (Nat.lt_of_succ_le few) rest
      have opens := (readsAll item List.mem_cons_self).opens
      simp only [contents, List.append_assoc]
      rw [readItems?, skipBlank_blanks_append blanks, opens.skipBlank_append]
      obtain ⟨first, behind, shape, -, notClose⟩ := opens
      rw [shape] at sequence ⊢
      rw [List.cons_append] at sequence ⊢
      dsimp only
      rw [if_neg notClose, sequence]

end Sequences

/-! ## Values -/

/-- The layout puts nothing but blanks between the parts of a value. -/
structure Layout.IsBlank (layout : Layout) : Prop where
  colon : ∃ gap, layout.colon = ':' :: gap ∧ IsBlanks gap
  lineBreak : ∀ depth, IsBlanks (layout.lineBreak depth)

theorem Layout.isBlank_compact : Layout.compact.IsBlank :=
  ⟨⟨[], rfl, nofun⟩, fun _ => nofun⟩

theorem Layout.isBlank_indented : Layout.indented.IsBlank := by
  refine ⟨⟨[' '], rfl, ?_⟩, ?_⟩
  · intro letter member
    rw [List.mem_singleton.1 member]
    rfl
  · intro depth letter member
    rcases List.mem_cons.1 member with rfl | indent
    · rfl
    · rw [List.eq_of_mem_replicate indent]
      rfl

/-- A value without halves of surrogate pairs, and without numbers that are not
naturals. -/
inductive IsPlain : Json → Prop
  | null : IsPlain .null
  | bool (value : Bool) : IsPlain (.bool value)
  | natural (value : Nat) : IsPlain (.natural value)
  | text (value : Text) : IsPlain (ofText value)
  | array (items : List Json) :
      (∀ item ∈ items, IsPlain item) →
      IsPlain (.array items)
  | record (fields : List (Text × Json)) :
      (∀ field ∈ fields, IsPlain field.2) →
      IsPlain (ofRecord fields)

variable {layout : Layout} {json : Json} {depth bound : Nat}

def renderMember (layout : Layout) (depth : Nat) (member : List Symbol × Json) : Text :=
  renderString member.1 ++ layout.colon ++ render layout depth member.2

theorem renderItems_eq_separated (layout : Layout) (depth : Nat) (items : List Json) :
    renderItems layout depth items =
      separated (layout.lineBreak (depth + 1)) (render layout (depth + 1)) items := by
  induction items with
  | nil => rfl
  | cons item items inductionHypothesis =>
      rw [renderItems, inductionHypothesis, separated, separated, List.flatMap_cons]

theorem renderMembers_eq_separated
    (layout : Layout) (depth : Nat) (members : List (List Symbol × Json)) :
    renderMembers layout depth members =
      separated (layout.lineBreak (depth + 1)) (renderMember layout (depth + 1)) members := by
  induction members with
  | nil => rfl
  | cons member members inductionHypothesis =>
      rw [renderMembers, inductionHypothesis, separated, separated, List.flatMap_cons]
      simp only [renderMember, List.append_assoc]

theorem render_array (layout : Layout) (depth : Nat) (items : List Json) :
    render layout depth (.array items) =
      '[' :: contents (layout.lineBreak (depth + 1)) (layout.lineBreak depth)
        (render layout (depth + 1)) items ++ [']'] := by
  cases items with
  | nil => rfl
  | cons item items =>
      rw [render, renderItems_eq_separated]
      rfl

theorem render_object (layout : Layout) (depth : Nat) (members : List (List Symbol × Json)) :
    render layout depth (.object members) =
      '\x7b' :: contents (layout.lineBreak (depth + 1)) (layout.lineBreak depth)
        (renderMember layout (depth + 1)) members ++ ['\x7d'] := by
  cases members with
  | nil => rfl
  | cons member members =>
      rw [render, renderMembers_eq_separated, contents]
      simp only [renderMember, List.append_assoc, List.cons_append]

theorem opens_cons
    (closes : close ∈ closings) (shown : isBlank letter = false)
    (notClosing : letter ∉ closings) :
    Opens close (letter :: rest) :=
  ⟨letter, rest, rfl, shown, fun same => notClosing (same ▸ closes)⟩

theorem isBlank_of_isDigit (digit : letter.isDigit = true) : isBlank letter = false := by
  by_contra blank
  rw [Bool.not_eq_false] at blank
  simp only [isBlank, Bool.or_eq_true, decide_eq_true_eq, or_assoc] at blank
  rcases blank with rfl | rfl | rfl | rfl <;> cases digit

theorem not_closing_of_isDigit (digit : letter.isDigit = true) : letter ∉ closings := by
  intro closing
  rcases List.mem_pair.1 closing with rfl | rfl <;> cases digit

theorem opens_render (closes : close ∈ closings) (plain : IsPlain json) :
    Opens close (render layout depth json) := by
  cases plain with
  | null => exact opens_cons closes (by decide) (by decide)
  | bool value => cases value <;> exact opens_cons closes (by decide) (by decide)
  | natural value =>
      obtain ⟨first, behind, shape, digit⟩ := exists_toDigits_eq_cons value
      rw [render, shape]
      exact opens_cons closes (isBlank_of_isDigit digit) (not_closing_of_isDigit digit)
  | text value => exact opens_cons closes (by decide) (by decide)
  | array items =>
      rw [render_array]
      exact opens_cons closes (by decide) (by decide)
  | record fields =>
      rw [ofRecord, render_object]
      exact opens_cons closes (by decide) (by decide)

theorem readValue?_of_isDigit (digit : letter.isDigit = true) :
    readValue? (bound + 1) (letter :: rest) = readNumber? (letter :: rest) := by
  rw [readValue?]
  all_goals
    rintro _ ⟨⟩
    cases digit

theorem readValue?_renderString (text : Text) :
    readValue? (bound + 1) (renderString (symbolsOf text) ++ rest) =
      some (ofText text, rest) := by
  rw [renderString, List.cons_append, List.cons_append, List.append_assoc, List.singleton_append,
    readValue?, readSymbols?_rendered]
  rfl

theorem reads_member
    {name : Text} {value : Json} {readItem? : Text → Option (Json × Text)}
    (blank : layout.IsBlank)
    (reads : Reads readItem? '\x7d' (render layout depth value) value) :
    Reads (readMember? readItem?) '\x7d' (renderMember layout depth (symbolsOf name, value))
      (symbolsOf name, value) := by
  obtain ⟨gap, shape, blanks⟩ := blank.colon
  refine ⟨opens_cons (by decide) (by decide) (by decide), fun rest follows => ?_⟩
  have reading : readItem? (skipBlank (gap ++ (render layout depth value ++ rest))) =
      some (value, rest) := by
    rw [skipBlank_blanks_append blanks, reads.opens.skipBlank_append, reads.read rest follows]
  rw [renderMember, renderString, shape]
  simp only [List.cons_append, List.append_assoc, List.nil_append]
  rw [readMember?, readSymbols?_rendered]
  dsimp only
  rw [skipBlank_cons (by decide)]
  -- The pattern asks for the colon that stands in front.
  split
  · rename_i colon
    cases colon
    rw [reading]
  · rename_i noColon
    exact absurd rfl (noColon _)

theorem length_render_pos (plain : IsPlain json) : 0 < (render layout depth json).length := by
  have opens : Opens ']' (render layout depth json) := opens_render List.mem_cons_self plain
  obtain ⟨first, behind, shape, -⟩ := opens
  rw [shape]
  exact Nat.succ_pos behind.length

/-- An array is read if its items are, with the bound lowered by one. -/
theorem readValue?_array
    {items : List Json} (blank : layout.IsBlank)
    (enough : (render layout depth (.array items)).length ≤ bound + 1)
    (reads : ∀ item ∈ items, (render layout (depth + 1) item).length ≤ bound →
      Reads (readValue? bound) ']' (render layout (depth + 1) item) item) :
    readValue? (bound + 1) (render layout depth (.array items) ++ rest) =
      some (.array items, rest) := by
  have closes : ']' ∈ closings := by decide
  rw [render_array] at enough ⊢
  rw [List.length_append, List.length_cons, List.length_singleton] at enough
  rw [List.cons_append, List.cons_append, List.append_assoc, List.singleton_append, readValue?,
    readItems?_contents closes (blank.lineBreak _) (blank.lineBreak _) reads
      (Nat.le_of_succ_le_succ enough)]
  rfl

/-- An object is read if its members are, with the bound lowered by one. -/
theorem readValue?_object
    {members : List (List Symbol × Json)} (blank : layout.IsBlank)
    (enough : (render layout depth (.object members)).length ≤ bound + 1)
    (reads : ∀ member ∈ members, (renderMember layout (depth + 1) member).length ≤ bound →
      Reads (readMember? (readValue? bound)) '\x7d' (renderMember layout (depth + 1) member)
        member) :
    readValue? (bound + 1) (render layout depth (.object members) ++ rest) =
      some (.object members, rest) := by
  have closes : '\x7d' ∈ closings := by decide
  rw [render_object] at enough ⊢
  rw [List.length_append, List.length_cons, List.length_singleton] at enough
  rw [List.cons_append, List.cons_append, List.append_assoc, List.singleton_append, readValue?,
    readItems?_contents closes (blank.lineBreak _) (blank.lineBreak _) reads
      (Nat.le_of_succ_le_succ enough)]
  rfl

/-- A plain value is read back from what is written of it.  The induction is on the bound,
which the reader lowers by one for the items of a container. -/
theorem reads_render
    (closes : close ∈ closings) (blank : layout.IsBlank) (plain : IsPlain json)
    (enough : (render layout depth json).length ≤ bound) :
    Reads (readValue? bound) close (render layout depth json) json := by
  refine ⟨opens_render closes plain, fun rest follows => ?_⟩
  induction bound generalizing json depth rest with
  | zero => exact absurd enough (Nat.not_le_of_gt (length_render_pos plain))
  | succ bound inductionHypothesis =>
      cases plain with
      | null => rfl
      | bool value => cases value <;> rfl
      | natural value =>
          obtain ⟨first, behind, shape, digit⟩ := exists_toDigits_eq_cons value
          have number := readNumber?_toDigits value follows
          rw [render]
          rw [shape, List.cons_append] at number ⊢
          rw [readValue?_of_isDigit digit, number]
      | text value => exact readValue?_renderString value
      | array items plain =>
          refine readValue?_array blank enough fun item member short => ?_
          exact ⟨opens_render (by decide) (plain item member),
            inductionHypothesis (plain item member) short⟩
      | record fields plain =>
          refine readValue?_object blank enough fun member listed short => ?_
          obtain ⟨⟨name, value⟩, listedField, rfl⟩ := List.mem_map.1 listed
          have plainValue : IsPlain value := plain (name, value) listedField
          have shortValue : (render layout (depth + 1) value).length ≤ bound := by
            dsimp only [renderMember] at short
            rw [List.length_append] at short
            exact Nat.le_of_add_left_le short
          exact reads_member blank ⟨opens_render (by decide) plainValue,
            inductionHypothesis plainValue shortValue⟩

/-- Reading gives back what was written. -/
theorem read?_write (blank : layout.IsBlank) (plain : IsPlain json) :
    read? (json.write layout) = some json := by
  have reads : Reads (readValue? ((render layout 0 json).length + 1)) ']' (render layout 0 json)
      json :=
    reads_render List.mem_cons_self blank plain (Nat.le_succ _)
  have start := reads.opens.skipBlank_append []
  have whole := reads.read [] follows_nil
  rw [List.append_nil] at start whole
  rw [read?, write, start, whole]
  rfl

/-! ## Records -/

section Records

variable {members : List (Text × Json)} {name : Text} {value : Json}

theorem namedMembers?_symbolsOf (members : List (Text × Json)) :
    namedMembers? (members.map fun (name, value) => (symbolsOf name, value)) = some members := by
  induction members with
  | nil => rfl
  | cons member members inductionHypothesis =>
      rw [List.map_cons, namedMembers?, inductionHypothesis, textOf?_symbolsOf]

theorem uniqueMember?_eq_some
    (distinct : (members.map Prod.fst).Nodup) (member : (name, value) ∈ members) :
    uniqueMember? members name = some value := by
  obtain ⟨front, back, rfl⟩ := List.append_of_mem member
  rw [List.map_append, List.map_cons, List.nodup_append, List.nodup_cons] at distinct
  obtain ⟨-, ⟨notBehind, -⟩, apart⟩ := distinct
  have noneInFront : front.filter (fun other => other.1 = name) = [] := by
    refine List.filter_eq_nil_iff.2 fun other listed same => ?_
    exact apart _ (List.mem_map_of_mem listed) _ List.mem_cons_self (of_decide_eq_true same)
  have noneBehind : back.filter (fun other => other.1 = name) = [] := by
    refine List.filter_eq_nil_iff.2 fun other listed same => ?_
    exact notBehind (List.mem_map.2 ⟨other, listed, of_decide_eq_true same⟩)
  have itself : decide ((name, value).1 = name) = true := decide_eq_true rfl
  rw [uniqueMember?, List.filter_append, List.filter_cons, if_pos itself, noneInFront, noneBehind]
  rfl

/-- The fields are found wherever the members with their names stand, and whatever other
members there are. -/
theorem fields?_ofRecord
    {names : List Text} {values : List Json} (distinct : (members.map Prod.fst).Nodup)
    (listed : List.Forall₂ (fun name value => (name, value) ∈ members) names values) :
    fields? names (ofRecord members) = some values := by
  rw [ofRecord, fields?, namedMembers?_symbolsOf]
  change names.mapM (uniqueMember? members) = some values
  induction listed with
  | nil => rfl
  | cons member _ inductionHypothesis =>
      rw [List.mapM_cons, uniqueMember?_eq_some distinct member, inductionHypothesis]
      rfl

/-- A record has the values of its fields in whatever order these are written. -/
theorem fields?_ofRecord_of_perm
    {fields : List (Text × Json)} (order : members.Perm fields)
    (distinct : (fields.map Prod.fst).Nodup) :
    fields? (fields.map Prod.fst) (ofRecord members) = some (fields.map Prod.snd) := by
  have names : (members.map Prod.fst).Perm (fields.map Prod.fst) := order.map Prod.fst
  have listed : List.Forall₂ (fun name value => (name, value) ∈ members)
      (fields.map Prod.fst) (fields.map Prod.snd) := by
    rw [List.forall₂_map_left_iff, List.forall₂_map_right_iff, List.forall₂_same]
    exact fun field member => order.mem_iff.2 member
  exact fields?_ofRecord (names.nodup_iff.2 distinct) listed

end Records

end NumeralStyle.Json
