import NumeralStyle.Proofs.Numeral.Grammar

/-!
# Branches of the reader

A text is read as an integer of each base and as a real.  The branches share letters: some
hexadecimal digits mark exponents, types of reals or base two.  Still each text
belongs to at most one branch, a run of decimal digits apart, which is an integer and a
real.  The main statement says so, and that the branches may be tried in any order that
settles this one choice.
-/

namespace NumeralStyle.Numeral

/-- A way to read a text. -/
inductive Branch where
  | integer (base : Base)
  | real
  deriving DecidableEq, Repr

namespace Branch

/-- What a branch by itself finds in a text. -/
def read? (text : Text) : Branch → Option Numeral
  | .integer base => integer? base text
  | .real => (Numeral.real text).toOption

/-- Try branches in order until one of them finds a numeral. -/
def readFirst? (order : List Branch) (text : Text) : Option Numeral :=
  order.findSome? (read? text)

variable {text : Text} {numeral other : Numeral} {branch left right : Branch}

theorem read?_integer_eq_some_iff {base : Base} :
    (Branch.integer base).read? text = some numeral ↔
      numeral.IntegerForm ∧ numeral.base = base ∧ numeral.text = text :=
  integer?_eq_some_iff

theorem read?_real_eq_some_iff :
    Branch.real.read? text = some numeral ↔ numeral.RealForm ∧ numeral.text = text := by
  rw [← real_eq_ok_iff, read?]
  cases Numeral.real text with
  | error rejection => exact ⟨nofun, nofun⟩
  | ok other => simp [Except.toOption]

/-! ## Texts of two branches -/

/-- An integer and a real with one text are decimal, consist of a run of digits and
differ in nothing but their kind. -/
theorem integer_real_overlap
    (form : numeral.IntegerForm) (real : other.RealForm) (sameText : numeral.text = other.text) :
    numeral.base = .decimal ∧ numeral.text ∈ Grammar.digitRun ∧
      numeral.suffix = [] ∧ other.suffix = [] ∧
        { numeral with isInteger := other.isInteger } = other := by
  obtain ⟨decimal, unmarked, sameDigits, empty, otherEmpty⟩ :=
    form.same_digits_of_real real sameText
  refine ⟨decimal, ?_, empty, otherEmpty, ?_⟩
  · have run := (form.isBare_of_real real sameText).2
    rw [Grammar.mem_digitRun, Numeral.text, unmarked, empty, List.nil_append, List.append_nil,
      sameDigits]
    exact run
  · rw [decimal, ← real.base, unmarked, ← real.mark, sameDigits, empty, ← otherEmpty]

/-- Two branches that find numerals in one text are those of decimal integers and of
reals, and the text is a run of digits. -/
theorem overlap
    (different : left ≠ right)
    (reading : left.read? text = some numeral) (otherReading : right.read? text = some other) :
    ((left = .integer .decimal ∧ right = .real) ∨ (left = .real ∧ right = .integer .decimal)) ∧
      text ∈ Grammar.digitRun ∧ numeral.suffix = [] ∧ other.suffix = [] ∧
        { numeral with isInteger := other.isInteger } = other := by
  cases left with
  | integer base =>
      obtain ⟨form, rfl, spelled⟩ := read?_integer_eq_some_iff.1 reading
      cases right with
      | integer otherBase =>
          obtain ⟨otherForm, rfl, otherSpelled⟩ := read?_integer_eq_some_iff.1 otherReading
          have same := form.unique otherForm (spelled.trans otherSpelled.symm)
          exact absurd (congrArg (Branch.integer ·.base) same) different
      | real =>
          obtain ⟨otherForm, otherSpelled⟩ := read?_real_eq_some_iff.1 otherReading
          obtain ⟨decimal, run, parts⟩ :=
            integer_real_overlap form otherForm (spelled.trans otherSpelled.symm)
          rw [spelled] at run
          exact ⟨Or.inl ⟨congrArg Branch.integer decimal, rfl⟩, run, parts⟩
  | real =>
      obtain ⟨form, spelled⟩ := read?_real_eq_some_iff.1 reading
      cases right with
      | integer otherBase =>
          obtain ⟨otherForm, rfl, otherSpelled⟩ := read?_integer_eq_some_iff.1 otherReading
          obtain ⟨decimal, run, empty, otherEmpty, same⟩ :=
            integer_real_overlap otherForm form (otherSpelled.trans spelled.symm)
          rw [otherSpelled] at run
          refine ⟨Or.inr ⟨rfl, congrArg Branch.integer decimal⟩, run, otherEmpty, empty, ?_⟩
          rw [← same]
      | real => exact absurd rfl different

theorem isReal_of_mem_digitRun (run : text ∈ Grammar.digitRun) :
    (Regions.ofReal text).IsReal := by
  have real : (Regions.ofInteger text).IsReal :=
    ⟨Regions.hasMantissaShape_iff.2 (Or.inl ⟨rfl, Grammar.mem_digitRun.1 run⟩), Or.inl rfl⟩
  have whole : (Regions.ofInteger text).text = text := List.append_nil text
  have split := real.ofReal_text
  rw [whole] at split
  rwa [split]

/-- A run of digits is found by both branches. -/
theorem read?_of_mem_digitRun (run : text ∈ Grammar.digitRun) :
    (Branch.integer .decimal).read? text = some ⟨.decimal, [], text, [], true⟩ ∧
      Branch.real.read? text = some ⟨.decimal, [], text, [], false⟩ := by
  have whole : ∀ isInteger, Numeral.text ⟨.decimal, [], text, [], isInteger⟩ = text :=
    fun _ => List.append_nil text
  have real := isReal_of_mem_digitRun run
  rw [read?_integer_eq_some_iff, read?_real_eq_some_iff]
  refine ⟨⟨⟨rfl, List.mem_singleton.2 rfl, ?_, rfl⟩, rfl, whole true⟩,
    ⟨rfl, rfl, rfl, real, ?_⟩, whole false⟩
  · exact isIntegerDigits_decimal_iff.2 (Grammar.mem_digitRun.1 run)
  · exact (Grammar.exists_realType?_iff real).2 ⟨Or.inl rfl, nofun⟩

/-! ## Orders -/

/-- The branch that decides is the first that finds something. -/
theorem readFirst?_eq_some
    {order : List Branch} (reading : branch.read? text = some numeral) (member : branch ∈ order)
    (first : ∀ earlier ∈ order, earlier ≠ branch → (earlier.read? text).isSome = true →
      order.idxOf branch < order.idxOf earlier) :
    readFirst? order text = some numeral := by
  unfold readFirst?
  induction order with
  | nil => cases member
  | cons head rest inductionHypothesis =>
      by_cases same : head = branch
      · rw [same, List.findSome?_cons, reading]
      · have silent : head.read? text = none := by
          rw [← Option.not_isSome_iff_eq_none]
          intro found
          have later := first head List.mem_cons_self same found
          rw [List.idxOf_cons_self] at later
          cases later
        rw [List.findSome?_cons, silent]
        apply inductionHypothesis (List.mem_of_ne_of_mem (Ne.symm same) member)
        intro earlier inRest different found
        have distinct : head ≠ earlier := by
          intro equal
          rw [← equal, silent] at found
          cases found
        have later := first earlier (List.mem_cons_of_mem head inRest) different found
        rw [List.idxOf_cons_ne rest same, List.idxOf_cons_ne rest distinct] at later
        exact Nat.lt_of_succ_lt_succ later

/-- The branch of a numeral that the reader finds. -/
theorem exists_branch_of_wellFormed (form : numeral.WellFormed) :
    ∃ branch : Branch, branch.read? numeral.text = some numeral ∧
      (numeral.text ∈ Grammar.digitRun → branch = .integer .decimal) := by
  rcases form with integer | ⟨real, notBare⟩
  · refine ⟨.integer numeral.base, read?_integer_eq_some_iff.2 ⟨integer, rfl, rfl⟩, ?_⟩
    intro run
    obtain ⟨found, -⟩ := read?_of_mem_digitRun run
    obtain ⟨decimal, -, sameText⟩ := read?_integer_eq_some_iff.1 found
    rw [← decimal.unique integer sameText]
  · refine ⟨.real, read?_real_eq_some_iff.2 ⟨real, rfl⟩, ?_⟩
    intro run
    obtain ⟨found, -⟩ := read?_of_mem_digitRun run
    obtain ⟨integer, -, sameText⟩ := read?_integer_eq_some_iff.1 found
    exact absurd (integer.isBare_of_real real sameText) notBare

/-- What a branch finds, the reader accepts. -/
theorem isSome_parse?_of_read?
    (reading : branch.read? (Text.trim text) = some numeral) :
    (parse? text).isSome = true := by
  have accepted : ∀ {found : Numeral}, found.WellFormed → found.text = Text.trim text →
      (parse? text).isSome = true := by
    intro found form spelled
    rw [parse?_eq_some_iff.2 ⟨form, spelled⟩]
    rfl
  cases branch with
  | integer base =>
      obtain ⟨form, -, spelled⟩ := read?_integer_eq_some_iff.1 reading
      exact accepted (Or.inl form) spelled
  | real =>
      obtain ⟨form, spelled⟩ := read?_real_eq_some_iff.1 reading
      by_cases bare : numeral.IsBare
      · obtain ⟨integer, integerForm, sameText⟩ := form.exists_integer_of_isBare bare
        exact accepted (Or.inl integerForm) (sameText.trans spelled)
      · exact accepted (Or.inr ⟨form, bare⟩) spelled

/-- An order agrees with the reader when it settles the choice on runs of digits. -/
theorem readFirst?_eq_parse?
    {order : List Branch} (complete : ∀ branch, branch ∈ order)
    (settled : Text.trim text ∈ Grammar.digitRun →
      order.idxOf (.integer .decimal) < order.idxOf .real) :
    readFirst? order (Text.trim text) = parse? text := by
  cases result : parse? text with
  | none =>
      refine List.findSome?_eq_none_iff.2 fun branch _ => ?_
      rw [Option.eq_none_iff_forall_ne_some]
      intro numeral reading
      have accepted := isSome_parse?_of_read? reading
      rw [result] at accepted
      cases accepted
  | some numeral =>
      obtain ⟨form, spelled⟩ := parse?_eq_some_iff.1 result
      obtain ⟨branch, reading, decides⟩ := exists_branch_of_wellFormed form
      rw [spelled] at reading decides
      apply readFirst?_eq_some reading (complete branch)
      intro earlier _ different found
      obtain ⟨other, otherReading⟩ := Option.isSome_iff_exists.1 found
      obtain ⟨⟨rfl, rfl⟩ | ⟨rfl, rfl⟩, run, -⟩ := overlap different otherReading reading
      · cases decides run
      · exact settled run

/-- The order of the branches matters on runs of digits only.  A text that two branches
take is such a run, without a suffix, and what they find differs only in its kind; every
order that tries each branch agrees with the reader on a text exactly when it tries the
decimal integer before the real, in case the text is such a run. -/
theorem order_matters_on_digitRun (text : Text) :
    (∀ left right : Branch, ∀ numeral other, left ≠ right →
      left.read? text = some numeral → right.read? text = some other →
        ((left = .integer .decimal ∧ right = .real) ∨
            (left = .real ∧ right = .integer .decimal)) ∧
          text ∈ Grammar.digitRun ∧ numeral.suffix = [] ∧ other.suffix = [] ∧
            { numeral with isInteger := other.isInteger } = other) ∧
      ∀ order : List Branch, (∀ branch, branch ∈ order) →
        (readFirst? order (Text.trim text) = parse? text ↔
          (Text.trim text ∈ Grammar.digitRun →
            order.idxOf (.integer .decimal) < order.idxOf .real)) := by
  refine ⟨fun _ _ _ _ different reading otherReading => overlap different reading otherReading, ?_⟩
  intro order complete
  refine ⟨?_, readFirst?_eq_parse? complete⟩
  intro agrees run
  obtain ⟨integerReading, realReading⟩ := read?_of_mem_digitRun run
  by_contra notBefore
  -- Then the real comes first, and no other branch but the decimal integer takes a run.
  have realFirst : readFirst? order (Text.trim text) =
      some ⟨.decimal, [], Text.trim text, [], false⟩ := by
    apply readFirst?_eq_some realReading (complete .real)
    intro earlier _ different found
    obtain ⟨other, otherReading⟩ := Option.isSome_iff_exists.1 found
    obtain ⟨⟨rfl, -⟩ | ⟨rfl, -⟩, -⟩ := overlap different otherReading realReading
    · have distinct : order.idxOf .real ≠ order.idxOf (.integer .decimal) := by
        intro same
        cases (List.idxOf_inj (complete .real)).1 same
      omega
    · exact absurd rfl different
  obtain ⟨form, -, spelled⟩ := read?_integer_eq_some_iff.1 integerReading
  have reading := parse?_eq_some_iff.2 ⟨Or.inl form, spelled⟩
  rw [← agrees, realFirst] at reading
  cases reading

/-- A run of digits with separators is taken twice; hexadecimal digits that look like a
real with a marker are not. -/
example :
    [Branch.integer .decimal, .integer .hexadecimal, .integer .binary, .real].filter
        (fun branch => (branch.read? "1_000".toList).isSome) = [.integer .decimal, .real] ∧
      [Branch.integer .decimal, .integer .hexadecimal, .integer .binary, .real].filter
        (fun branch => (branch.read? "0x12e3d".toList).isSome) = [.integer .hexadecimal] := by
  decide

end Branch

end NumeralStyle.Numeral
