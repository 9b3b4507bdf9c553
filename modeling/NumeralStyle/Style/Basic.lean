import NumeralStyle.Base

/-!
# Styles of grouping

A rule says from which size on a numeral is grouped and how large its groups are,
and a style has one rule for each base.  A style is valid when no rule asks for
groups of size zero.  The main statement says that validation succeeds on exactly
the valid styles.
-/

namespace NumeralStyle

structure Rule where
  /-- Numerals of a smaller size are left as they are. -/
  minimumSize : UInt64
  /-- The number of digits between two separators. -/
  groupSize : UInt8
  deriving DecidableEq, Repr

/-- The rule for numerals that are longer than one group of the given size. -/
def Rule.longerThanOneGroup (groupSize : UInt8) : Rule :=
  ⟨groupSize.toUInt64 + 1, groupSize⟩

structure Style where
  decimal : Rule
  hexadecimal : Rule
  binary : Rule
  deriving DecidableEq, Repr

inductive StyleError where
  | zeroGroupSize (base : Base)
  | unreadable (reason : String)
  deriving DecidableEq, Repr

def StyleError.message : StyleError → String
  | .zeroGroupSize base => "invalid " ++ base.name ++ " rule: group size must be positive"
  | .unreadable reason => "invalid policy configuration: " ++ reason

namespace Style

def uniform (rule : Rule) : Style :=
  ⟨rule, rule, rule⟩

def ruleFor (style : Style) : Base → Rule
  | .decimal => style.decimal
  | .hexadecimal => style.hexadecimal
  | .binary => style.binary

def withRule (style : Style) (base : Base) (rule : Rule) : Style :=
  match base with
  | .decimal => { style with decimal := rule }
  | .hexadecimal => { style with hexadecimal := rule }
  | .binary => { style with binary := rule }

theorem ruleFor_withRule
    (style : Style) (replaced base : Base) (rule : Rule) :
    (style.withRule replaced rule).ruleFor base =
      if base = replaced then rule else style.ruleFor base := by
  cases replaced <;> cases base <;> rfl

/-- Thousands in base ten, bytes in base sixteen and half bytes in base two. -/
def conventional : Style :=
  ⟨.longerThanOneGroup 3, .longerThanOneGroup 2, .longerThanOneGroup 4⟩

/-- The conventional style with groups of two bytes in base sixteen. -/
def wordHex : Style :=
  conventional.withRule .hexadecimal (.longerThanOneGroup 4)

/-- Whether every rule asks for groups of positive size. -/
def Valid (style : Style) : Prop :=
  ∀ base, (style.ruleFor base).groupSize ≠ 0

def firstInvalid? (style : Style) : Option Base :=
  Base.all.find? fun base => (style.ruleFor base).groupSize = 0

theorem firstInvalid?_eq_none_iff
    (style : Style) :
    style.firstInvalid? = none ↔ style.Valid := by
  constructor
  · intro absent base zero
    have rejected := List.find?_eq_none.1 absent base base.mem_all
    exact rejected (decide_eq_true zero)
  · intro valid
    refine List.find?_eq_none.2 fun base _ accepted => ?_
    exact valid base (of_decide_eq_true accepted)

def validate (style : Style) : Except StyleError Unit :=
  match style.firstInvalid? with
  | some base => .error (.zeroGroupSize base)
  | none => .ok ()

/-- Validation succeeds on exactly the valid styles. -/
theorem validate_eq_ok_iff
    (style : Style) :
    style.validate = .ok () ↔ style.Valid := by
  rw [← firstInvalid?_eq_none_iff]
  unfold validate
  cases style.firstInvalid? with
  | none => exact ⟨fun _ => rfl, fun _ => rfl⟩
  | some base => exact ⟨(nomatch ·), (nomatch ·)⟩

end Style

end NumeralStyle
