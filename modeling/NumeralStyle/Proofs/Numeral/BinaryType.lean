import NumeralStyle.Proofs.Numeral.Insertion

/-!
# Reals of the binary types

The two binary types take all digits of reals, however many there are, so that a real of
these types is read exactly if its digits have real shape.  Shape depends on separators in
so far only as they have to stand inside runs of digits.  The main statement says that it
is kept when separators are put there or taken away, and that reading asks for nothing
else.
-/

namespace NumeralStyle

/-- One separator more inside a run, between two of its characters, or one fewer. -/
inductive Respaces : Text → Text → Prop
  | insert (front back : Text) :
      Base.decimal.Surrounds front back →
      Respaces (front ++ back) (front ++ separator :: back)
  | remove (front back : Text) :
      Respaces (front ++ separator :: back) (front ++ back)

variable {digits edited marker : Text}

namespace Respaces

theorem scrub_eq (respaces : Respaces digits edited) : scrub edited = scrub digits := by
  cases respaces with
  | insert front back surrounds => exact scrub_append_separators 1 front back
  | remove front back => exact (scrub_append_separators 1 front back).symm

theorem enclosed (respaces : Respaces digits edited) (enclosed : Enclosed digits) :
    Enclosed edited := by
  cases respaces with
  | insert front back surrounds => exact enclosed.append_separators surrounds Nat.one_pos
  | remove front back =>
      have row : Enclosed (front ++ (List.replicate 1 separator ++ back)) := enclosed
      exact row.of_append_separators Nat.one_pos

/-- Shape is that of the scrubbed digits, with the separators enclosed, and both stay. -/
theorem isReal (respaces : Respaces digits edited) (real : (Regions.ofReal digits).IsReal) :
    (Regions.ofReal edited).IsReal := by
  rw [Regions.isReal_ofReal_iff_scrub] at real ⊢
  rw [respaces.scrub_eq]
  exact ⟨real.1, respaces.enclosed real.2⟩

end Respaces

/-- Separators may come and go one after the other. -/
theorem isReal_of_reflTransGen_respaces
    (real : (Regions.ofReal digits).IsReal) (edits : Relation.ReflTransGen Respaces digits edited) :
    (Regions.ofReal edited).IsReal := by
  induction edits with
  | refl => exact real
  | tail _ respaces inductionHypothesis => exact respaces.isReal inductionHypothesis

namespace Numeral

/-- The suffixes of reals of the binary types. -/
def binaryMarkers : List Text :=
  [[], ['f'], ['F'], ['d'], ['D']]

theorem exists_realType?_of_binaryMarker (listed : marker ∈ binaryMarkers) :
    ∃ type, realType? marker = some type ∧ type ≠ .decimal := by
  simp only [binaryMarkers, List.mem_cons, List.not_mem_nil, or_false] at listed
  rcases listed with rfl | rfl | rfl | rfl | rfl
  · exact ⟨.double, rfl, nofun⟩
  · exact ⟨.single, rfl, nofun⟩
  · exact ⟨.single, rfl, nofun⟩
  · exact ⟨.double, rfl, nofun⟩
  · exact ⟨.double, rfl, nofun⟩

/-- Digits in front of the suffix of a binary type are read if they have real shape. -/
theorem real_append_binaryMarker_iff (listed : marker ∈ binaryMarkers) :
    real (digits ++ marker) = .ok ⟨.decimal, [], digits, marker, false⟩ ↔
      (Regions.ofReal digits).IsReal := by
  rw [real_eq_ok_iff]
  constructor
  · intro reading
    exact reading.1.digits
  · intro real
    obtain ⟨type, marked, binary⟩ := exists_realType?_of_binaryMarker listed
    exact ⟨⟨rfl, rfl, rfl, real, type, marked, RealType.accepts_scrub real binary⟩, rfl⟩

/-- Digits of real shape are accepted by both binary types once they are scrubbed, and keep
their shape then and when separators come and go inside runs.  So no real of a binary type
is rejected. -/
theorem real_of_hasRealShape (shape : (Regions.ofReal digits).hasRealShape = true) :
    RealType.single.accepts (scrub digits) = true ∧
      RealType.double.accepts (scrub digits) = true ∧
      (Regions.ofReal (scrub digits)).hasRealShape = true ∧
      (∀ edited, Relation.ReflTransGen Respaces digits edited →
        (Regions.ofReal edited).hasRealShape = true) ∧
      ∀ marker ∈ binaryMarkers,
        real (digits ++ marker) = .ok ⟨.decimal, [], digits, marker, false⟩ := by
  have isReal := Regions.isReal_ofReal_iff.2 shape
  refine ⟨RealType.accepts_scrub isReal nofun, RealType.accepts_scrub isReal nofun, ?_, ?_, ?_⟩
  · exact Regions.isReal_ofReal_iff.1 (Regions.isReal_ofReal_iff_scrub.1 isReal).1
  · intro edited edits
    exact Regions.isReal_ofReal_iff.1 (isReal_of_reflTransGen_respaces isReal edits)
  · intro marker listed
    exact (real_append_binaryMarker_iff listed).2 isReal

/-- An exponent of twelve digits is too large for every type, but not for its shape. -/
theorem real_of_hasRealShape_long_exponent :
    (Regions.ofReal "1_0.5e999_999_999_999".toList).hasRealShape = true ∧
      RealType.single.accepts "10.5e999999999999".toList = true ∧
      (Regions.ofReal "10.5e999_999_999_999".toList).hasRealShape = true ∧
      real "1_0.5e999_999_999_999F".toList =
        .ok ⟨.decimal, [], "1_0.5e999_999_999_999".toList, ['F'], false⟩ := by
  have shape : (Regions.ofReal "1_0.5e999_999_999_999".toList).hasRealShape = true := rfl
  obtain ⟨single, -, -, respaced, reading⟩ := real_of_hasRealShape shape
  have removed : Respaces "1_0.5e999_999_999_999".toList "10.5e999_999_999_999".toList :=
    .remove ['1'] "0.5e999_999_999_999".toList
  exact ⟨shape, single, respaced _ (.single removed), reading ['F'] (by decide)⟩

end Numeral

end NumeralStyle
