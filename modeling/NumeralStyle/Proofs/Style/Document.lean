import NumeralStyle.Style.Document
import NumeralStyle.Proofs.Check.Canonical
import NumeralStyle.Proofs.Json.RoundTrip

/-!
# Styles survive their documents

What is written of a rule holds both of its numbers up to the largest, and what is written
of a style its three rules, so that reading finds the same style and has only to validate
it.  The main statement says what is read from the document of any style, and that
whatever text a style is read from, a check accepts the style and its document is read
again.
-/

namespace NumeralStyle

open Json

namespace Rule

theorem nodup_fieldNames : fieldNames.Nodup := by
  decide

theorem isPlain_toJson (rule : Rule) : IsPlain rule.toJson := by
  refine IsPlain.record _ fun field listed => ?_
  rcases List.mem_pair.1 listed with rfl | rfl
  · exact IsPlain.natural rule.minimumSize.toNat
  · exact IsPlain.natural rule.groupSize.toNat

/-- Both numbers of a rule are in the range that the reader takes. -/
theorem ofJson?_toJson (rule : Rule) : ofJson? rule.toJson = some rule := by
  have values : rule.toJson.fields? fieldNames =
      some [.natural rule.minimumSize.toNat, .natural rule.groupSize.toNat] :=
    fields?_ofRecord nodup_fieldNames (.cons (by simp) (.cons (by simp) .nil))
  have minimumSize : naturalBelow? UInt64.size (.natural rule.minimumSize.toNat) =
      some rule.minimumSize.toNat :=
    if_pos rule.minimumSize.toNat_lt
  have groupSize : naturalBelow? UInt8.size (.natural rule.groupSize.toNat) =
      some rule.groupSize.toNat :=
    if_pos rule.groupSize.toNat_lt
  rw [ofJson?, values]
  dsimp only
  rw [minimumSize, groupSize]
  dsimp only
  rw [UInt64.ofNat_toNat, UInt8.ofNat_toNat]

end Rule

namespace Style

variable {style : Style}

theorem nodup_fieldNames : fieldNames.Nodup := by
  decide

theorem isPlain_toJson (style : Style) : IsPlain style.toJson := by
  refine IsPlain.record _ fun field listed => ?_
  simp only [List.mem_cons, List.not_mem_nil, or_false] at listed
  rcases listed with rfl | rfl | rfl
  · exact style.decimal.isPlain_toJson
  · exact style.hexadecimal.isPlain_toJson
  · exact style.binary.isPlain_toJson

theorem ofJson?_toJson (style : Style) : ofJson? style.toJson = some style := by
  have rules : style.toJson.fields? fieldNames =
      some [style.decimal.toJson, style.hexadecimal.toJson, style.binary.toJson] :=
    fields?_ofRecord nodup_fieldNames
      (.cons (by simp) (.cons (by simp) (.cons (by simp) .nil)))
  rw [ofJson?, rules]
  dsimp only
  rw [Rule.ofJson?_toJson, Rule.ofJson?_toJson, Rule.ofJson?_toJson]

/-- Reading the document of a style comes down to validating the style. -/
theorem ofDocument_document (style : Style) :
    ofDocument style.document = style.validate.map fun _ => style := by
  have written : (read? style.document).bind ofJson? = some style := by
    rw [document, read?_write Layout.isBlank_indented style.isPlain_toJson, Option.bind_some,
      ofJson?_toJson]
  rw [ofDocument, written]
  dsimp only
  cases style.validate <;> rfl

theorem validate_eq (style : Style) :
    style.validate =
      if style.decimal.groupSize = 0 then .error (.zeroGroupSize .decimal)
      else if style.hexadecimal.groupSize = 0 then .error (.zeroGroupSize .hexadecimal)
      else if style.binary.groupSize = 0 then .error (.zeroGroupSize .binary)
      else .ok () := by
  rw [validate, firstInvalid?]
  simp only [Base.all, List.find?_cons, List.find?_nil, ruleFor]
  by_cases decimal : style.decimal.groupSize = 0
  · simp [decimal]
  by_cases hexadecimal : style.hexadecimal.groupSize = 0
  · simp [decimal, hexadecimal]
  by_cases binary : style.binary.groupSize = 0
  · simp [decimal, hexadecimal, binary]
  · simp [decimal, hexadecimal, binary]

theorem ofDocument_document_of_valid (valid : style.Valid) :
    ofDocument style.document = .ok style := by
  rw [ofDocument_document, (validate_eq_ok_iff style).2 valid]
  rfl

/-- Only valid styles are read. -/
theorem valid_of_ofDocument {text : Text} (reading : ofDocument text = .ok style) :
    style.Valid := by
  unfold ofDocument at reading
  split at reading
  · cases reading
  · split at reading
    · cases reading
    · rename_i validated
      cases reading
      exact (validate_eq_ok_iff style).1 validated

theorem exists_ofStyle_eq_ok (valid : style.Valid) :
    ∃ check, Check.ofStyle style = .ok check ∧ check.style = style := by
  have made := Check.map_style_ofStyle style
  rw [(validate_eq_ok_iff style).2 valid] at made
  cases built : Check.ofStyle style with
  | ok check =>
      rw [built] at made
      exact ⟨check, rfl, Except.ok.inj made⟩
  | error error =>
      rw [built] at made
      cases made

/-- The document of a style is read as the style itself, or rejected for the first base whose
rule asks for groups of size zero.  A style that is read from any text passes validation,
makes a check with this style, and is read again from its own document. -/
theorem ofDocument_round_trip :
    (∀ style : Style,
        ofDocument style.document =
          if style.decimal.groupSize = 0 then .error (.zeroGroupSize .decimal)
          else if style.hexadecimal.groupSize = 0 then .error (.zeroGroupSize .hexadecimal)
          else if style.binary.groupSize = 0 then .error (.zeroGroupSize .binary)
          else .ok style) ∧
      ∀ text style, ofDocument text = .ok style →
        style.validate = .ok () ∧
          (∃ check, Check.ofStyle style = .ok check ∧ check.style = style) ∧
          ofDocument style.document = .ok style := by
  refine ⟨fun style => ?_, fun text style reading => ?_⟩
  · rw [ofDocument_document, validate_eq]
    split_ifs <;> rfl
  · have valid := valid_of_ofDocument reading
    exact ⟨(validate_eq_ok_iff style).2 valid, exists_ofStyle_eq_ok valid,
      ofDocument_document_of_valid valid⟩

/-- A style that stands in arrays is read like any other. -/
example : ofDocument "[[4,3], [3,2], [5,4]]".toList = .ok .conventional := by
  rfl

end Style

end NumeralStyle
