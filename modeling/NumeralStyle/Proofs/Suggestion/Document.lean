import NumeralStyle.Suggestion
import NumeralStyle.Proofs.Json.RoundTrip

/-!
# Suggestions survive their documents

A suggestion is read from a record of its three fields.  The names of the fields differ,
so each is found wherever it stands, and an array has the fields in their order.  Both
texts are arbitrary: what is written of them holds every character, by an escape where the
grammar asks for one.  The main statement says what is read from the document of any
suggestion, and from any text of its fields with blanks between the parts.
-/

namespace NumeralStyle

open Json

theorem Json.text?_ofText (text : Text) : (ofText text).text? = some text := by
  rw [ofText, text?, textOf?_symbolsOf]

theorem Base.ofJson?_toJson (base : Base) : ofJson? base.toJson = some base := by
  rw [toJson, ofText, ofJson?, textOf?_symbolsOf, Option.bind_some, ofTag?_tag]

namespace Suggestion

variable {suggestion : Suggestion} {layout : Layout} {members : List (Text × Json)}
variable {field : Text × Json} {json : Json}

/-! ## The fields of a suggestion -/

/-- The fields of a suggestion, in the order in which they are written. -/
def fields (suggestion : Suggestion) : List (Text × Json) :=
  [("original".toList, ofText suggestion.written),
    ("replacement".toList, ofText suggestion.replacement),
    ("base".toList, suggestion.base.toJson)]

theorem toJson_eq_ofRecord (suggestion : Suggestion) :
    suggestion.toJson = ofRecord suggestion.fields :=
  rfl

theorem nodup_fieldNames : fieldNames.Nodup := by
  decide

theorem isPlain_of_mem_fields (listed : field ∈ suggestion.fields) : IsPlain field.2 := by
  simp only [fields, List.mem_cons, List.not_mem_nil, or_false] at listed
  rcases listed with rfl | rfl | rfl
  · exact IsPlain.text suggestion.written
  · exact IsPlain.text suggestion.replacement
  · exact IsPlain.text suggestion.base.tag

/-- A suggestion is read where the values of its fields are found. -/
theorem ofJson?_of_fields?
    (values : json.fields? fieldNames = some (suggestion.fields.map Prod.snd)) :
    ofJson? json = some suggestion := by
  have found : json.fields? fieldNames =
      some [ofText suggestion.written, ofText suggestion.replacement, suggestion.base.toJson] :=
    values
  rw [ofJson?, found]
  dsimp only
  rw [text?_ofText, text?_ofText, Base.ofJson?_toJson]

/-! ## Records in any order, and arrays -/

theorem ofJson?_ofRecord (order : members.Perm suggestion.fields) :
    ofJson? (ofRecord members) = some suggestion :=
  ofJson?_of_fields? (fields?_ofRecord_of_perm order nodup_fieldNames)

theorem ofJson?_array (suggestion : Suggestion) :
    ofJson? (.array (suggestion.fields.map Prod.snd)) = some suggestion :=
  ofJson?_of_fields? rfl

theorem ofDocument?_ofRecord (blank : layout.IsBlank) (order : members.Perm suggestion.fields) :
    ofDocument? ((ofRecord members).write layout) = some suggestion := by
  have plain : IsPlain (ofRecord members) :=
    IsPlain.record members fun _ listed => isPlain_of_mem_fields (order.mem_iff.1 listed)
  rw [ofDocument?, read?_write blank plain, Option.bind_some, ofJson?_ofRecord order]

theorem ofDocument?_array (blank : layout.IsBlank) (suggestion : Suggestion) :
    ofDocument? ((Json.array (suggestion.fields.map Prod.snd)).write layout) =
      some suggestion := by
  have plain : IsPlain (.array (suggestion.fields.map Prod.snd)) := by
    refine IsPlain.array _ fun value listed => ?_
    obtain ⟨field, listedField, rfl⟩ := List.mem_map.1 listed
    exact isPlain_of_mem_fields listedField
  rw [ofDocument?, read?_write blank plain, Option.bind_some, ofJson?_array]

/-- A suggestion with any texts is read from its own document, from an object with its fields
in any order and from an array of their values, in every layout that puts only blanks between
the parts. -/
theorem ofDocument?_round_trip (suggestion : Suggestion) :
    ofDocument? suggestion.document = some suggestion ∧
      ∀ layout : Layout, layout.IsBlank →
        (∀ members : List (Text × Json), members.Perm suggestion.fields →
          ofDocument? ((ofRecord members).write layout) = some suggestion) ∧
        ofDocument? ((Json.array (suggestion.fields.map Prod.snd)).write layout) =
          some suggestion := by
  refine ⟨?_, fun layout blank => ⟨fun members order => ?_, ?_⟩⟩
  · rw [document, toJson_eq_ofRecord]
    exact ofDocument?_ofRecord Layout.isBlank_compact (List.Perm.refl _)
  · exact ofDocument?_ofRecord blank order
  · exact ofDocument?_array blank suggestion

/-- The base may stand first, and a quote, a line break and a backslash are escaped. -/
theorem ofDocument?_round_trip_base_first :
    ofDocument? ((ofRecord [("base".toList, Base.binary.toJson),
      ("original".toList, ofText "\"\n\\é".toList),
      ("replacement".toList, ofText "😀\x00".toList)]).write .indented) =
        some ⟨"\"\n\\é".toList, "😀\x00".toList, .binary⟩ := by
  refine ((ofDocument?_round_trip _).2 .indented Layout.isBlank_indented).1 _ ?_
  exact (List.perm_append_singleton _ [_, _]).symm

end Suggestion

end NumeralStyle
