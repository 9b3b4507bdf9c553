import NumeralStyle.Base.Tag
import NumeralStyle.Json.Layout
import NumeralStyle.Json.Reading
import NumeralStyle.Json.Record

/-!
# Suggestions

A suggestion says that a numeral be written another way.  It is stored as a JSON
record in compact form.
-/

namespace NumeralStyle

/-- A way to write a numeral, and the way in which it was written. -/
structure Suggestion where
  written : Text
  replacement : Text
  base : Base
  deriving DecidableEq, Repr

namespace Suggestion

def fieldNames : List Text :=
  ["original".toList, "replacement".toList, "base".toList]

def toJson (suggestion : Suggestion) : Json :=
  Json.ofRecord
    [("original".toList, Json.ofText suggestion.written),
      ("replacement".toList, Json.ofText suggestion.replacement),
      ("base".toList, suggestion.base.toJson)]

def ofJson? (json : Json) : Option Suggestion :=
  match json.fields? fieldNames with
  | some [written, replacement, base] =>
    match written.text?, replacement.text?, Base.ofJson? base with
    | some written, some replacement, some base => some ⟨written, replacement, base⟩
    | _, _, _ => none
  | _ => none

def document (suggestion : Suggestion) : Text :=
  suggestion.toJson.write .compact

def ofDocument? (text : Text) : Option Suggestion :=
  (Json.read? text).bind ofJson?

end Suggestion

end NumeralStyle
