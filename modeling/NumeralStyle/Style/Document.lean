import NumeralStyle.Style.Basic
import NumeralStyle.Json.Layout
import NumeralStyle.Json.Reading
import NumeralStyle.Json.Record

/-!
# Style documents

A style is stored as a JSON document: a record with one rule for each base, and
each rule a record of its two numbers.  A document is written with one member on a
line.  Reading a document also validates the style.  Where a text is no such document is
left out of the error.
-/

namespace NumeralStyle

def Rule.fieldNames : List Text :=
  ["minimum_size".toList, "group_size".toList]

def Rule.toJson (rule : Rule) : Json :=
  Json.ofRecord
    [("minimum_size".toList, .natural rule.minimumSize.toNat),
      ("group_size".toList, .natural rule.groupSize.toNat)]

/-- The rule that a record holds, if its numbers are in range. -/
def Rule.ofJson? (json : Json) : Option Rule :=
  match json.fields? fieldNames with
  | some [minimumSize, groupSize] =>
    match minimumSize.naturalBelow? UInt64.size, groupSize.naturalBelow? UInt8.size with
    | some minimumSize, some groupSize =>
      some ⟨UInt64.ofNat minimumSize, UInt8.ofNat groupSize⟩
    | _, _ => none
  | _ => none

namespace Style

def fieldNames : List Text :=
  ["decimal".toList, "hexadecimal".toList, "binary".toList]

def toJson (style : Style) : Json :=
  Json.ofRecord
    [("decimal".toList, style.decimal.toJson),
      ("hexadecimal".toList, style.hexadecimal.toJson),
      ("binary".toList, style.binary.toJson)]

/-- The style that a record holds, valid or not. -/
def ofJson? (json : Json) : Option Style :=
  match json.fields? fieldNames with
  | some [decimal, hexadecimal, binary] =>
    match Rule.ofJson? decimal, Rule.ofJson? hexadecimal, Rule.ofJson? binary with
    | some decimal, some hexadecimal, some binary => some ⟨decimal, hexadecimal, binary⟩
    | _, _, _ => none
  | _ => none

def document (style : Style) : Text :=
  style.toJson.write .indented

/-- Read the valid style that a document holds. -/
def ofDocument (text : Text) : Except StyleError Style :=
  match (Json.read? text).bind ofJson? with
  | none => .error (.unreadable "the text is not a style document")
  | some style =>
    match style.validate with
    | .error error => .error error
    | .ok () => .ok style

end Style

end NumeralStyle
