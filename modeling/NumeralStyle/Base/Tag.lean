import NumeralStyle.Base
import NumeralStyle.Json.Basic

/-!
# Tags of bases

In stored values a base is named by a tag, as a string or as the only member of an
object.  The main statement says that each base is found by its tag.
-/

namespace NumeralStyle.Base

/-- The name of a base in stored suggestions. -/
def tag : Base → Text
  | .decimal => "Decimal".toList
  | .hexadecimal => "Hexadecimal".toList
  | .binary => "Binary".toList

def ofTag? (name : Text) : Option Base :=
  all.find? fun base => base.tag = name

@[simp]
theorem ofTag?_tag (base : Base) : ofTag? base.tag = some base := by
  cases base <;> decide

def toJson (base : Base) : Json :=
  Json.ofText base.tag

/-- The base that a value names, as a string or as the only member of an object,
whose value is then null. -/
def ofJson? : Json → Option Base
  | .string symbols => (Json.textOf? symbols).bind ofTag?
  | .object [(symbols, .null)] => (Json.textOf? symbols).bind ofTag?
  | _ => none

end NumeralStyle.Base
