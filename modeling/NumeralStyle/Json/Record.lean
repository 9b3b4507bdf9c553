import NumeralStyle.Json.Basic

/-!
# Records in JSON

A record with fixed fields is an object that names each field once, in any order
and among other members, or an array of the fields in their order.
-/

namespace NumeralStyle.Json

def ofRecord (fields : List (Text × Json)) : Json :=
  .object (fields.map fun (name, value) => (symbolsOf name, value))

def namedMembers? : List (List Symbol × Json) → Option (List (Text × Json))
  | [] => some []
  | (symbols, value) :: rest =>
    match textOf? symbols, namedMembers? rest with
    | some name, some members => some ((name, value) :: members)
    | _, _ => none

/-- The value of the only member of the name. -/
def uniqueMember? (members : List (Text × Json)) (name : Text) : Option Json :=
  match members.filter fun member => member.1 = name with
  | [(_, value)] => some value
  | _ => none

/-- The values of the fields of a record, in the order of their names. -/
def fields? (names : List Text) : Json → Option (List Json)
  | .array items => if items.length = names.length then some items else none
  | .object members =>
    match namedMembers? members with
    | none => none
    | some named => names.mapM (uniqueMember? named)
  | _ => none

end NumeralStyle.Json
