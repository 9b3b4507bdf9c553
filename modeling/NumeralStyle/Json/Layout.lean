import NumeralStyle.Json.Basic

/-!
# Writing JSON

A layout says what stands behind the colon of a member and in front of each item of
a container.  The compact layout puts nothing there; the indented layout puts each
item on a line of its own.  Strings escape what the grammar does not let stand, and
nothing else.
-/

namespace NumeralStyle.Json

structure Layout where
  /-- The text behind the name of a member. -/
  colon : Text
  /-- The text in front of an item at the given depth. -/
  lineBreak : Nat → Text

def Layout.compact : Layout :=
  ⟨[':'], fun _ => []⟩

/-- Each item on a line of its own, two blanks further in than its container. -/
def Layout.indented : Layout :=
  ⟨[':', ' '], fun depth => '\n' :: List.replicate (2 * depth) ' '⟩

def hexDigit (value : Nat) : Char :=
  Nat.digitChar value

/-- A unit of sixteen bits as an escape with four digits. -/
def unitEscape (unit : Nat) : Text :=
  ['\\', 'u', hexDigit (unit / 4096 % 16), hexDigit (unit / 256 % 16),
    hexDigit (unit / 16 % 16), hexDigit (unit % 16)]

def escape (letter : Char) : Text :=
  if letter = '"' then ['\\', '"']
  else if letter = '\\' then ['\\', '\\']
  else if letter = '\x08' then ['\\', 'b']
  else if letter = '\t' then ['\\', 't']
  else if letter = '\n' then ['\\', 'n']
  else if letter = '\x0c' then ['\\', 'f']
  else if letter = '\r' then ['\\', 'r']
  else if letter.toNat < 0x20 then unitEscape letter.toNat
  else [letter]

def Symbol.render : Symbol → Text
  | .letter value => escape value
  | .half unit => unitEscape unit

def renderString (symbols : List Symbol) : Text :=
  '"' :: symbols.flatMap Symbol.render ++ ['"']

mutual

/-- The text of a value that stands at the given depth. -/
def render (layout : Layout) (depth : Nat) : Json → Text
  | .null => "null".toList
  | .bool true => "true".toList
  | .bool false => "false".toList
  | .natural value => Nat.toDigits 10 value
  | .number written => written
  | .string symbols => renderString symbols
  | .array [] => ['[', ']']
  | .array (item :: items) =>
    '[' :: layout.lineBreak (depth + 1) ++ render layout (depth + 1) item ++
      renderItems layout depth items ++ layout.lineBreak depth ++ [']']
  | .object [] => ['\x7b', '\x7d']
  | .object ((name, value) :: members) =>
    '\x7b' :: layout.lineBreak (depth + 1) ++ renderString name ++ layout.colon ++
      render layout (depth + 1) value ++
      renderMembers layout depth members ++ layout.lineBreak depth ++ ['\x7d']

def renderItems (layout : Layout) (depth : Nat) : List Json → Text
  | [] => []
  | item :: items =>
    ',' :: layout.lineBreak (depth + 1) ++ render layout (depth + 1) item ++
      renderItems layout depth items

def renderMembers (layout : Layout) (depth : Nat) : List (List Symbol × Json) → Text
  | [] => []
  | (name, value) :: members =>
    ',' :: layout.lineBreak (depth + 1) ++ renderString name ++ layout.colon ++
      render layout (depth + 1) value ++ renderMembers layout depth members

end

def write (layout : Layout) (json : Json) : Text :=
  render layout 0 json

end NumeralStyle.Json
