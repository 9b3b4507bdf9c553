import NumeralStyle.Numeral.Reading

/-!
# Caches of numerals

A cache keeps the result of reading each trimmed text, rejections included, and
answers a text that it has seen with the same shared value.  Shared values are told
apart by stamps, which a cache never gives out twice, even after it is cleared.  One
reading ends before the next begins; several readings at a time are left out.
-/

namespace NumeralStyle

/-- A numeral that a cache shares, with the stamp of its entry. -/
structure Shared where
  numeral : Numeral
  stamp : Nat
  deriving DecidableEq, Repr

/-- The results by trimmed text, and the next unused stamp. -/
structure Cache where
  entries : List (Text × Option Shared) := []
  nextStamp : Nat := 0
  deriving DecidableEq, Repr

namespace Cache

def empty : Cache :=
  ⟨[], 0⟩

def get? (cache : Cache) (trimmed : Text) : Option (Option Shared) :=
  (cache.entries.find? fun entry => entry.1 = trimmed).map Prod.snd

/-- Keep the result for a trimmed text under the next stamp. -/
def insert (cache : Cache) (trimmed : Text) (parsed : Option Numeral) : Option Shared × Cache :=
  let shared := parsed.map fun numeral => ⟨numeral, cache.nextStamp⟩
  (shared, ⟨(trimmed, shared) :: cache.entries, cache.nextStamp + 1⟩)

/-- Read a numeral from a text, or take the result from an earlier reading. -/
def parse (cache : Cache) (text : Text) : Option Shared × Cache :=
  let trimmed := Text.trim text
  match cache.get? trimmed with
  | some shared => (shared, cache)
  | none => cache.insert trimmed (Numeral.parse? trimmed)

/-- The number of distinct trimmed texts that were read. -/
def size (cache : Cache) : Nat :=
  cache.entries.length

def isEmpty (cache : Cache) : Bool :=
  cache.entries.isEmpty

def clear (cache : Cache) : Cache :=
  ⟨[], cache.nextStamp⟩

end Cache

end NumeralStyle
