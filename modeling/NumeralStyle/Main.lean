import NumeralStyle.Demo

/-!
# The demonstration as a program
-/

def main : IO Unit := do
  for line in NumeralStyle.Demo.transcript do
    IO.println (String.ofList line)
