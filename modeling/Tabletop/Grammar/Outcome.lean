import Tabletop.Rejection
import Tabletop.Text.Measure
import Tabletop.Value

/-!
# Outcomes of reading

A grammar reads the beginning of a text. On success it says which part it consumed
and which part remains.
-/

namespace Tabletop

universe u

/-- A value, and how the text it was read from is split. -/
structure Parsed (C : Type u) where
  value : Value C
  consumed : List Char
  remaining : List Char

abbrev Outcome (C : Type u) := Except Rejection (Parsed C)

/-- Anything that reads the beginning of a text. -/
abbrev Matcher (C : Type u) := List Char → Outcome C

end Tabletop
