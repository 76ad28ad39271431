/-!
# 64-bit words

Numbers of the game and of its messages have to fit 64-bit words: integers signed
ones, counts and positions unsigned ones. They are unbounded here, and these tests
say where the limits are.
-/

namespace Tabletop.Word

/-- The number of 64-bit words. -/
def count : Nat :=
  0x10000000000000000

/-- Integers that fit a signed word. -/
def fitsSigned (n : Int) : Bool :=
  -0x8000000000000000 ≤ n && n < 0x8000000000000000

/-- Integers that fit an unsigned word. -/
def fitsUnsigned (n : Int) : Bool :=
  0 ≤ n && n < count

/-- The signed word that an integer is congruent to. -/
def wrap (n : Int) : Int :=
  Int.bmod n count

/-- The limits of a signed word, as two comparisons. -/
theorem fitsSigned_iff {n : Int} :
    fitsSigned n = true ↔ -0x8000000000000000 ≤ n ∧ n < 0x8000000000000000 := by
  simp [fitsSigned]

end Tabletop.Word
