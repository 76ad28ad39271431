import Tabletop.Text.Decimal
import Tabletop.Word

/-!
# Magnitudes of numbers

JSON sets no limit to its numbers, but a number that is held as data has to be a
finite double. That is judged by its magnitude, in which only the digits that fit an
unsigned word are kept: digits dropped before the point still count as powers of ten,
those dropped after it do not count at all.

The double that a magnitude stands for is the product of two doubles, the one nearest
to its digits and the one nearest to its power of ten. It is infinite if the product
is not below `limit`, or if the power of ten is infinite by itself. A negative
exponent divides and cannot overflow, and zero is finite with any exponent.
-/

namespace Tabletop.Json

open Text

/-- The magnitude `digits * 10 ^ exponent`. -/
structure Magnitude where
  digits : Nat
  exponent : Int
deriving DecidableEq, Inhabited

namespace Magnitude

/-- Appends decimal digits to a number for as long as it fits a word. Gives the number and how many
digits were dropped. -/
def append (n : Nat) : List Char → Nat × Nat
  | [] => (n, 0)
  | digit :: rest =>
    let longer := 10 * n + (digit.toNat - '0'.toNat)
    if longer < Word.count then append longer rest else (n, rest.length + 1)

/-- The magnitude of a number with digits before and after the point and an exponent. -/
def ofParts (whole fraction : List Char) (exponent : Int) : Magnitude :=
  let (kept, dropped) := append 0 whole
  let (digits, unused) := append kept fraction
  ⟨digits, exponent + dropped - (fraction.length - unused : Nat)⟩

def ofNat (n : Nat) : Magnitude :=
  ofParts (Decimal.ofNat n) [] 0

/-- The nearest number with no more than 53 significant bits, and the even one of two. -/
def nearest (n : Nat) : Nat :=
  let step := 1 <<< (n.log2 - 52)
  let lower := n / step
  let excess := 2 * (n % step)
  if step < excess || (excess == step && lower % 2 == 1) then (lower + 1) * step
  else lower * step

/-- Half a step above the greatest double, from where on numbers round to infinity. -/
def limit : Nat :=
  (1 <<< 1024) - (1 <<< 970)

/-- Whether the double that a magnitude stands for is finite. -/
def isFinite (m : Magnitude) : Bool :=
  m.digits == 0 || m.exponent < 0 ||
    (m.exponent ≤ 308 && nearest m.digits * nearest (Nat.pow 10 m.exponent.toNat) < limit)

theorem le_ofDigitChars (digits : List Char) (n : Nat) : n ≤ Nat.ofDigitChars 10 digits n := by
  induction digits generalizing n with
  | nil => simp
  | cons digit rest ih =>
    rw [Nat.ofDigitChars_cons]
    have := ih (10 * n + (digit.toNat - '0'.toNat))
    omega

/-- Digits are all kept if their number fits a word. -/
theorem append_of_lt {digits : List Char} {n : Nat}
    (h : Nat.ofDigitChars 10 digits n < Word.count) :
    append n digits = (Nat.ofDigitChars 10 digits n, 0) := by
  induction digits generalizing n with
  | nil => simp [append]
  | cons digit rest ih =>
    rw [Nat.ofDigitChars_cons] at h ⊢
    have fits := Nat.lt_of_le_of_lt (le_ofDigitChars rest _) h
    rw [append, if_pos fits, ih h]

/-- Words are their own magnitudes. -/
theorem ofNat_of_lt {n : Nat} (h : n < Word.count) : ofNat n = ⟨n, 0⟩ := by
  have value : Nat.ofDigitChars 10 (Decimal.ofNat n) 0 = n := Decimal.toNat_ofNat n
  have kept : append 0 (Decimal.ofNat n) = (n, 0) := by
    rw [append_of_lt (by rw [value]; exact h), value]
  simp [ofNat, ofParts, kept, append]

/-- Rounding at most doubles a number. -/
theorem nearest_le (n : Nat) : nearest n ≤ 2 * n := by
  unfold nearest
  generalize 1 <<< (n.log2 - 52) = step
  have split : n / step * step + n % step = n := Nat.div_add_mod' n step
  have next : (n / step + 1) * step = n / step * step + step := Nat.succ_mul ..
  simp only [Bool.or_eq_true, Bool.and_eq_true, decide_eq_true_eq, beq_iff_eq]
  split <;> omega

/-- Every word is finite. -/
theorem isFinite_ofNat {n : Nat} (h : n < Word.count) : (ofNat n).isFinite = true := by
  have one : nearest 1 = 1 := by decide
  have large : 2 * Word.count < limit := by decide
  have small : nearest n < limit := by
    have := nearest_le n
    omega
  simp [ofNat_of_lt h, isFinite, one, small]

end Magnitude

end Tabletop.Json
