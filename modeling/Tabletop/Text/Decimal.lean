/-!
# Decimal integers in text

Integers are written without leading zeros or a plus sign. A literal is an
optional minus sign and one or more ASCII digits, leading zeros allowed, and
`literal?` cuts the longest one from the front of a text.
-/

namespace Tabletop.Text.Decimal

def ofNat (n : Nat) : List Char :=
  Nat.toDigits 10 n

def ofInt : Int → List Char
  | .ofNat n => ofNat n
  | .negSucc n => '-' :: ofNat (n + 1)

/-- The value of a run of digits. -/
def toNat (digits : List Char) : Nat :=
  Nat.ofDigitChars 10 digits 0

/-- The value of a literal. -/
def toInt : List Char → Int
  | '-' :: digits => -(toNat digits : Int)
  | digits => toNat digits

theorem isDigit_of_mem_ofNat {n : Nat} {c : Char} (h : c ∈ ofNat n) : c.isDigit = true :=
  Nat.isDigit_of_mem_toDigits (by decide) (by decide) h

theorem ofNat_ne_nil (n : Nat) : ofNat n ≠ [] :=
  Nat.toDigits_ne_nil

@[simp]
theorem toNat_ofNat (n : Nat) : toNat (ofNat n) = n :=
  Nat.ofDigitChars_ten_toDigits

/-- Writing an integer and reading its literal are inverse. -/
@[simp]
theorem toInt_ofInt (n : Int) : toInt (ofInt n) = n := by
  cases n with
  | negSucc n => simp only [ofInt, toInt, toNat_ofNat]; rfl
  | ofNat n =>
    cases h : ofNat n with
    | nil => exact absurd h (ofNat_ne_nil n)
    | cons c rest =>
      have digit : c.isDigit = true := isDigit_of_mem_ofNat (by rw [h]; simp)
      have notMinus : c ≠ '-' := by rintro rfl; exact absurd digit (by decide)
      simp only [ofInt, h]
      rw [toInt]
      · rw [← h, toNat_ofNat]; rfl
      · rintro rest ⟨rfl, -⟩; exact notMinus rfl

/-- The digits at the front of a text, if there are any, and what follows them. -/
def digits? (text : List Char) : Option (List Char × List Char) :=
  match text.takeWhile Char.isDigit with
  | [] => none
  | digits => some (digits, text.dropWhile Char.isDigit)

/-- The longest literal at the front of a text, if there is one, and what follows it. -/
def literal? : List Char → Option (List Char × List Char)
  | '-' :: rest => (digits? rest).map fun (digits, after) => ('-' :: digits, after)
  | text => digits? text

/-- The text of a natural number. -/
def natText (n : Nat) : String :=
  .ofList (ofNat n)

/-- The text of an integer. -/
def intText (n : Int) : String :=
  .ofList (ofInt n)

/-- The text, filled on the left with zeros up to a least length. -/
def padded (least : Nat) (n : Nat) : String :=
  .ofList (List.replicate (least - (ofNat n).length) '0' ++ ofNat n)

end Tabletop.Text.Decimal
