import Mathlib.Algebra.Ring.Nat
import Tabletop.Text.Decimal

/-!
# Which literal stands at the beginning of a text

`Literal` says which texts are integer literals and of which integers, by the places of
their digits, so that leading zeros are worth nothing. The scanner finds the longest
one at the beginning of a text whenever there is one at all, since every literal at the
beginning of a text is a beginning of what the scanner cuts off. What an integer is
written as is found again in front of anything that does not go on with a digit.
-/

namespace Tabletop.Text.Decimal

/-- One or more ASCII digits. -/
structure IsDigits (digits : List Char) : Prop where
  nonempty : digits ≠ []
  isDigit : ∀ c ∈ digits, c.isDigit = true

/-- What digits are worth by their places. -/
def placeValue : List Char → Nat
  | [] => 0
  | c :: rest => (c.toNat - '0'.toNat) * 10 ^ rest.length + placeValue rest

/-- A literal of an integer: digits, with or without a minus sign in front. -/
inductive Literal : List Char → Int → Prop where
  | unsigned {digits : List Char} (h : IsDigits digits) : Literal digits (placeValue digits)
  | negative {digits : List Char} (h : IsDigits digits) :
      Literal ('-' :: digits) (-placeValue digits)

/-- The longest literal at the beginning of a text, and its integer. -/
structure LongestLiteral (text literal : List Char) (n : Int) : Prop where
  isLiteral : Literal literal n
  isPrefix : literal <+: text
  longest : ∀ other m, Literal other m → other <+: text → other.length ≤ literal.length

/-- A text that does not begin with a digit. -/
def EndsDigits (text : List Char) : Prop :=
  ∀ c ∈ text.head?, c.isDigit = false

variable {text digits literal rest : List Char} {n : Int}

/-! ## Runs of digits -/

theorem append_of_digits? (h : digits? text = some (digits, rest)) : digits ++ rest = text := by
  unfold digits? at h
  split at h
  · cases h
  · obtain ⟨rfl, rfl⟩ := Prod.mk.inj (Option.some.inj h)
    exact List.takeWhile_append_dropWhile

theorem isDigits_of_digits? (h : digits? text = some (digits, rest)) : IsDigits digits := by
  unfold digits? at h
  split at h
  · cases h
  · rename_i hsome
    obtain ⟨rfl, rfl⟩ := Prod.mk.inj (Option.some.inj h)
    exact ⟨hsome, List.all_eq_true.mp List.all_takeWhile⟩

theorem digits?_of_ne_nil (h : text.takeWhile Char.isDigit ≠ []) :
    digits? text = some (text.takeWhile Char.isDigit, text.dropWhile Char.isDigit) := by
  unfold digits?
  split
  · rename_i hnil
    exact absurd hnil h
  · rfl

/-- Digits at the beginning of a text are a beginning of all the digits there. -/
theorem isPrefix_digits? (h : IsDigits digits) (rest : List Char) :
    ∃ found after, digits? (digits ++ rest) = some (found, after) ∧ digits <+: found := by
  have htake : (digits ++ rest).takeWhile Char.isDigit =
      digits ++ rest.takeWhile Char.isDigit := List.takeWhile_append_of_pos h.isDigit
  refine ⟨_, _, digits?_of_ne_nil ?_, ?_⟩
  · rw [htake]
    exact List.append_ne_nil_of_left_ne_nil h.nonempty _
  · rw [htake]
    exact List.prefix_append _ _

/-- Digits are all that is read as digits, unless more of them follow. -/
theorem digits?_append (h : IsDigits digits) (hends : EndsDigits rest) :
    digits? (digits ++ rest) = some (digits, rest) := by
  have hrest : rest.takeWhile Char.isDigit = [] ∧ rest.dropWhile Char.isDigit = rest := by
    cases rest with
    | nil => exact ⟨rfl, rfl⟩
    | cons c rest =>
      have hc := hends c rfl
      simp [hc]
  have htake : (digits ++ rest).takeWhile Char.isDigit = digits := by
    rw [List.takeWhile_append_of_pos h.isDigit, hrest.1, List.append_nil]
  have hdrop : (digits ++ rest).dropWhile Char.isDigit = rest := by
    rw [List.dropWhile_append_of_pos h.isDigit, hrest.2]
  rw [digits?_of_ne_nil (by rw [htake]; exact h.nonempty), htake, hdrop]

/-- Reading digit by digit comes to the same as adding up the places. -/
theorem toNat_eq_placeValue (digits : List Char) : toNat digits = placeValue digits := by
  induction digits with
  | nil => rfl
  | cons c rest ih =>
    rw [toNat, Nat.ofDigitChars_cons, Nat.ofDigitChars_eq_ofDigitChars_zero, ← toNat, ih,
      placeValue, Nat.mul_zero, Nat.zero_add, Nat.mul_comm]

theorem isDigits_ofNat (n : Nat) : IsDigits (ofNat n) :=
  ⟨ofNat_ne_nil n, fun _ => isDigit_of_mem_ofNat⟩

/-! ## Literals -/

/-- Digits do not begin with a minus sign. -/
theorem IsDigits.cons_ne_minus {c : Char} (h : IsDigits (c :: digits)) : c ≠ '-' := by
  rintro rfl
  exact absurd (h.isDigit _ List.mem_cons_self) (by decide)

theorem literal?_of_ne {c : Char} (h : c ≠ '-') (rest : List Char) :
    literal? (c :: rest) = digits? (c :: rest) := by
  unfold literal?
  split
  · rename_i heq
    exact absurd (List.cons.inj heq).1 h
  · rfl

theorem toInt_of_ne {c : Char} (h : c ≠ '-') (rest : List Char) :
    toInt (c :: rest) = toNat (c :: rest) := by
  unfold toInt
  split
  · rename_i heq
    exact absurd (List.cons.inj heq).1 h
  · rfl

theorem literal?_of_isDigits (h : IsDigits digits) (rest : List Char) :
    literal? (digits ++ rest) = digits? (digits ++ rest) := by
  cases digits with
  | nil => exact absurd rfl h.nonempty
  | cons c digits => exact literal?_of_ne h.cons_ne_minus (digits ++ rest)

/-- A literal and what follows it make up the text. -/
theorem append_of_literal? (h : literal? text = some (literal, rest)) : literal ++ rest = text := by
  unfold literal? at h
  split at h
  · obtain ⟨⟨digits, after⟩, hdigits, heq⟩ := Option.map_eq_some_iff.mp h
    obtain ⟨rfl, rfl⟩ := Prod.mk.inj heq
    rw [List.cons_append, append_of_digits? hdigits]
  · exact append_of_digits? h

theorem Literal.ne_nil (h : Literal literal n) : literal ≠ [] := by
  cases h with
  | unsigned h => exact h.nonempty
  | negative h => exact List.cons_ne_nil _ _

/-- A literal is read as the integer of which it is one. -/
theorem Literal.toInt_eq (h : Literal literal n) : toInt literal = n := by
  cases h with
  | negative h => rw [toInt, toNat_eq_placeValue]
  | unsigned h =>
    cases literal with
    | nil => exact absurd rfl h.nonempty
    | cons c digits => rw [toInt_of_ne h.cons_ne_minus, toNat_eq_placeValue]

/-- What the scanner cuts off is a literal. -/
theorem isLiteral_of_literal? (h : literal? text = some (literal, rest)) :
    Literal literal (toInt literal) := by
  have hliteral : ∃ n, Literal literal n := by
    unfold literal? at h
    split at h
    · obtain ⟨⟨digits, after⟩, hdigits, heq⟩ := Option.map_eq_some_iff.mp h
      obtain ⟨rfl, rfl⟩ := Prod.mk.inj heq
      exact ⟨_, .negative (isDigits_of_digits? hdigits)⟩
    · exact ⟨_, .unsigned (isDigits_of_digits? h)⟩
  obtain ⟨n, hn⟩ := hliteral
  rw [hn.toInt_eq]
  exact hn

/-- A literal at the beginning of a text is a beginning of what the scanner cuts off. -/
theorem Literal.isPrefix_literal? (h : Literal literal n) (rest : List Char) :
    ∃ found after, literal? (literal ++ rest) = some (found, after) ∧ literal <+: found := by
  cases h with
  | unsigned h =>
    rw [literal?_of_isDigits h]
    exact isPrefix_digits? h rest
  | @negative digits h =>
    obtain ⟨found, after, hfound, hprefix⟩ := isPrefix_digits? h rest
    refine ⟨'-' :: found, after, ?_, List.cons_prefix_cons.mpr ⟨rfl, hprefix⟩⟩
    rw [List.cons_append, literal?, hfound, Option.map_some]

/-- The scanner finds the longest literal. -/
theorem longest_of_literal? (h : literal? text = some (literal, rest)) :
    LongestLiteral text literal (toInt literal) := by
  refine ⟨isLiteral_of_literal? h, ⟨rest, append_of_literal? h⟩, ?_⟩
  rintro other m hother ⟨after, rfl⟩
  obtain ⟨found, beyond, hfound, hprefix⟩ := hother.isPrefix_literal? after
  obtain ⟨rfl, -⟩ := Prod.mk.inj (Option.some.inj (h.symm.trans hfound))
  exact hprefix.length_le

/-- The scanner finds nothing only if there is no literal. -/
theorem not_isPrefix_of_literal? (h : literal? text = none) (hliteral : Literal literal n) :
    ¬literal <+: text := by
  rintro ⟨rest, rfl⟩
  obtain ⟨found, after, hfound, -⟩ := hliteral.isPrefix_literal? rest
  rw [h] at hfound
  cases hfound

/-- There is one longest literal, which is the one that the scanner finds. -/
theorem LongestLiteral.literal?_eq (h : LongestLiteral text literal n) :
    ∃ rest, literal? text = some (literal, rest) ∧ toInt literal = n := by
  obtain ⟨rest, rfl⟩ := h.isPrefix
  obtain ⟨found, after, hfound, hprefix⟩ := h.isLiteral.isPrefix_literal? rest
  have hlongest := longest_of_literal? hfound
  have hlength := h.longest found _ hlongest.isLiteral hlongest.isPrefix
  obtain rfl : literal = found := hprefix.eq_of_length_le hlength
  exact ⟨after, hfound, h.isLiteral.toInt_eq⟩

/-! ## The text of an integer -/

/-- The text of an integer is read whole, unless a digit follows. -/
theorem literal?_ofInt (n : Int) (hends : EndsDigits rest) :
    literal? (ofInt n ++ rest) = some (ofInt n, rest) := by
  cases n with
  | ofNat n =>
    rw [ofInt, literal?_of_isDigits (isDigits_ofNat n)]
    exact digits?_append (isDigits_ofNat n) hends
  | negSucc n =>
    rw [ofInt, List.cons_append, literal?, digits?_append (isDigits_ofNat (n + 1)) hends,
      Option.map_some]

/-- The text of an integer is the longest literal in front of anything but a digit. -/
theorem longestLiteral_ofInt (n : Int) (hends : EndsDigits rest) :
    LongestLiteral (ofInt n ++ rest) (ofInt n) n := by
  have hlongest := longest_of_literal? (literal?_ofInt n hends)
  rwa [toInt_ofInt] at hlongest

/-! ## Numbers in front of other text -/

theorem EndsDigits.nil : EndsDigits [] := by
  intro c hc
  cases hc

theorem EndsDigits.cons {c : Char} (h : c.isDigit = false) (rest : List Char) :
    EndsDigits (c :: rest) := by
  rintro _ ⟨rfl⟩
  exact h

/-- Where no digit follows, the text of a natural number ends for everybody at the same place. -/
theorem ofNat_append_inj {m n : Nat} {rest rest' : List Char} (hends : EndsDigits rest)
    (hends' : EndsDigits rest') (h : ofNat m ++ rest = ofNat n ++ rest') :
    m = n ∧ rest = rest' := by
  have hread := digits?_append (isDigits_ofNat m) hends
  rw [h, digits?_append (isDigits_ofNat n) hends'] at hread
  obtain ⟨hdigits, hrest⟩ := Prod.mk.inj (Option.some.inj hread)
  have hvalue := congrArg toNat hdigits
  rw [toNat_ofNat, toNat_ofNat] at hvalue
  exact ⟨hvalue.symm, hrest.symm⟩

/-- The same for integers. -/
theorem ofInt_append_inj {m n : Int} {rest rest' : List Char} (hends : EndsDigits rest)
    (hends' : EndsDigits rest') (h : ofInt m ++ rest = ofInt n ++ rest') :
    m = n ∧ rest = rest' := by
  have hread := literal?_ofInt m hends
  rw [h, literal?_ofInt n hends'] at hread
  obtain ⟨hliteral, hrest⟩ := Prod.mk.inj (Option.some.inj hread)
  have hvalue := congrArg toInt hliteral
  rw [toInt_ofInt, toInt_ofInt] at hvalue
  exact ⟨hvalue.symm, hrest.symm⟩

end Tabletop.Text.Decimal
