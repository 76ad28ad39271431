import Mathlib.Algebra.Ring.Int.Defs
import Tabletop.Proofs.Grammar.Conforming
import Tabletop.Proofs.Text.Literals

/-!
# Which integers are read, and what is said of the others

An integer is read from the longest literal at the beginning of the text, of any length
and with any number of leading zeros. The literal is judged by the integer that it
stands for: first whether a signed word holds it, then whether it is within the bounds.
Whatever fails, fails at the beginning and describes the bounds. In particular every
integer within the bounds is read from its own text, in front of anything that does not
go on with a digit.
-/

namespace Tabletop

universe u

open Text.Decimal

variable {C : Type u} {bounds : Bounds Int} {text literal rest : List Char} {n : Int}

/-- The integers that a signed word holds. -/
def SignedRange (n : Int) : Prop :=
  -2 ^ 63 ≤ n ∧ n ≤ 2 ^ 63 - 1

instance (n : Int) : Decidable (SignedRange n) :=
  inferInstanceAs (Decidable (_ ∧ _))

theorem fitsSigned_iff_signedRange : Word.fitsSigned n = true ↔ SignedRange n := by
  rw [Word.fitsSigned_iff, SignedRange]
  omega

/-- What an integer within bounds is read as from a text. -/
structure ReadsInteger (bounds : Bounds Int) (text : List Char) (outcome : Outcome C) : Prop where
  absent : (∀ literal n, Literal literal n → ¬literal <+: text) →
    outcome = .error ⟨none, [bounds.describeInt], 0⟩
  outOfRange : ∀ literal n, LongestLiteral text literal n → ¬SignedRange n →
    outcome = .error ⟨some (.ofList literal ++ " is out of range"), [bounds.describeInt], 0⟩
  tooLow : ∀ literal n, LongestLiteral text literal n → SignedRange n →
    (∃ least ∈ bounds.least, n < least) →
      outcome = .error ⟨some (intText n ++ " is too low"), [bounds.describeInt], 0⟩
  tooHigh : ∀ literal n, LongestLiteral text literal n → SignedRange n →
    (∀ least ∈ bounds.least, least ≤ n) → (∃ most ∈ bounds.most, most < n) →
      outcome = .error ⟨some (intText n ++ " is too high"), [bounds.describeInt], 0⟩
  accepted : ∀ literal n, LongestLiteral text literal n → SignedRange n → bounds.Admits n →
    ∃ rest, text = literal ++ rest ∧ outcome = .ok ⟨.int n, literal, rest⟩

namespace Leaf

theorem integer_of_literal? (bounds : Bounds Int) (h : literal? text = some (literal, rest)) :
    (integer bounds text : Outcome C) =
      if !Word.fitsSigned (toInt literal) then
        .error ⟨some (.ofList literal ++ " is out of range"), [bounds.describeInt], 0⟩
      else if bounds.least.any (toInt literal < ·) then
        .error ⟨some (intText (toInt literal) ++ " is too low"), [bounds.describeInt], 0⟩
      else if bounds.most.any (· < toInt literal) then
        .error ⟨some (intText (toInt literal) ++ " is too high"), [bounds.describeInt], 0⟩
      else .ok ⟨.int (toInt literal), literal, rest⟩ := by
  unfold integer
  rw [h]
  rfl

theorem any_below_iff : bounds.least.any (n < ·) = true ↔ ∃ least ∈ bounds.least, n < least := by
  cases bounds.least with
  | none => simp
  | some least => simp

theorem any_above_iff : bounds.most.any (· < n) = true ↔ ∃ most ∈ bounds.most, most < n := by
  cases bounds.most with
  | none => simp
  | some most => simp

theorem not_any_below (h : ∀ least ∈ bounds.least, least ≤ n) :
    ¬bounds.least.any (n < ·) = true := by
  rw [any_below_iff]
  rintro ⟨least, hleast, hlt⟩
  have hle := h least hleast
  omega

theorem not_any_above (h : ∀ most ∈ bounds.most, n ≤ most) :
    ¬bounds.most.any (· < n) = true := by
  rw [any_above_iff]
  rintro ⟨most, hmost, hlt⟩
  have hle := h most hmost
  omega

/-- A literal is named as it stands in the text, its integer as it is written by itself. -/
theorem integer_reads (bounds : Bounds Int) (text : List Char) :
    ReadsInteger bounds text (integer bounds text : Outcome C) := by
  refine ⟨?_, ?_, ?_, ?_, ?_⟩
  · intro hnone
    cases h : literal? text with
    | some found =>
      obtain ⟨literal, rest⟩ := found
      have hlongest := longest_of_literal? h
      exact absurd hlongest.isPrefix (hnone _ _ hlongest.isLiteral)
    | none =>
      unfold integer
      rw [h]
      rfl
  · intro literal n hlongest hrange
    obtain ⟨rest, hliteral, rfl⟩ := hlongest.literal?_eq
    have hword : Word.fitsSigned (toInt literal) = false := by
      rw [← Bool.not_eq_true, fitsSigned_iff_signedRange]
      exact hrange
    rw [integer_of_literal? bounds hliteral, hword]
    rfl
  · intro literal n hlongest hrange hlow
    obtain ⟨rest, hliteral, rfl⟩ := hlongest.literal?_eq
    rw [integer_of_literal? bounds hliteral, fitsSigned_iff_signedRange.mpr hrange,
      if_pos (any_below_iff.mpr hlow)]
    rfl
  · intro literal n hlongest hrange hleast hhigh
    obtain ⟨rest, hliteral, rfl⟩ := hlongest.literal?_eq
    rw [integer_of_literal? bounds hliteral, fitsSigned_iff_signedRange.mpr hrange,
      if_neg (not_any_below hleast), if_pos (any_above_iff.mpr hhigh)]
    rfl
  · intro literal n hlongest hrange hadmits
    obtain ⟨rest, hliteral, rfl⟩ := hlongest.literal?_eq
    refine ⟨rest, (append_of_literal? hliteral).symm, ?_⟩
    rw [integer_of_literal? bounds hliteral, fitsSigned_iff_signedRange.mpr hrange,
      if_neg (not_any_below hadmits.1), if_neg (not_any_above hadmits.2)]
    rfl

end Leaf

namespace Grammar

/-- There is a longest literal at the beginning of a text or none at all, and an integer within
bounds is read accordingly; every such integer is read from its own text. -/
theorem parse_int (bounds : Bounds Int) (input : String) (names : List String) :
    ((∃ literal n, LongestLiteral input.toList literal n) ∨
        ∀ literal n, Literal literal n → ¬literal <+: input.toList) ∧
      ReadsInteger bounds input.toList ((int bounds).parse input names : Outcome C) ∧
      ∀ (n : Int) (rest : String), SignedRange n → bounds.Admits n → EndsDigits rest.toList →
        ((int bounds).parse (intText n ++ rest) names : Outcome C) =
          .ok ⟨.int n, (intText n).toList, rest.toList⟩ := by
  refine ⟨?_, ?_, ?_⟩
  · cases h : literal? input.toList with
    | none => exact .inr fun literal n hliteral => not_isPrefix_of_literal? h hliteral
    | some found =>
      obtain ⟨literal, rest⟩ := found
      exact .inl ⟨literal, _, longest_of_literal? h⟩
  · rw [parse, run]
    exact Leaf.integer_reads bounds input.toList
  · intro n rest hrange hadmits hends
    have htext : (intText n ++ rest).toList = ofInt n ++ rest.toList := by
      rw [String.toList_append, intText, String.toList_ofList]
    have hlongest : LongestLiteral (intText n ++ rest).toList (ofInt n) n := by
      rw [htext]
      exact longestLiteral_ofInt n hends
    obtain ⟨after, hafter, hread⟩ :=
      (Leaf.integer_reads bounds _ : ReadsInteger bounds _ (_ : Outcome C)).accepted _ _ hlongest
        hrange hadmits
    obtain rfl : rest.toList = after := List.append_cancel_left (htext.symm.trans hafter)
    rw [parse, run, hread, intText, String.toList_ofList]

/-- A score that a signed word can hold and that is not above seven. -/
def score : Grammar Empty :=
  .int ⟨some (-2 ^ 63), some 7⟩

theorem parse_int_of_least :
    (SignedRange (-2 ^ 63) ∧ Bounds.Admits ⟨some (-2 ^ 63), some 7⟩ (-2 ^ 63) ∧
        EndsDigits " points".toList ∧
        score.parse (intText (-2 ^ 63) ++ " points") [] =
          .ok ⟨.int (-2 ^ 63), "-9223372036854775808".toList, " points".toList⟩) ∧
      LongestLiteral "-0009223372036854775809 points".toList "-0009223372036854775809".toList
        (-2 ^ 63 - 1) ∧
      ¬SignedRange (-2 ^ 63 - 1) ∧
      score.parse "-0009223372036854775809 points" [] =
        .error ⟨some "-0009223372036854775809 is out of range",
          ["number between -9223372036854775808 and 7"], 0⟩ := by
  obtain ⟨-, hreads, hround⟩ := parse_int (C := Empty) ⟨some (-2 ^ 63), some 7⟩
    "-0009223372036854775809 points" []
  have hrange : SignedRange (-2 ^ 63) := by decide
  have hadmits : Bounds.Admits ⟨some (-2 ^ 63), some 7⟩ (-2 ^ 63 : Int) := by
    constructor
    · rintro least ⟨⟩
      decide
    · rintro most ⟨⟩
      decide
  have hends : EndsDigits " points".toList := by
    rintro c ⟨⟩
    decide
  have hfound : literal? "-0009223372036854775809 points".toList =
      some ("-0009223372036854775809".toList, " points".toList) := rfl
  have hlongest : LongestLiteral "-0009223372036854775809 points".toList
      "-0009223372036854775809".toList (-2 ^ 63 - 1) := longest_of_literal? hfound
  have hbeyond : ¬SignedRange (-2 ^ 63 - 1) := by decide
  exact ⟨⟨hrange, hadmits, hends, hround _ _ hrange hadmits hends⟩, hlongest, hbeyond,
    hreads.outOfRange _ _ hlongest hbeyond⟩

end Grammar

end Tabletop
