import Mathlib.Data.List.Forall2
import Mathlib.Tactic.SplitIfs
import Tabletop.Text.Blank
import Tabletop.Text.Decimal
import Tabletop.Text.Lowercase
import Tabletop.Text.Measure

/-!
# Variants of a text in other cases

Two texts are variants of each other if they are equally long and their characters
agree up to case one by one. Variants need not be equally wide in bytes, so what one
text is measured by is carried to the other by counting characters.

Some characters have no variant but themselves. The table of lower-case mappings
neither starts from nor leads to any white space, digit or minus sign, which is
checked once on the runs of the table; whatever is read by such a class of
characters is read alike from all variants.
-/

namespace Tabletop.Text

/-- Texts that agree up to case, character by character. -/
abbrev CaseVariant : List Char → List Char → Prop :=
  List.Forall₂ fun c d => lowercase c = lowercase d

/-- A character with no variant but itself. -/
def Caseless (c : Char) : Prop :=
  ∀ d, lowercase d = lowercase c → d = c

/-- Code points of minus sign, digits and white space. -/
def caselessRanges : List (Nat × Nat) :=
  (0x2D, 0x2D) :: (0x30, 0x39) :: blankRanges

/-- No run of the table starts or ends inside one of those ranges. -/
theorem caseRuns_avoid : ∀ run ∈ caseRuns, ∀ range ∈ caselessRanges,
    (run.last < range.1 ∨ range.2 < run.first) ∧
      (run.last + run.distance < range.1 ∨ range.2 < run.first + run.distance) := by
  decide +kernel

theorem caselessRanges_bounds : ∀ range ∈ caselessRanges,
    0 < range.1 ∧ (range.2 < 0x0130 ∨ 0x0130 < range.1) := by
  decide

theorem mem_of_inRanges {ranges : List (Nat × Nat)} {c : Char} (h : inRanges ranges c = true) :
    ∃ range ∈ ranges, range.1 ≤ c.toNat ∧ c.toNat ≤ range.2 := by
  obtain ⟨range, hrange, hc⟩ := List.any_eq_true.mp h
  exact ⟨range, hrange, by simpa using hc⟩

theorem CaseRun.contains_iff {run : CaseRun} {code : Nat} :
    run.contains code = true ↔
      (run.first ≤ code ∧ code ≤ run.last) ∧ (code - run.first) % run.stride = 0 := by
  simp [contains]

theorem lowercase_of_inRanges {c : Char} (h : inRanges caselessRanges c = true) :
    lowercase c = [c] := by
  obtain ⟨range, hrange, hlow, hhigh⟩ := mem_of_inRanges h
  have hdotted : c.toNat ≠ 0x0130 := by
    have := (caselessRanges_bounds range hrange).2
    omega
  have hrun : caseRuns.find? (·.contains c.toNat) = none := by
    rw [List.find?_eq_none]
    intro run hmem hcontains
    have hinside := (CaseRun.contains_iff.mp hcontains).1
    have := (caseRuns_avoid run hmem range hrange).1
    omega
  rw [lowercase, if_neg hdotted, hrun]

/-- A code point that is no character gives the null character. -/
theorem toNat_ofNat (code : Nat) :
    (Char.ofNat code).toNat = code ∨ (Char.ofNat code).toNat = 0 := by
  by_cases hvalid : code.isValidChar
  · left
    rw [Char.ofNat, dif_pos hvalid]
    rfl
  · right
    rw [Char.ofNat, dif_neg hvalid]
    rfl

/-- A character of these ranges is the lower-case form of no other. -/
theorem caseless_of_inRanges {c : Char} (h : inRanges caselessRanges c = true) : Caseless c := by
  intro d hd
  rw [lowercase_of_inRanges h] at hd
  obtain ⟨range, hrange, hlow, hhigh⟩ := mem_of_inRanges h
  have hpositive := (caselessRanges_bounds range hrange).1
  unfold lowercase at hd
  split_ifs at hd
  · simp at hd
  · cases hfind : caseRuns.find? (·.contains d.toNat) with
    | none =>
      rw [hfind] at hd
      exact (List.cons.inj hd).1
    | some run =>
      rw [hfind] at hd
      have hcontains : run.contains d.toNat = true := by simpa using List.find?_some hfind
      have hinside := (CaseRun.contains_iff.mp hcontains).1
      have havoid := (caseRuns_avoid run (List.mem_of_find?_eq_some hfind) range hrange).2
      have hcode := congrArg Char.toNat (List.cons.inj hd).1
      rcases toNat_ofNat (d.toNat + run.distance).toNat with heq | heq <;> omega

theorem caseless_of_isBlank {c : Char} (h : isBlank c = true) : Caseless c := by
  apply caseless_of_inRanges
  unfold isBlank inRanges at h
  unfold inRanges caselessRanges
  rw [List.any_cons, List.any_cons, h, Bool.or_true, Bool.or_true]

theorem caseless_of_isDigit {c : Char} (h : c.isDigit = true) : Caseless c := by
  apply caseless_of_inRanges
  have hcode : 0x30 ≤ c.toNat ∧ c.toNat ≤ 0x39 := by
    rw [Char.isDigit, Bool.and_eq_true, decide_eq_true_eq, decide_eq_true_eq] at h
    exact ⟨UInt32.le_iff_toNat_le.mp h.1, UInt32.le_iff_toNat_le.mp h.2⟩
  unfold inRanges caselessRanges
  rw [List.any_cons, List.any_cons]
  simp [hcode]

theorem caseless_minus : Caseless '-' :=
  caseless_of_inRanges (by decide)

namespace CaseVariant

/-- Taking while a class of caseless characters lasts gives the same from both texts. -/
theorem takeWhile_eq {p : Char → Bool} (hp : ∀ c, p c = true → Caseless c)
    {text variant : List Char} (h : CaseVariant text variant) :
    text.takeWhile p = variant.takeWhile p := by
  induction h with
  | nil => rfl
  | @cons c d text variant hc _ ih =>
    by_cases hpc : p c = true
    · obtain rfl : d = c := hp c hpc d hc.symm
      rw [List.takeWhile_cons_of_pos hpc, List.takeWhile_cons_of_pos hpc, ih]
    · have hpd : ¬p d = true := by
        intro hpd
        obtain rfl : c = d := hp d hpd c hc
        exact hpc hpd
      rw [List.takeWhile_cons_of_neg hpc, List.takeWhile_cons_of_neg hpd]

/-- As many characters of both texts agree with a target. -/
theorem length_agreement {text variant : List Char} (h : CaseVariant text variant)
    (target : List Char) :
    (agreement text target).length = (agreement variant target).length := by
  induction h generalizing target with
  | nil => cases target <;> rfl
  | @cons c d text variant hc _ ih =>
    cases target with
    | nil => rfl
    | cons t target =>
      have hsame : sameLetter c t = sameLetter d t := by
        rw [Bool.eq_iff_iff, sameLetter_iff, sameLetter_iff, hc]
      simp only [agreement, hsame]
      split_ifs
      · rw [List.length_cons, List.length_cons, ih]
      · rfl

end CaseVariant

/-! ## Counting characters -/

theorem agreement_eq_take (input target : List Char) :
    agreement input target = input.take (agreement input target).length :=
  List.prefix_iff_eq_take.mp (agreement_isPrefix input target)

/-- More characters are more bytes. -/
theorem width_take_lt {text : List Char} {m n : Nat} (hmn : m < n) (hn : n ≤ text.length) :
    width (text.take m) < width (text.take n) := by
  obtain ⟨k, rfl⟩ := Nat.exists_eq_add_of_lt hmn
  have hlength : ((text.drop m).take (k + 1)).length = k + 1 := by
    rw [List.length_take, List.length_drop]
    omega
  have hnonempty : width ((text.drop m).take (k + 1)) ≠ 0 := by
    rw [ne_eq, width_eq_zero_iff, ← List.length_eq_zero_iff, hlength]
    omega
  rw [Nat.add_assoc, List.take_add, width_append]
  omega

/-- Byte positions are ordered like the numbers of characters in front of them. -/
theorem width_take_lt_iff {text : List Char} {m n : Nat} (hm : m ≤ text.length)
    (hn : n ≤ text.length) : width (text.take m) < width (text.take n) ↔ m < n := by
  constructor
  · intro hlt
    rcases Nat.lt_trichotomy m n with h | rfl | h
    · exact h
    · omega
    · have := width_take_lt h hm
      omega
  · intro h
    exact width_take_lt h hn

end Tabletop.Text
