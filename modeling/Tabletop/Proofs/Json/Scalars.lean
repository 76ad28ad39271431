import Tabletop.Json.Reader
import Tabletop.Json.Writer
import Tabletop.Proofs.Text.Literals

/-!
# Numbers and texts can be read

Integers and strings are read back from the forms in which they are written. The form
of a string is complete as soon as it ends; that of an integer is not, since a digit, a
point or an exponent would continue it. So the lemmas about integers speak of a form in
front of any text that does not go on in this way.
-/

namespace Tabletop.Json

open Text

/-! ## Integers -/

/-- What follows does not continue a number. -/
def EndsNumber (rest : List Char) : Prop :=
  ∀ c ∈ rest.head?, c.isDigit = false ∧ c ≠ '.' ∧ c ≠ 'e' ∧ c ≠ 'E'

theorem endsNumber_nil : EndsNumber [] := by
  intro c hc
  cases hc

theorem endsNumber_comma (rest : List Char) : EndsNumber (',' :: rest) := by
  rintro c ⟨⟩
  decide

theorem endsNumber_bracket (rest : List Char) : EndsNumber (']' :: rest) := by
  rintro c ⟨⟩
  decide

theorem endsNumber_brace (rest : List Char) : EndsNumber ('\x7d' :: rest) := by
  rintro c ⟨⟩
  decide

/-- The digits of a number are all that is read as digits. -/
theorem digits?_ofNat (n : Nat) {rest : List Char} (h : EndsNumber rest) :
    Decimal.digits? (Decimal.ofNat n ++ rest) = some (Decimal.ofNat n, rest) :=
  Decimal.digits?_append (Decimal.isDigits_ofNat n) fun c hc => (h c hc).1

/-- Only zero is written with a leading zero. -/
theorem head?_ofNat {n : Nat} (h : n ≠ 0) : (Decimal.ofNat n).head? ≠ some '0' := by
  unfold Decimal.ofNat
  induction n using Nat.strongRecOn with
  | ind n ih =>
    by_cases hn : n < 10
    · rw [Nat.toDigits_of_lt_base hn]
      simpa using h
    · have hfirst := ih (n / 10) (by omega) (by omega)
      rw [Nat.toDigits_of_base_le (by decide) (by omega), List.head?_append]
      cases hhead : (Nat.toDigits 10 (n / 10)).head? with
      | none => exact absurd (List.head?_eq_none_iff.mp hhead) Nat.toDigits_ne_nil
      | some c => rwa [hhead] at hfirst

theorem whole?_ofNat (n : Nat) {rest : List Char} (h : EndsNumber rest) :
    whole? (Decimal.ofNat n ++ rest) = some (Decimal.ofNat n, rest) := by
  by_cases hn : n = 0
  · subst hn
    rfl
  · unfold whole?
    split
    · rename_i after heq
      cases hdigits : Decimal.ofNat n with
      | nil => exact absurd hdigits (Decimal.ofNat_ne_nil n)
      | cons c digits =>
        rw [hdigits] at heq
        obtain ⟨rfl, -⟩ := List.cons.inj heq
        exact absurd (by rw [hdigits]; rfl) (head?_ofNat hn)
    · exact digits?_ofNat n h

theorem fraction?_of_ends {rest : List Char} (h : EndsNumber rest) :
    fraction? rest = some (none, rest) := by
  unfold fraction?
  split
  · exact absurd rfl (h _ rfl).2.1
  · rfl

theorem exponent?_of_ends {rest : List Char} (h : EndsNumber rest) :
    exponent? rest = some (none, rest) := by
  unfold exponent?
  split
  · exact absurd rfl (h _ rfl).2.2.1
  · exact absurd rfl (h _ rfl).2.2.2
  · rfl

theorem unsigned?_ofNat (negative : Bool) (n : Nat) {rest : List Char} (h : EndsNumber rest) :
    unsigned? negative (Decimal.ofNat n ++ rest) =
      some (ofParts negative (Decimal.ofNat n) none none, rest) := by
  unfold unsigned?
  rw [whole?_ofNat n h]
  dsimp only [Option.bind_eq_bind, Option.bind_some]
  rw [fraction?_of_ends h]
  dsimp only [Option.bind_some]
  rw [exponent?_of_ends h]
  rfl

theorem number?_of_isDigit {c : Char} (h : c.isDigit = true) (rest : List Char) :
    number? (c :: rest) = unsigned? false (c :: rest) := by
  unfold number?
  split
  · rename_i heq
    obtain ⟨rfl, -⟩ := List.cons.inj heq
    exact absurd h (by decide)
  · rfl

theorem number?_ofInt (n : Int) {rest : List Char} (h : EndsNumber rest) :
    number? (Decimal.ofInt n ++ rest) = some (.int n, rest) := by
  cases n with
  | negSucc n =>
    have hread := unsigned?_ofNat true (n + 1) h
    rw [Decimal.ofInt, List.cons_append, number?, hread]
    simp only [ofParts, Decimal.toNat_ofNat]
    rfl
  | ofNat n =>
    have hread := unsigned?_ofNat false n h
    rw [Decimal.ofInt]
    cases hdigits : Decimal.ofNat n with
    | nil => exact absurd hdigits (Decimal.ofNat_ne_nil n)
    | cons c digits =>
      have hc : c.isDigit = true := Decimal.isDigit_of_mem_ofNat (by rw [hdigits]; simp)
      rw [List.cons_append, number?_of_isDigit hc, ← List.cons_append, ← hdigits, hread]
      simp only [ofParts, Decimal.toNat_ofNat]
      rfl

/-! ## Texts -/

/-- How a character is read from its escaped form. -/
def piece (c : Char) : Piece :=
  if c < ' ' ∧ c ∉ ['\x08', '\x0c', '\n', '\r', '\t'] then .unit c.toNat else .char c

theorem piece_cases (c : Char) :
    piece c = .char c ∨ piece c = .unit c.toNat ∧ c.toNat < 32 := by
  unfold piece
  split
  · rename_i h
    exact .inr ⟨rfl, h.1⟩
  · exact .inl rfl

theorem hexDigit?_digitChar : ∀ n < 16, hexDigit? (Nat.digitChar n) = some n := by
  decide

theorem pieces?_short {e c : Char} (he : e ≠ 'u') (h : shortEscape? e = some c)
    (rest : List Char) :
    pieces? ('\\' :: e :: rest) =
      (pieces? rest).map fun (parts, after) => (.char c :: parts, after) := by
  rw [pieces?]
  · rw [h]
    cases pieces? rest <;> rfl
  · rintro a b c d rest rfl
    exact absurd rfl he

theorem pieces?_unit {a b c d : Char} {n : Nat} (h : unit? a b c d = some n) (rest : List Char) :
    pieces? ('\\' :: 'u' :: a :: b :: c :: d :: rest) =
      (pieces? rest).map fun (parts, after) => (.unit n :: parts, after) := by
  rw [pieces?, h]
  cases pieces? rest <;> rfl

theorem pieces?_plain {c : Char} (hquote : c ≠ '"') (hbackslash : c ≠ '\\') (hcontrol : ¬c < ' ')
    (rest : List Char) :
    pieces? (c :: rest) = (pieces? rest).map fun (parts, after) => (.char c :: parts, after) := by
  rw [pieces?]
  · have hplain : ¬ (decide (c < ' ') || decide (c = '\\')) = true := by
      rw [Bool.or_eq_true, decide_eq_true_eq, decide_eq_true_eq]
      exact not_or.mpr ⟨hcontrol, hbackslash⟩
    rw [if_neg hplain]
    cases pieces? rest <;> rfl
  · exact hquote
  · rintro a b c d rest rfl
    exact absurd rfl hbackslash
  · rintro e rest rfl
    exact absurd rfl hbackslash

theorem pieces?_escape (c : Char) (rest : List Char) :
    pieces? (escape c ++ rest) =
      (pieces? rest).map fun (parts, after) => (piece c :: parts, after) := by
  unfold escape
  split
  case h_8 hquote hbackslash hback hfeed hline hreturn htab =>
    split
    · rename_i hcontrol
      have hcode : c.toNat < 32 := hcontrol
      have hhigh := hexDigit?_digitChar (c.toNat / 16) (by omega)
      have hlow := hexDigit?_digitChar (c.toNat % 16) (by omega)
      have hunit : unit? '0' '0' (Nat.digitChar (c.toNat / 16)) (Nat.digitChar (c.toNat % 16)) =
          some c.toNat := by
        have hzero : hexDigit? '0' = some 0 := rfl
        simp only [unit?, hzero, hhigh, hlow, Option.bind_eq_bind, Option.bind_some]
        congr 1
        omega
      have hlong : c ∉ ['\x08', '\x0c', '\n', '\r', '\t'] := by
        simp only [List.mem_cons, List.not_mem_nil, or_false, not_or]
        exact ⟨hback, hfeed, hline, hreturn, htab⟩
      have hpiece : piece c = .unit c.toNat := if_pos ⟨hcontrol, hlong⟩
      rw [hpiece]
      exact pieces?_unit hunit rest
    · rename_i hcontrol
      have hpiece : piece c = .char c := by simp [piece, hcontrol]
      rw [hpiece]
      exact pieces?_plain hquote hbackslash hcontrol rest
  all_goals exact pieces?_short (by decide) rfl rest

theorem pieces?_flatMap_escape (content rest : List Char) :
    pieces? (content.flatMap escape ++ '"' :: rest) = some (content.map piece, rest) := by
  induction content with
  | nil => rfl
  | cons c content ih =>
    rw [List.flatMap_cons, List.append_assoc, pieces?_escape, ih]
    rfl

/-- A unit that is no surrogate is a character by itself. -/
theorem assemble?_unit {n : Nat} (hhigh : isHigh n = false) (hlow : isLow n = false)
    (rest : List Piece) :
    assemble? (.unit n :: rest) = (assemble? rest).map (Char.ofNat n :: ·) := by
  cases rest with
  | nil => simp [assemble?, hhigh, hlow]
  | cons part rest => cases part <;> simp [assemble?, hhigh, hlow]

/-- The units among the parts of a text in escaped form are controls. -/
theorem assemble?_map_piece (content : List Char) :
    assemble? (content.map piece) = some content := by
  induction content with
  | nil => rfl
  | cons c content ih =>
    rw [List.map_cons]
    rcases piece_cases c with hpiece | ⟨hpiece, hcode⟩
    · rw [hpiece, assemble?, ih, Option.map_some]
    · have hhigh : isHigh c.toNat = false := by
        simp only [isHigh, Bool.and_eq_false_iff, decide_eq_false_iff_not]
        omega
      have hlow : isLow c.toNat = false := by
        simp only [isLow, Bool.and_eq_false_iff, decide_eq_false_iff_not]
        omega
      rw [hpiece, assemble?_unit hhigh hlow, ih, Option.map_some, Char.ofNat_toNat]

theorem string?_quoted (content : String) (rest : List Char) :
    string? (content.toList.flatMap escape ++ '"' :: rest) = some (some content, rest) := by
  rw [string?, pieces?_flatMap_escape]
  simp only [Option.map_some, assemble?_map_piece, String.ofList_toList]

end Tabletop.Json
