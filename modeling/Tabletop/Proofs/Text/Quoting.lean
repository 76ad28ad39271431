import Mathlib.Tactic.SplitIfs
import Tabletop.Text.Quoted

/-!
# Quoted text can be read back

What stands for a character inside quotes ends at a place that everybody agrees on: a
character that is shown plainly is no backslash, one with a short escape has a single
letter behind the backslash, and a code has its closing brace, which is no hexadecimal
digit. So a quoted text ends at the first double quote that no escape has used up, and
different texts have different quotations. Which characters are printable does not
matter for this.
-/

namespace Tabletop.Text.Quoted

/-! ## Hexadecimal codes -/

theorem digitChar_inj : ∀ a < 16, ∀ b < 16, Nat.digitChar a = Nat.digitChar b → a = b := by
  decide

theorem exists_of_mem_toDigits {n : Nat} {c : Char} (h : c ∈ Nat.toDigits 16 n) :
    ∃ d < 16, c = Nat.digitChar d := by
  induction n using Nat.strongRecOn with
  | ind n ih =>
    rw [Nat.toDigits_eq_if (by decide)] at h
    split_ifs at h with hsmall
    · exact ⟨n, hsmall, List.mem_singleton.mp h⟩
    · rcases List.mem_append.mp h with hfront | hlast
      · exact ih (n / 16) (Nat.div_lt_self (by omega) (by decide)) hfront
      · exact ⟨n % 16, Nat.mod_lt n (by decide), List.mem_singleton.mp hlast⟩

/-- A character that is no hexadecimal digit does not occur in a code. -/
theorem not_mem_toDigits {c : Char} (h : ∀ d < 16, c ≠ Nat.digitChar d) (n : Nat) :
    c ∉ Nat.toDigits 16 n := by
  intro hmem
  obtain ⟨d, hd, hc⟩ := exists_of_mem_toDigits hmem
  exact h d hd hc

theorem toDigits_inj {m n : Nat} (h : Nat.toDigits 16 m = Nat.toDigits 16 n) : m = n := by
  induction m using Nat.strongRecOn generalizing n with
  | ind m ih =>
    rw [Nat.toDigits_eq_if (by decide), Nat.toDigits_eq_if (b := 16) (n := n) (by decide)] at h
    split_ifs at h with hm hn hn
    · exact digitChar_inj m hm n hn (List.cons.inj h).1
    · have hlength := congrArg List.length h
      have hpositive := Nat.length_toDigits_pos (b := 16) (n := n / 16)
      rw [List.length_append, List.length_singleton, List.length_singleton] at hlength
      omega
    · have hlength := congrArg List.length h
      have hpositive := Nat.length_toDigits_pos (b := 16) (n := m / 16)
      rw [List.length_append, List.length_singleton, List.length_singleton] at hlength
      omega
    · obtain ⟨hfront, hlast⟩ := List.append_inj' h rfl
      have hquotient := ih (m / 16) (Nat.div_lt_self (by omega) (by decide)) hfront
      have hremainder := digitChar_inj _ (Nat.mod_lt m (by decide)) _ (Nat.mod_lt n (by decide))
        (List.cons.inj hlast).1
      omega

/-! ## Characters -/

/-- The letter behind the backslash of a short escape. -/
def letter? : Char → Option Char
  | '\x00' => some '0'
  | '\t' => some 't'
  | '\n' => some 'n'
  | '\r' => some 'r'
  | '"' => some '"'
  | '\\' => some '\\'
  | _ => none

/-- The three ways to write a character inside quotes. -/
inductive Form (c : Char) : List Char → Prop where
  | short {letter : Char} (h : letter? c = some letter) : Form c ['\\', letter]
  | plain (h : letter? c = none) : Form c [c]
  | code (h : letter? c = none) :
      Form c ('\\' :: 'u' :: '\x7b' :: (Nat.toDigits 16 c.toNat ++ ['\x7d']))

theorem escape_form (c : Char) : Form c (escape c) := by
  unfold escape
  split
  · exact .short rfl
  · exact .short rfl
  · exact .short rfl
  · exact .short rfl
  · exact .short rfl
  · exact .short rfl
  · have hletter : letter? c = none := by
      unfold letter?
      split <;> first | rfl | contradiction
    split_ifs
    · exact .plain hletter
    · exact .code hletter

/-- The character that a letter behind a backslash stands for. -/
def meant : Char → Char
  | '0' => '\x00'
  | 't' => '\t'
  | 'n' => '\n'
  | 'r' => '\r'
  | letter => letter

theorem meant_of_letter? {c letter : Char} (h : letter? c = some letter) : meant letter = c := by
  unfold letter? at h
  split at h <;> cases h <;> rfl

theorem mem_of_letter? {c letter : Char} (h : letter? c = some letter) :
    letter ∈ ['0', 't', 'n', 'r', '"', '\\'] := by
  unfold letter? at h
  split at h <;> cases h <;> decide

/-- A short escape is no code. -/
theorem ne_u_of_letter? {c letter : Char} (h : letter? c = some letter) : letter ≠ 'u' := by
  rintro rfl
  exact absurd (mem_of_letter? h) (by decide)

/-- The backslash and the double quote have short escapes. -/
theorem ne_of_letter? {c : Char} (h : letter? c = none) : c ≠ '\\' ∧ c ≠ '"' := by
  constructor
  · rintro rfl
    cases h
  · rintro rfl
    cases h

theorem code_append_inj {c d : Char} {rest rest' : List Char}
    (h : Nat.toDigits 16 c.toNat ++ '\x7d' :: rest = Nat.toDigits 16 d.toNat ++ '\x7d' :: rest') :
    c = d ∧ rest = rest' := by
  have hbrace : ∀ n, '\x7d' ∉ Nat.toDigits 16 n := not_mem_toDigits (by decide)
  have hpieces := congrArg (List.splitOn '\x7d') h
  rw [List.splitOn_append_cons_self_of_not_mem (hbrace _),
    List.splitOn_append_cons_self_of_not_mem (hbrace _)] at hpieces
  have hdigits := (List.cons.inj hpieces).1
  rw [hdigits] at h
  exact ⟨Char.toNat_inj.mp (toDigits_inj hdigits), (List.cons.inj (List.append_cancel_left h)).2⟩

/-- Two characters written in front of the same text are the same, and so is what follows them. -/
theorem Form.append_inj {c d : Char} {form form' rest rest' : List Char} (h : Form c form)
    (h' : Form d form') (htext : form ++ rest = form' ++ rest') : c = d ∧ rest = rest' := by
  cases h with
  | short hletter =>
    cases h' with
    | short hletter' =>
      obtain ⟨-, htext⟩ := List.cons.inj htext
      obtain ⟨rfl, hrest⟩ := List.cons.inj htext
      exact ⟨(meant_of_letter? hletter).symm.trans (meant_of_letter? hletter'), hrest⟩
    | plain hplain => exact absurd (List.cons.inj htext).1.symm (ne_of_letter? hplain).1
    | code hplain =>
      exact absurd (List.cons.inj (List.cons.inj htext).2).1 (ne_u_of_letter? hletter)
  | plain hplain =>
    cases h' with
    | short hletter' => exact absurd (List.cons.inj htext).1 (ne_of_letter? hplain).1
    | plain hplain' => exact List.cons.inj htext
    | code hplain' => exact absurd (List.cons.inj htext).1 (ne_of_letter? hplain).1
  | code hplain =>
    cases h' with
    | short hletter' =>
      exact absurd (List.cons.inj (List.cons.inj htext).2).1.symm (ne_u_of_letter? hletter')
    | plain hplain' => exact absurd (List.cons.inj htext).1.symm (ne_of_letter? hplain').1
    | code hplain' =>
      have hcode := (List.cons.inj (List.cons.inj (List.cons.inj htext).2).2).2
      rw [List.append_eq, List.append_eq, List.append_assoc, List.append_assoc] at hcode
      exact code_append_inj hcode

/-- A character inside quotes does not look like the end of them. -/
theorem Form.exists_cons {c : Char} {form : List Char} (h : Form c form) :
    ∃ first more, form = first :: more ∧ first ≠ '"' := by
  cases h with
  | short hletter => exact ⟨_, _, rfl, by decide⟩
  | plain hplain => exact ⟨_, _, rfl, (ne_of_letter? hplain).2⟩
  | code hplain => exact ⟨_, _, rfl, by decide⟩

/-- A line break is written as an escape, and no escape has one. -/
theorem Form.not_mem {c : Char} {form : List Char} (h : Form c form) : '\n' ∉ form := by
  cases h with
  | @short letter hletter =>
    have hmem := mem_of_letter? hletter
    have hne : '\n' ≠ letter := by
      rintro rfl
      exact absurd hmem (by decide)
    exact List.not_mem_cons_of_ne_of_not_mem (by decide) (List.not_mem_cons_of_ne_of_not_mem hne
      List.not_mem_nil)
  | plain hplain =>
    intro hmem
    rw [← List.mem_singleton.mp hmem] at hplain
    cases hplain
  | code hplain =>
    have hdigits : '\n' ∉ Nat.toDigits 16 c.toNat := not_mem_toDigits (by decide) _
    simp [hdigits]

/-! ## Texts -/

/-- A quoted text has no line breaks. -/
theorem not_mem_quote (text : List Char) : '\n' ∉ quote text := by
  rw [quote, List.mem_cons, List.mem_append, List.mem_flatMap, List.mem_singleton]
  rintro (hquote | ⟨c, -, hc⟩ | hquote)
  · exact absurd hquote (by decide)
  · exact (escape_form c).not_mem hc
  · exact absurd hquote (by decide)

theorem flatMap_escape_append_inj {text text' rest rest' : List Char}
    (h : text.flatMap escape ++ '"' :: rest = text'.flatMap escape ++ '"' :: rest') :
    text = text' ∧ rest = rest' := by
  induction text generalizing text' with
  | nil =>
    cases text' with
    | nil => exact ⟨rfl, (List.cons.inj h).2⟩
    | cons d text' =>
      obtain ⟨first, more, hform, hfirst⟩ := (escape_form d).exists_cons
      rw [List.flatMap_cons, hform] at h
      exact absurd (List.cons.inj h).1.symm hfirst
  | cons c text ih =>
    cases text' with
    | nil =>
      obtain ⟨first, more, hform, hfirst⟩ := (escape_form c).exists_cons
      rw [List.flatMap_cons, hform] at h
      exact absurd (List.cons.inj h).1 hfirst
    | cons d text' =>
      rw [List.flatMap_cons, List.flatMap_cons, List.append_assoc, List.append_assoc] at h
      obtain ⟨rfl, htext⟩ := (escape_form c).append_inj (escape_form d) h
      obtain ⟨rfl, hrest⟩ := ih htext
      exact ⟨rfl, hrest⟩

/-- Two quoted texts in front of the same text are the same, and so is what follows them. -/
theorem quote_append_inj {text text' rest rest' : List Char}
    (h : quote text ++ rest = quote text' ++ rest') : text = text' ∧ rest = rest' := by
  unfold quote at h
  rw [List.cons_append, List.cons_append, List.append_assoc, List.append_assoc] at h
  exact flatMap_escape_append_inj (List.cons.inj h).2

end Tabletop.Text.Quoted
