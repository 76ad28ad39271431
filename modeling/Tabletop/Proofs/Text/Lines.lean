import Tabletop.Proofs.Text.Literals
import Tabletop.Proofs.Text.Phrases
import Tabletop.Proofs.Text.Quoting

/-!
# Texts and their lines

A text is cut into lines at its line breaks. Texts put together with a line break between
them have their lines one after the other, and these are the texts themselves exactly
where none of them has a line break of its own. Numbers have none, and neither has
anything in quotes, where line breaks are written as escapes.
-/

namespace Tabletop.Text

/-- A text without line breaks. -/
def OneLine (text : String) : Prop :=
  '\n' ∉ text.toList

instance (text : String) : Decidable (OneLine text) :=
  inferInstanceAs (Decidable (_ ∉ _))

/-- The lines of a text, without the line breaks. -/
def linesOf (text : String) : List String :=
  (text.toList.splitOn '\n').map String.ofList

/-! ## Texts of one line -/

theorem oneLine_append_iff {front back : String} :
    OneLine (front ++ back) ↔ OneLine front ∧ OneLine back := by
  rw [OneLine, String.toList_append, List.mem_append, not_or]
  rfl

theorem oneLine_ofList {text : List Char} (h : '\n' ∉ text) : OneLine (.ofList text) := by
  rwa [OneLine, String.toList_ofList]

/-- A literal is digits, perhaps behind a minus sign. -/
theorem Decimal.Literal.not_mem {literal : List Char} {n : Int} (h : Literal literal n) :
    '\n' ∉ literal := by
  cases h with
  | unsigned h => exact fun hmem => absurd (h.isDigit _ hmem) (by decide)
  | negative h =>
    refine List.not_mem_cons_of_ne_of_not_mem (by decide) (fun hmem => ?_)
    exact absurd (h.isDigit _ hmem) (by decide)

theorem oneLine_natText (n : Nat) : OneLine (Decimal.natText n) :=
  oneLine_ofList (Decimal.Literal.unsigned (Decimal.isDigits_ofNat n)).not_mem

theorem oneLine_intText (n : Int) : OneLine (Decimal.intText n) :=
  oneLine_ofList (Decimal.longestLiteral_ofInt n .nil).isLiteral.not_mem

theorem oneLine_padded (least n : Nat) : OneLine (Decimal.padded least n) := by
  refine oneLine_ofList (fun hmem => ?_)
  rcases List.mem_append.mp hmem with hzero | hdigit
  · exact absurd (List.eq_of_mem_replicate hzero) (by decide)
  · exact (Decimal.Literal.unsigned (Decimal.isDigits_ofNat n)).not_mem hdigit

theorem oneLine_quote (text : List Char) : OneLine (.ofList (Quoted.quote text)) :=
  oneLine_ofList (Quoted.not_mem_quote text)

theorem oneLine_join_replicate {text : String} (h : OneLine text) (n : Nat) :
    OneLine (String.join (List.replicate n text)) := by
  rw [OneLine, String.toList_join, List.mem_flatMap]
  rintro ⟨found, hfound, hmem⟩
  rw [List.eq_of_mem_replicate hfound] at hmem
  exact h hmem

theorem oneLine_intercalate_iff {separator : String} (hseparator : OneLine separator)
    {items : List String} :
    OneLine (separator.intercalate items) ↔ ∀ item ∈ items, OneLine item := by
  induction items with
  | nil => simp [OneLine]
  | cons first rest ih =>
    cases rest with
    | nil => simp
    | cons second rest =>
      rw [String.intercalate_cons_cons, oneLine_append_iff, oneLine_append_iff, ih,
        List.forall_mem_cons]
      simp [hseparator]

theorem oneLine_joined {conjunction : String} (hconjunction : OneLine conjunction)
    {items : List String} (h : ∀ item ∈ items, OneLine item) :
    OneLine (joined conjunction items) := by
  unfold joined
  cases hlast : items.getLast? with
  | none =>
    show OneLine ""
    decide
  | some last =>
    have hend := h last (List.mem_of_getLast? hlast)
    cases hbefore : items.dropLast with
    | nil => exact hend
    | cons first rest =>
      have hstart : OneLine (", ".intercalate (first :: rest)) := by
        rw [oneLine_intercalate_iff (by decide), ← hbefore]
        exact fun item hitem => h item (List.dropLast_subset items hitem)
      simp only [oneLine_append_iff]
      exact ⟨⟨⟨⟨hstart, by decide⟩, hconjunction⟩, by decide⟩, hend⟩

/-! ## Cutting a text into lines -/

theorem linesOf_of_oneLine {text : String} (h : OneLine text) : linesOf text = [text] := by
  rw [linesOf, List.splitOn_eq_singleton h, List.map_singleton, String.ofList_toList]

theorem linesOf_append (front back : String) :
    linesOf (front ++ "\n" ++ back) = linesOf front ++ linesOf back := by
  have htext : (front ++ "\n" ++ back).toList = front.toList ++ '\n' :: back.toList := by
    rw [String.toList_append, String.toList_append, List.append_assoc]
    rfl
  rw [linesOf, htext, List.splitOn_append_cons_self, List.map_append]
  rfl

/-- Texts with line breaks between them have their lines one after the other. -/
theorem linesOf_intercalate {texts : List String} (h : texts ≠ []) :
    linesOf ("\n".intercalate texts) = texts.flatMap linesOf := by
  induction texts with
  | nil => exact absurd rfl h
  | cons first rest ih =>
    cases rest with
    | nil => simp
    | cons second rest =>
      rw [String.intercalate_cons_cons, linesOf_append, ih (List.cons_ne_nil second rest),
        List.flatMap_cons (x := first)]

/-- A text always has a line, and it has no other exactly where there is no line break. -/
theorem length_linesOf_pos (text : String) : 1 ≤ (linesOf text).length := by
  rw [linesOf, List.length_map]
  exact List.length_pos_iff.mpr (List.splitOn_ne_nil _ _)

theorem length_linesOf_eq_one_iff {text : String} : (linesOf text).length = 1 ↔ OneLine text := by
  constructor
  · intro hlength hmem
    obtain ⟨front, back, htext⟩ := List.append_of_mem hmem
    rw [linesOf, htext, List.length_map, List.splitOn_append_cons_self, List.length_append]
      at hlength
    have hfront := List.length_pos_iff.mpr (List.splitOn_ne_nil '\n' front)
    have hback := List.length_pos_iff.mpr (List.splitOn_ne_nil '\n' back)
    omega
  · intro h
    rw [linesOf_of_oneLine h, List.length_singleton]

theorem length_le_flatMap_linesOf (texts : List String) :
    texts.length ≤ (texts.flatMap linesOf).length := by
  induction texts with
  | nil => exact Nat.le_refl 0
  | cons first rest ih =>
    have hfirst := length_linesOf_pos first
    rw [List.length_cons, List.flatMap_cons, List.length_append]
    omega

/-- Texts have as many lines as there are texts only if each of them is a line. -/
theorem length_flatMap_linesOf_iff {texts : List String} :
    (texts.flatMap linesOf).length = texts.length ↔ ∀ text ∈ texts, OneLine text := by
  induction texts with
  | nil => simp
  | cons first rest ih =>
    have hfirst := length_linesOf_pos first
    have hrest := length_le_flatMap_linesOf rest
    rw [List.forall_mem_cons, ← ih, ← length_linesOf_eq_one_iff, List.flatMap_cons,
      List.length_append, List.length_cons]
    omega

/-- The lines of some texts are the texts only if each of them is a line. -/
theorem flatMap_linesOf_eq_iff {texts : List String} :
    texts.flatMap linesOf = texts ↔ ∀ text ∈ texts, OneLine text := by
  constructor
  · intro h
    exact length_flatMap_linesOf_iff.mp (congrArg List.length h)
  · intro h
    induction texts with
    | nil => rfl
    | cons first rest ih =>
      obtain ⟨hfirst, hrest⟩ := List.forall_mem_cons.mp h
      rw [List.flatMap_cons, linesOf_of_oneLine hfirst, ih hrest, List.singleton_append]

end Tabletop.Text
