import Tabletop.Text.Phrase

/-!
# How a phrase reads

`phrase` builds the text item by item. `joined` says what it looks like in the end:
commas up to the last item, and the conjunction in front of that.
-/

namespace Tabletop.Text

/-- The items before the last with commas between them, and the last one behind the conjunction. -/
def joined (conjunction : String) (items : List String) : String :=
  match items.dropLast, items.getLast? with
  | _, none => ""
  | [], some last => last
  | before, some last => ", ".intercalate before ++ " " ++ conjunction ++ " " ++ last

theorem joined_cons (conjunction first second third : String) (rest : List String) :
    joined conjunction (first :: second :: third :: rest) =
      first ++ ", " ++ joined conjunction (second :: third :: rest) := by
  unfold joined
  rw [List.getLast?_cons_cons]
  cases hlast : (second :: third :: rest).getLast? with
  | none => simp at hlast
  | some last =>
    simp only [List.dropLast_cons_cons, String.intercalate_cons_cons, String.append_assoc]

theorem phrase_eq_joined (conjunction : String) (items : List String) :
    phrase conjunction items = joined conjunction items := by
  fun_induction phrase conjunction items with
  | case1 => rfl
  | case2 => rfl
  | case3 first last => simp [joined]
  | case4 first rest hone htwo ih =>
    match rest with
    | [] => exact absurd rfl hone
    | [last] => exact absurd rfl (htwo last)
    | second :: third :: rest => rw [ih, joined_cons]

/-- Several items that all say something say something together. -/
theorem joined_ne_empty (conjunction : String) {items : List String} (hsome : items ≠ [])
    (hsay : ∀ item ∈ items, item ≠ "") : joined conjunction items ≠ "" := by
  unfold joined
  cases hlast : items.getLast? with
  | none => exact absurd (List.getLast?_eq_none_iff.mp hlast) hsome
  | some last =>
    have hne := hsay last (List.mem_of_getLast? hlast)
    cases items.dropLast with
    | nil => exact hne
    | cons first rest =>
      intro hempty
      exact hne (String.append_eq_empty_iff.mp hempty).2

end Tabletop.Text
