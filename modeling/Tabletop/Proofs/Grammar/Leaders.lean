import Mathlib.Data.List.Perm.Basic

/-!
# Those that got furthest

Names that a player may have meant, and failures of an alternation, are ranked alike:
each has a number, and all that share the greatest number are kept, in their order.
`greatest` and `leaders` say so in two passes over the whole list. The programs make
one pass and keep what leads so far; they meet these definitions in `leaders_append`,
which says how two lists that have been ranked apart are ranked together.
-/

namespace Tabletop

universe u

variable {α : Type u} {measure : α → Nat}

/-- The greatest measure of some items, or 0 if there are none. -/
def greatest (measure : α → Nat) (items : List α) : Nat :=
  (items.map measure).max?.getD 0

/-- The items of the greatest measure, in their order. -/
def leaders (measure : α → Nat) (items : List α) : List α :=
  items.filter (measure · = greatest measure items)

@[simp]
theorem greatest_nil : greatest measure [] = 0 := rfl

@[simp]
theorem leaders_nil : leaders measure [] = [] := rfl

theorem greatest_cons (first : α) (rest : List α) :
    greatest measure (first :: rest) = max (measure first) (greatest measure rest) := by
  unfold greatest
  rw [List.map_cons, List.max?_cons]
  cases (rest.map measure).max? with
  | none => exact (Nat.max_zero (measure first)).symm
  | some most => rfl

@[simp]
theorem greatest_singleton (only : α) : greatest measure [only] = measure only := rfl

@[simp]
theorem leaders_singleton (only : α) : leaders measure [only] = [only] := by
  simp [leaders]

theorem greatest_append (front back : List α) :
    greatest measure (front ++ back) = max (greatest measure front) (greatest measure back) := by
  induction front with
  | nil => simp
  | cons first rest ih => rw [List.cons_append, greatest_cons, greatest_cons, ih, Nat.max_assoc]

theorem le_greatest (measure : α → Nat) {items : List α} {item : α} (h : item ∈ items) :
    measure item ≤ greatest measure items := by
  induction h with
  | head rest =>
    rw [greatest_cons]
    exact Nat.le_max_left _ _
  | tail other _ ih =>
    rw [greatest_cons]
    exact Nat.le_trans ih (Nat.le_max_right _ _)

/-- The greatest measure is that of some item, if there are any. -/
theorem exists_eq_greatest {items : List α} (h : items ≠ []) :
    ∃ item ∈ items, measure item = greatest measure items := by
  unfold greatest
  cases hmost : (items.map measure).max? with
  | none => exact absurd (List.map_eq_nil_iff.mp (List.max?_eq_none_iff.mp hmost)) h
  | some most =>
    obtain ⟨item, hitem, hmeasure⟩ := List.mem_map.mp (List.max?_mem hmost)
    exact ⟨item, hitem, hmeasure⟩

theorem leaders_ne_nil {items : List α} (h : items ≠ []) : leaders measure items ≠ [] := by
  obtain ⟨item, hitem, hmost⟩ : ∃ item ∈ items, measure item = greatest measure items :=
    exists_eq_greatest h
  exact List.ne_nil_of_mem (List.mem_filter.mpr ⟨hitem, decide_eq_true hmost⟩)

/-- If no measure is above a number, those with this measure are the leaders or nobody. -/
theorem filter_of_greatest_le {items : List α} {most : Nat} (h : greatest measure items ≤ most) :
    items.filter (measure · = most) = if most ≤ greatest measure items then leaders measure items
      else [] := by
  split
  · rename_i hle
    obtain rfl : greatest measure items = most := Nat.le_antisymm h hle
    rfl
  · rename_i hlt
    rw [List.filter_eq_nil_iff]
    intro item hitem
    have hbelow := le_greatest measure hitem
    simp only [decide_eq_true_eq]
    omega

/-- Of two lists ranked together, the one whose leaders got further keeps them, or both do. -/
theorem leaders_append (front back : List α) :
    leaders measure (front ++ back) =
      (if greatest measure back ≤ greatest measure front then leaders measure front else []) ++
        (if greatest measure front ≤ greatest measure back then leaders measure back else []) := by
  have hfront : max (greatest measure front) (greatest measure back) ≤ greatest measure front ↔
      greatest measure back ≤ greatest measure front := by omega
  have hback : max (greatest measure front) (greatest measure back) ≤ greatest measure back ↔
      greatest measure front ≤ greatest measure back := by omega
  rw [leaders, List.filter_append, greatest_append, filter_of_greatest_le (Nat.le_max_left _ _),
    filter_of_greatest_le (Nat.le_max_right _ _)]
  simp only [hfront, hback]

/-! One more item is behind the leaders, beside them, or in front of them. -/

section

variable {items : List α} {item : α}

theorem leaders_concat_of_lt (h : measure item < greatest measure items) :
    leaders measure (items ++ [item]) = leaders measure items := by
  rw [leaders_append, greatest_singleton, if_pos (Nat.le_of_lt h), if_neg (Nat.not_le.mpr h),
    List.append_nil]

theorem leaders_concat_of_eq (h : measure item = greatest measure items) :
    leaders measure (items ++ [item]) = leaders measure items ++ [item] := by
  rw [leaders_append, greatest_singleton, leaders_singleton, if_pos (Nat.le_of_eq h),
    if_pos (Nat.le_of_eq h.symm)]

theorem leaders_concat_of_gt (h : greatest measure items < measure item) :
    leaders measure (items ++ [item]) = [item] := by
  rw [leaders_append, greatest_singleton, leaders_singleton, if_neg (Nat.not_le.mpr h),
    if_pos (Nat.le_of_lt h), List.nil_append]

end

theorem greatest_perm {items others : List α} (h : items.Perm others) :
    greatest measure items = greatest measure others := by
  induction h with
  | nil => rfl
  | cons first _ ih => rw [greatest_cons, greatest_cons, ih]
  | swap first second rest =>
    simp only [greatest_cons]
    exact Nat.max_left_comm _ _ _
  | trans _ _ ih ih' => exact ih.trans ih'

theorem leaders_perm {items others : List α} (h : items.Perm others) :
    (leaders measure items).Perm (leaders measure others) := by
  unfold leaders
  rw [greatest_perm h]
  exact h.filter _

end Tabletop
