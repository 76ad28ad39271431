import Tabletop.Text.Measure

/-!
# Cutting a text at a byte position

`cut?` divides a text at a position counted in bytes. It is partial: behind the end
of the text and inside a character there is nothing to cut. The positions that have
a cut are the boundaries of `Text.Boundary`, and they are the positions that are
valid in the UTF-8 form of the text.
-/

namespace Tabletop.Text

/-- The two parts of a text before and after a byte position, if there is a boundary. -/
def cut? : List Char → Nat → Option (List Char × List Char)
  | text, 0 => some ([], text)
  | [], _ + 1 => none
  | c :: rest, n + 1 =>
    if c.utf8Size ≤ n + 1 then
      (cut? rest (n + 1 - c.utf8Size)).map fun (front, back) => (c :: front, back)
    else none

theorem cut?_zero (text : List Char) : cut? text 0 = some ([], text) := by
  cases text <;> rfl

/-- Behind an initial segment there is always a cut. -/
theorem cut?_append (front back : List Char) :
    cut? (front ++ back) (width front) = some (front, back) := by
  induction front with
  | nil => exact cut?_zero back
  | cons c front ih =>
    have hc := c.utf8Size_pos
    obtain ⟨n, hn⟩ : ∃ n, width (c :: front) = n + 1 :=
      ⟨c.utf8Size + width front - 1, by rw [width_cons]; omega⟩
    have hrest : n + 1 - c.utf8Size = width front := by rw [width_cons] at hn; omega
    have hle : c.utf8Size ≤ n + 1 := by rw [width_cons] at hn; omega
    rw [hn, List.cons_append, cut?, if_pos hle, hrest, ih]
    rfl

theorem cut?_eq_some {text : List Char} {position : Nat} {front back : List Char}
    (h : cut? text position = some (front, back)) :
    text = front ++ back ∧ width front = position := by
  fun_induction cut? text position generalizing front back with
  | case1 text =>
    obtain ⟨rfl, rfl⟩ := Prod.mk.inj (Option.some.inj h)
    exact ⟨rfl, rfl⟩
  | case2 => cases h
  | case3 c rest n hle ih =>
    obtain ⟨⟨front', back'⟩, hcut, he⟩ := Option.map_eq_some_iff.mp h
    obtain ⟨rfl, rfl⟩ := Prod.mk.inj he
    obtain ⟨hrest, hwidth⟩ := ih hcut
    refine ⟨by rw [hrest, List.cons_append], ?_⟩
    rw [width_cons]
    omega
  | case4 => cases h

theorem boundary_zero (text : List Char) : Boundary text 0 :=
  ⟨[], text, rfl, rfl⟩

/-- A boundary of the part behind an initial segment, seen from the start. -/
theorem Boundary.shift {back : List Char} {position : Nat} (h : Boundary back position)
    (front : List Char) : Boundary (front ++ back) (position + width front) := by
  obtain ⟨first, second, rfl, rfl⟩ := h
  exact ⟨front ++ first, second, by rw [List.append_assoc], by rw [width_append, Nat.add_comm]⟩

theorem Boundary.le_width {text : List Char} {position : Nat} (h : Boundary text position) :
    position ≤ width text := by
  obtain ⟨front, back, rfl, rfl⟩ := h
  rw [width_append]
  exact Nat.le_add_right _ _

/-- The width of a text is the size of its UTF-8 form. -/
theorem width_eq_utf8ByteSize (text : List Char) :
    width text = (String.ofList text).utf8ByteSize := by
  induction text with
  | nil => rfl
  | cons c rest ih =>
    have hsplit : String.ofList (c :: rest) = String.singleton c ++ String.ofList rest := by
      rw [← String.toList_inj]
      simp
    rw [hsplit, String.utf8ByteSize_append, String.utf8ByteSize_singleton, width_cons, ih]

theorem width_toList (text : String) : width text.toList = text.utf8ByteSize := by
  rw [width_eq_utf8ByteSize, String.ofList_toList]

/-- Boundaries are the positions that are valid in the UTF-8 form of a text. -/
theorem boundary_toList_iff {text : String} {position : Nat} :
    Boundary text.toList position ↔ (String.Pos.Raw.mk position).IsValid text := by
  rw [String.Pos.Raw.isValid_iff_exists_take_toList]
  constructor
  · rintro ⟨front, back, htext, rfl⟩
    refine ⟨front.length, ?_⟩
    rw [htext, List.take_left]
    exact width_eq_utf8ByteSize front
  · rintro ⟨i, hi⟩
    refine ⟨text.toList.take i, text.toList.drop i, (List.take_append_drop i _).symm, ?_⟩
    rw [width_eq_utf8ByteSize]
    exact hi.symm

end Tabletop.Text
