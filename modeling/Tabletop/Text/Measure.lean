/-!
# Text measured in bytes

A player's text is read character by character, but positions in it are reported
in bytes of its UTF-8 form. `width` is the size of a text in bytes, and `Boundary`
says which byte positions fall between two characters: exactly the widths of the
initial segments of the text. Nothing here inspects bytes; the width of a single
character is all that positions depend on.
-/

namespace Tabletop.Text

/-- The number of bytes that a text takes in UTF-8. -/
def width : List Char → Nat
  | [] => 0
  | c :: rest => c.utf8Size + width rest

/-- Byte positions at which a text can be cut without breaking a character. -/
def Boundary (text : List Char) (position : Nat) : Prop :=
  ∃ front back, text = front ++ back ∧ width front = position

@[simp]
theorem width_nil : width [] = 0 := rfl

@[simp]
theorem width_cons (c : Char) (rest : List Char) :
    width (c :: rest) = c.utf8Size + width rest := rfl

@[simp]
theorem width_append (front back : List Char) :
    width (front ++ back) = width front + width back := by
  induction front with
  | nil => simp
  | cons c rest ih => simp [ih, Nat.add_assoc]

/-- Only the empty text is zero bytes wide. -/
theorem width_eq_zero_iff {text : List Char} : width text = 0 ↔ text = [] := by
  cases text with
  | nil => simp
  | cons c rest =>
    have := c.utf8Size_pos
    simp only [width_cons, reduceCtorEq, iff_false]
    omega

end Tabletop.Text
