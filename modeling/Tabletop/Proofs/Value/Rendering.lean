import Tabletop.Proofs.Text.Literals
import Tabletop.Proofs.Text.Quoting
import Tabletop.Value

/-!
# The text of a value tells which value it is

Without commands, whose text is the game's affair, values are written so that nobody
can mistake one for another. The first character tells the kind, and from there on it
is clear where the text of the value ends: a quotation ends with its closing quote, a
list with the bracket that its items leave over, and a number where no digit follows.
Behind an item comes a blank or a bracket, so that numbers in lists end properly too.
Texts that look like other values, or like parts of a list, are in quotes.
-/

namespace Tabletop.Value

universe u

open Text.Decimal (EndsDigits)

variable {C : Type u} {command : C → String}

/-- A value without commands, at any depth. -/
inductive CommandFree : Value C → Prop where
  | absent : CommandFree .absent
  | int (n : Int) : CommandFree (.int n)
  | text (content : String) : CommandFree (.text content)
  | player (seat : Nat) : CommandFree (.player seat)
  | list {items : List (Value C)} (free : ∀ item ∈ items, CommandFree item) :
      CommandFree (.list items)

theorem CommandFree.items {items : List (Value C)} (h : (Value.list items).CommandFree) :
    ∀ item ∈ items, item.CommandFree := by
  cases h with
  | list free => exact free

/-! ## First characters -/

/-- The name of the kind of values whose text begins with a character. -/
def kindOf (first : Char) : String :=
  if first = 'n' then "none"
  else if first = '"' then "text"
  else if first = 'p' then "player"
  else if first = '[' then "list"
  else if first = '-' ∨ first.isDigit then "int"
  else ""

theorem kindOf_of_isDigit {first : Char} (h : first.isDigit = true) : kindOf first = "int" := by
  have hne : ∀ other : Char, other.isDigit = false → first ≠ other := by
    rintro other hother rfl
    rw [h] at hother
    cases hother
  rw [kindOf, if_neg (hne _ (by decide)), if_neg (hne _ (by decide)), if_neg (hne _ (by decide)),
    if_neg (hne _ (by decide)), if_pos (.inr h)]

theorem exists_cons_ofInt (n : Int) :
    ∃ first more, Text.Decimal.ofInt n = first :: more ∧ kindOf first = "int" := by
  cases n with
  | negSucc n => exact ⟨'-', _, rfl, by decide⟩
  | ofNat n =>
    cases hdigits : Text.Decimal.ofNat n with
    | nil => exact absurd hdigits (Text.Decimal.ofNat_ne_nil n)
    | cons first more =>
      have hmem : first ∈ Text.Decimal.ofNat n := by simp [hdigits]
      exact ⟨first, more, hdigits, kindOf_of_isDigit (Text.Decimal.isDigit_of_mem_ofNat hmem)⟩

theorem toList_render_list (items : List (Value C)) :
    (render command (.list items)).toList =
      '[' :: ((renderItems command items).toList ++ [']']) := by
  rw [render, String.toList_append, String.toList_append]
  rfl

theorem toList_render_player (seat : Nat) :
    (render command (.player seat)).toList = "player#".toList ++ Text.Decimal.ofNat seat := by
  show ("player#" ++ Text.Decimal.natText seat).toList = _
  rw [String.toList_append, Text.Decimal.natText,
    String.toList_ofList (l := Text.Decimal.ofNat seat)]

theorem toList_render_int (n : Int) :
    (render command (.int n)).toList = Text.Decimal.ofInt n :=
  String.toList_ofList

theorem toList_render_text (content : String) :
    (render command (.text content)).toList = Text.Quoted.quote content.toList :=
  String.toList_ofList

/-- The first character of a text tells the kind of the value. -/
theorem CommandFree.exists_cons (command : C → String) {v : Value C} (h : v.CommandFree) :
    ∃ first more, (v.render command).toList = first :: more ∧ kindOf first = v.kindName := by
  cases h with
  | absent =>
    show ∃ first more, "none".toList = first :: more ∧ kindOf first = "none"
    exact ⟨'n', _, rfl, rfl⟩
  | int n =>
    rw [toList_render_int]
    exact exists_cons_ofInt n
  | text content =>
    rw [toList_render_text]
    exact ⟨'"', _, rfl, rfl⟩
  | player seat =>
    rw [toList_render_player]
    exact ⟨'p', _, rfl, rfl⟩
  | list free =>
    rw [toList_render_list]
    exact ⟨'[', _, rfl, rfl⟩

/-! ## Lists -/

/-- What stands behind an item: the other items, each behind a blank. -/
def behind (command : C → String) : List (Value C) → List Char
  | [] => []
  | next :: rest => ' ' :: (renderItems command (next :: rest)).toList

theorem toList_renderItems_cons (item : Value C) (rest : List (Value C)) :
    (renderItems command (item :: rest)).toList =
      (item.render command).toList ++ behind command rest := by
  cases rest with
  | nil => exact (List.append_nil _).symm
  | cons next rest =>
    show (item.render command ++ " " ++ renderItems command (next :: rest)).toList = _
    rw [String.toList_append, String.toList_append, List.append_assoc]
    rfl

/-- No digit follows an item. -/
theorem endsDigits_behind (rest : List (Value C)) (after : List Char) :
    EndsDigits (behind command rest ++ ']' :: after) := by
  cases rest with
  | nil => exact .cons (by decide) after
  | cons next rest => exact .cons (by decide) _

/-- No value's text begins with the bracket that ends a list. -/
theorem CommandFree.ne_bracket {v : Value C} (h : v.CommandFree) (text after : List Char) :
    (v.render command).toList ++ text ≠ ']' :: after := by
  obtain ⟨first, more, hfirst, hkind⟩ := h.exists_cons command
  rw [hfirst]
  intro heq
  obtain ⟨rfl, -⟩ := List.cons.inj heq
  rw [show kindOf ']' = "" from rfl] at hkind
  cases v <;> exact absurd hkind (by simp [kindName])

/-- A value whose text is recognised wherever no digit follows it. -/
def Recognised (command : C → String) (v : Value C) : Prop :=
  ∀ w : Value C, w.CommandFree → ∀ rest rest' : List Char, EndsDigits rest → EndsDigits rest' →
    (v.render command).toList ++ rest = (w.render command).toList ++ rest' → v = w ∧ rest = rest'

/-- If the items of a list are recognised, it is clear how many there are and where they end. -/
theorem renderItems_append_inj {items items' : List (Value C)} {rest rest' : List Char}
    (hrecognised : ∀ item ∈ items, item.Recognised command)
    (hfree : ∀ item ∈ items, item.CommandFree) (hfree' : ∀ item ∈ items', item.CommandFree)
    (h : (renderItems command items).toList ++ ']' :: rest =
      (renderItems command items').toList ++ ']' :: rest') :
    items = items' ∧ rest = rest' := by
  induction items generalizing items' with
  | nil =>
    cases items' with
    | nil => exact ⟨rfl, (List.cons.inj (List.append_cancel_left h)).2⟩
    | cons item' others' =>
      rw [toList_renderItems_cons, List.append_assoc] at h
      exact absurd h.symm ((List.forall_mem_cons.mp hfree').1.ne_bracket _ _)
  | cons item others ih =>
    obtain ⟨hitem, hothers⟩ := List.forall_mem_cons.mp hrecognised
    obtain ⟨hfirst, hlater⟩ := List.forall_mem_cons.mp hfree
    rw [toList_renderItems_cons, List.append_assoc] at h
    cases items' with
    | nil => exact absurd h (hfirst.ne_bracket _ _)
    | cons item' others' =>
      obtain ⟨hfirst', hlater'⟩ := List.forall_mem_cons.mp hfree'
      rw [toList_renderItems_cons, List.append_assoc] at h
      obtain ⟨rfl, hbehind⟩ := hitem item' hfirst' _ _ (endsDigits_behind others rest)
        (endsDigits_behind others' rest') h
      cases others with
      | nil =>
        cases others' with
        | nil => exact ⟨rfl, (List.cons.inj hbehind).2⟩
        | cons next' others' => exact absurd (List.cons.inj hbehind).1 (by decide)
      | cons next others =>
        cases others' with
        | nil => exact absurd (List.cons.inj hbehind).1 (by decide)
        | cons next' others' =>
          obtain ⟨hsame, hrest⟩ := ih hothers hlater hlater' (List.cons.inj hbehind).2
          exact ⟨congrArg (List.cons item) hsame, hrest⟩

/-! ## Values -/

/-- Two texts that begin alike are of values of the same kind. -/
theorem kindName_eq_of_render {v w : Value C} (hv : v.CommandFree) (hw : w.CommandFree)
    {rest rest' : List Char}
    (h : (v.render command).toList ++ rest = (w.render command).toList ++ rest') :
    v.kindName = w.kindName := by
  obtain ⟨first, more, hfirst, hkind⟩ := hv.exists_cons command
  obtain ⟨first', more', hfirst', hkind'⟩ := hw.exists_cons command
  rw [hfirst, hfirst'] at h
  rw [← hkind, ← hkind', (List.cons.inj h).1]

/-- Values without commands are recognised. -/
theorem CommandFree.recognised {v : Value C} (hv : v.CommandFree) : v.Recognised command := by
  induction hv with
  | absent =>
    intro w hw rest rest' _ _ h
    have hkind := kindName_eq_of_render .absent hw h
    cases w with
    | absent => exact ⟨rfl, List.append_cancel_left h⟩
    | _ => exact absurd hkind (by simp [kindName])
  | int n =>
    intro w hw rest rest' hends hends' h
    have hkind := kindName_eq_of_render (.int n) hw h
    cases w with
    | int m =>
      rw [toList_render_int, toList_render_int] at h
      obtain ⟨rfl, hrest⟩ := Text.Decimal.ofInt_append_inj hends hends' h
      exact ⟨rfl, hrest⟩
    | _ => exact absurd hkind (by simp [kindName])
  | text content =>
    intro w hw rest rest' _ _ h
    have hkind := kindName_eq_of_render (.text content) hw h
    cases w with
    | text content' =>
      rw [toList_render_text, toList_render_text] at h
      obtain ⟨hcontent, hrest⟩ := Text.Quoted.quote_append_inj h
      exact ⟨congrArg Value.text (String.toList_inj.mp hcontent), hrest⟩
    | _ => exact absurd hkind (by simp [kindName])
  | player seat =>
    intro w hw rest rest' hends hends' h
    have hkind := kindName_eq_of_render (.player seat) hw h
    cases w with
    | player seat' =>
      rw [toList_render_player, toList_render_player, List.append_assoc, List.append_assoc] at h
      obtain ⟨rfl, hrest⟩ :=
        Text.Decimal.ofNat_append_inj hends hends' (List.append_cancel_left h)
      exact ⟨rfl, hrest⟩
    | _ => exact absurd hkind (by simp [kindName])
  | @list items free ih =>
    intro w hw rest rest' _ _ h
    have hkind := kindName_eq_of_render (.list free) hw h
    cases w with
    | list items' =>
      rw [toList_render_list, toList_render_list, List.cons_append, List.cons_append,
        List.append_assoc, List.append_assoc] at h
      obtain ⟨rfl, hrest⟩ := renderItems_append_inj ih free hw.items (List.cons.inj h).2
      exact ⟨rfl, hrest⟩
    | _ => exact absurd hkind (by simp [kindName])

/-- Values without commands have the same text only if they are the same. -/
theorem render_eq_iff {v w : Value C} (hv : v.CommandFree) (hw : w.CommandFree) :
    v.render command = w.render command ↔ v = w := by
  refine ⟨fun h => ?_, congrArg _⟩
  have htext : (v.render command).toList ++ [] = (w.render command).toList ++ [] := by rw [h]
  exact (hv.recognised w hw [] [] .nil .nil htext).1

/-- A list of nothing and a player. -/
def unnamed : Value Empty :=
  .list [.absent, .player 1]

/-- A list of a text that spells out the items of `unnamed`. -/
def spelled : Value Empty :=
  .list [.text "none player#1"]

example : unnamed.render Empty.elim = "[none player#1]" := by
  decide

theorem render_eq_iff_of_spelled :
    unnamed.CommandFree ∧ spelled.CommandFree ∧
      unnamed.render Empty.elim ≠ spelled.render Empty.elim := by
  have hunnamed : unnamed.CommandFree :=
    .list (List.forall_mem_cons.mpr ⟨.absent, List.forall_mem_singleton.mpr (.player 1)⟩)
  have hspelled : spelled.CommandFree := .list (List.forall_mem_singleton.mpr (.text _))
  refine ⟨hunnamed, hspelled, fun h => ?_⟩
  cases (render_eq_iff hunnamed hspelled).mp h

end Tabletop.Value
