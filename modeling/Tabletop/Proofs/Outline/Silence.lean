import Mathlib.Tactic.SplitIfs
import Tabletop.Grammar.Run
import Tabletop.Outline.Help
import Tabletop.Proofs.Grammar.Splitting

/-!
# Help hides nothing that could be typed

Some outlines have no help at all: alternations of nothing, repetitions that allow no
item, and whatever is built from these without adding anything of its own. A grammar
with such an outline may well succeed, but it never consumes any text, so a player
misses nothing by not being told about it.

There is one way around that. Between items that are never shown and consume nothing,
the delimiter of a repetition is still read, and it does consume; so it is asked that
no repetition with a delimiter has such an item.
-/

namespace Tabletop

universe u

/-! ## Outlines without help -/

namespace Outline

theorem Entry.join_eq_none_iff {entries : List Entry} : join entries = none ↔ entries = [] := by
  unfold join
  split <;> simp

theorem repeatedForm_eq_none_iff {count : Bounds Nat} {form : String} :
    repeatedForm count form = none ↔ count.isVoid = true := by
  unfold repeatedForm
  split_ifs with hvoid <;> simp [hvoid]

mutual

/-- Whether an outline has no help. Everything that reads text itself has an entry, and so has a
sequence, if only a blank one. -/
def isSilent : Outline → Bool
  | .oneOf alternatives => areSilent alternatives
  | .many item count _ => item.isSilent || count.isVoid
  | .opt inner => inner.isSilent
  | .doc _ _ inner => inner.isSilent
  | .int _ | .token _ | .choice _ _ | .chain _ | .player | .space => false

def areSilent : List Outline → Bool
  | [] => true
  | o :: rest => o.isSilent && areSilent rest

end

mutual

/-- The label changes what an entry says, never whether there is one. -/
theorem entries_eq_nil_iff : (o : Outline) → (label : Option String) →
    (o.entries label = [] ↔ o.isSilent = true)
  | .int _, _ | .token _, _ | .choice _ _, _ | .chain _, _ | .player, _ | .space, _ => by
    simp [entries, isSilent]
  | .oneOf alternatives, label => by
    rw [entries, isSilent, List.filterMap_eq_nil_iff]
    exact joined_eq_none_iff alternatives label
  | .many item count _, label => by
    have hitem := entries_eq_nil_iff item label
    rw [entries, isSilent, Option.toList_eq_nil_iff, Option.bind_eq_none_iff, Bool.or_eq_true,
      ← hitem, ← Entry.join_eq_none_iff]
    cases hjoin : Entry.join (item.entries label) <;> simp [repeatedForm_eq_none_iff]
  | .opt inner, label => by
    rw [entries, isSilent, Option.toList_eq_nil_iff, Option.map_eq_none_iff,
      Entry.join_eq_none_iff]
    exact entries_eq_nil_iff inner label
  | .doc name _ inner, _ => by
    rw [entries, isSilent, Option.toList_eq_nil_iff, Option.map_eq_none_iff,
      Entry.join_eq_none_iff]
    exact entries_eq_nil_iff inner (some name)

/-- Outlines that leave no entry in the place of one. -/
theorem joined_eq_none_iff : (os : List Outline) → (label : Option String) →
    ((∀ place ∈ joined label os, id place = none) ↔ areSilent os = true)
  | [], _ => by simp [joined, areSilent]
  | o :: rest, label => by
    rw [joined, areSilent, List.forall_mem_cons, Bool.and_eq_true, id, Entry.join_eq_none_iff,
      entries_eq_nil_iff o label, joined_eq_none_iff rest label]

end

theorem help_eq_nil_iff (o : Outline) : o.help = [] ↔ o.isSilent = true :=
  entries_eq_nil_iff o none

end Outline

/-! ## Matchers that consume nothing -/

variable {C : Type u}

/-- A matcher that consumes nothing, whether or not it succeeds. -/
def Matcher.Idle (matcher : Matcher C) : Prop :=
  ∀ input parsed, matcher input = .ok parsed → parsed.consumed = []

namespace Repetition

variable {item : Matcher C}

theorem more_consumed (hitem : item.Idle) (count : Bounds Nat) (done : Nat)
    (input : List Char) : (more item none count done input).consumed = [] := by
  fun_induction more item none count done input with
  | case1 => rfl
  | case2 => rfl
  | case3 done input _ next hnext _ ih =>
    rw [Items.before, hitem input next (ok_of_round_none hnext), ih]
    rfl
  | case4 done input _ next hnext _ =>
    rw [Items.before, hitem input next (ok_of_round_none hnext)]
    rfl

theorem items_consumed (hitem : item.Idle) (count : Bounds Nat) (input : List Char) :
    (items item none count input).consumed = [] := by
  unfold items
  split
  · rfl
  · rename_i first hfirst
    have hconsumed := hitem input first hfirst
    split_ifs
    · rw [Items.before, hconsumed]
      rfl
    · rw [Items.before, hconsumed, more_consumed hitem]
      rfl

/-- Items that consume nothing do so in any number. -/
theorem read_idle (hitem : item.Idle) (count : Bounds Nat) :
    Matcher.Idle (read item none count) := by
  intro input parsed h
  unfold read at h
  split_ifs at h
  · cases h
    rfl
  · obtain ⟨rfl, -⟩ := Items.parsed_of_outcome h
    exact items_consumed hitem count input

/-- No items consume nothing, whatever they and their delimiters are. -/
theorem read_idle_of_isVoid (item : Matcher C) (delimiter : Option (Matcher C))
    {count : Bounds Nat} (h : count.isVoid = true) :
    Matcher.Idle (read item delimiter count) := by
  intro input parsed hread
  rw [read, if_pos h] at hread
  cases hread
  rfl

end Repetition

/-! ## Grammars without help -/

namespace Grammar

mutual

/-- In a repetition with a delimiter, the item has help. -/
def ShowsItems : Grammar C → Prop
  | .many item _ (some delimiter) =>
    item.outline.help ≠ [] ∧ item.ShowsItems ∧ delimiter.ShowsItems
  | .many item _ none => item.ShowsItems
  | .oneOf alternatives => ShowAllItems alternatives
  | .chain parts => ShowAllItems parts
  | .opt inner => inner.ShowsItems
  | .doc _ _ inner => inner.ShowsItems
  | .map _ inner => inner.ShowsItems
  | .int _ | .token _ | .choice _ _ | .player | .space => True

def ShowAllItems : List (Grammar C) → Prop
  | [] => True
  | g :: rest => g.ShowsItems ∧ ShowAllItems rest

end

variable (names : List String)

mutual

theorem run_idle : (g : Grammar C) → g.ShowsItems → g.outline.isSilent = true →
    Matcher.Idle (g.run names)
  | .int _, _, hsilent | .token _, _, hsilent | .choice _ _, _, hsilent | .chain _, _, hsilent
  | .player, _, hsilent | .space, _, hsilent => by
    cases hsilent
  | .oneOf alternatives, hshown, hsilent => by
    intro input parsed h
    rw [run] at h
    exact runFirst_consumed alternatives hshown hsilent .empty input parsed h
  | .many item count none, hshown, hsilent => by
    intro input parsed h
    rw [run] at h
    rw [outline, Outline.isSilent, Bool.or_eq_true] at hsilent
    rcases hsilent with hitem | hvoid
    · exact Repetition.read_idle (run_idle item hshown hitem) count input parsed h
    · exact Repetition.read_idle_of_isVoid _ _ hvoid input parsed h
  | .many item count (some delimiter), hshown, hsilent => by
    intro input parsed h
    rw [run] at h
    rw [outline, Outline.isSilent, Bool.or_eq_true] at hsilent
    -- the item has help, so it must be the count that allows no item
    rcases hsilent with hitem | hvoid
    · exact absurd ((Outline.help_eq_nil_iff _).mpr hitem) hshown.1
    · exact Repetition.read_idle_of_isVoid _ _ hvoid input parsed h
  | .opt inner, hshown, hsilent => by
    intro input parsed h
    rw [run] at h
    cases hinner : inner.run names input with
    | error why =>
      rw [hinner] at h
      cases h
      rfl
    | ok found =>
      rw [hinner] at h
      exact run_idle inner hshown hsilent input parsed (hinner.trans h)
  | .doc _ _ inner, hshown, hsilent => by
    intro input parsed h
    rw [run] at h
    exact run_idle inner hshown hsilent input parsed h
  | .map f inner, hshown, hsilent => by
    intro input parsed h
    rw [run] at h
    cases hinner : inner.run names input with
    | error why =>
      rw [hinner] at h
      cases h
    | ok found =>
      rw [hinner] at h
      cases h
      exact run_idle inner hshown hsilent input found hinner

/-- The alternative that succeeds is one of those without help. -/
theorem runFirst_consumed : (gs : List (Grammar C)) → ShowAllItems gs →
    Outline.areSilent (outlines gs) = true → (deepest : Deepest) → (input : List Char) →
    (parsed : Parsed C) → runFirst names gs deepest input = .ok parsed → parsed.consumed = []
  | [], _, _, deepest, input, parsed, h => by
    rw [runFirst] at h
    cases h
  | g :: rest, hshown, hsilent, deepest, input, parsed, h => by
    rw [outlines, Outline.areSilent, Bool.and_eq_true] at hsilent
    rw [runFirst] at h
    cases hrun : g.run names input with
    | error why =>
      rw [hrun] at h
      exact runFirst_consumed rest hshown.2 hsilent.2 _ input parsed h
    | ok found =>
      rw [hrun] at h
      exact run_idle g hshown.1 hsilent.1 input parsed (hrun.trans h)

end

/-- A grammar for which there is no help leaves every text that it reads as it was. -/
theorem parse_of_help_eq_nil {g : Grammar C} (hshown : g.ShowsItems) (hhelp : g.outline.help = [])
    (input : String) (names : List String) {parsed : Parsed C}
    (h : g.parse input names = .ok parsed) :
    parsed.consumed = [] ∧ parsed.remaining = input.toList := by
  have hsilent := (Outline.help_eq_nil_iff g.outline).mp hhelp
  have hconsumed := run_idle names g hshown hsilent input.toList parsed h
  have hsplit := run_fits names g input.toList
  rw [show g.run names input.toList = .ok parsed from h] at hsplit
  refine ⟨hconsumed, ?_⟩
  rw [← hsplit.split, hconsumed, List.nil_append]

/-- Nothing to choose from, any number of nothings, and no cards at all. -/
def hidden : Grammar Empty :=
  .oneOf [.oneOf [], .many (.doc "nothing" (some "for nobody") (.opt (.oneOf []))) .none none,
    .many (.token "card") ⟨none, some 0⟩ (some .space)]

theorem parse_of_hidden :
    hidden.ShowsItems ∧ hidden.outline.help = [] ∧
      hidden.parse "card card" [] = .ok ⟨.list [.absent], [], "card card".toList⟩ ∧
      ∀ parsed, hidden.parse "card card" [] = .ok parsed →
        parsed.consumed = [] ∧ parsed.remaining = "card card".toList := by
  have hshown : hidden.ShowsItems :=
    ⟨trivial, trivial, ⟨List.cons_ne_nil _ _, trivial, trivial⟩, trivial⟩
  have hhelp : hidden.outline.help = [] := rfl
  exact ⟨hshown, hhelp, rfl, fun parsed h => parse_of_help_eq_nil hshown hhelp _ _ h⟩

/-- Without the condition on items: no help for a comma between two nothings, but it is consumed. -/
example :
    let commas : Grammar Empty := .many (.opt (.oneOf [])) .none (some (.token ","))
    commas.outline.help = [] ∧
      (commas.parse "," []).toOption.map (·.consumed) = some [','] := by
  cbv

end Grammar

end Tabletop
