import Mathlib.Tactic.SplitIfs
import Tabletop.Proofs.Grammar.Conforming
import Tabletop.Proofs.Grammar.Sequences
import Tabletop.Proofs.Grammar.Survivors
import Tabletop.Proofs.Text.Literals

/-!
# Grammars that never succeed on nothing

Some laws of grammars need a part that cannot succeed without consuming anything: a
repetition goes on as long as its rounds consume something, and a sequence asks for
what its first part asks for, unless it gets past that part for nothing.
`Matcher.Consuming` is the property. `Grammar.consumes` is a test for it that looks at
the grammar and at no text. Leaves have the property, but for the empty word; a
sequence needs one part that has it, an alternation needs it of all alternatives, and
a repetition needs it of its items and at least one of them.

The test is on the safe side. It does not see that some alternative is never reached,
or that an option is always taken.
-/

namespace Tabletop

universe u

variable {C : Type u}

/-- A matcher that never succeeds without consuming anything. -/
def Matcher.Consuming (matcher : Matcher C) : Prop :=
  ∀ input parsed, matcher input = .ok parsed → parsed.consumed ≠ []

/-! ## Leaves -/

namespace Leaf

theorem integer_consuming (bounds : Bounds Int) :
    Matcher.Consuming (integer bounds : Matcher C) := by
  intro input parsed h
  unfold integer at h
  split at h
  · cases h
  · rename_i literal rest hliteral
    dsimp only at h
    split_ifs at h
    cases h
    exact (Text.Decimal.isLiteral_of_literal? hliteral).ne_nil

theorem word_consuming {target : String} (htarget : target ≠ "") :
    Matcher.Consuming (word target : Matcher C) := by
  intro input parsed h
  unfold word at h
  dsimp only at h
  split_ifs at h with hshort
  cases h
  have hletters : target.toList ≠ [] := mt String.toList_eq_nil_iff.mp htarget
  have hpositive := List.length_pos_of_ne_nil hletters
  exact List.ne_nil_of_length_pos (Nat.lt_of_lt_of_le hpositive (Nat.not_lt.mp hshort))

theorem blanks_consuming : Matcher.Consuming (blanks : Matcher C) := by
  intro input parsed h
  exact (value_of_blanks h).2.1

end Leaf

/-- What is read as a name agrees with it in something. -/
theorem Candidate.read_consuming (candidates : List (Candidate C)) (exact : Bool) :
    Matcher.Consuming (read candidates exact) := by
  intro input parsed h
  obtain ⟨only, hsurvives, -, hlength, -⟩ := (read_resolves candidates exact input).reads parsed h
  have hmem : only ∈ survivors exact input candidates := by
    rw [hsurvives]
    exact List.mem_singleton_self only
  have heligible := List.mem_of_mem_filter (mem_of_mem_preferFull hmem)
  have hpositive := (of_decide_eq_true (List.mem_filter.mp heligible).2).1
  rw [agreed_of_mem_survivors hmem, ← hlength] at hpositive
  exact List.ne_nil_of_length_pos hpositive

/-! ## Repetitions -/

/-- A repetition that needs an item consumes what the first one does. -/
theorem Repetition.read_consuming {item : Matcher C} (hitem : item.Consuming)
    (delimiter : Option (Matcher C)) {count : Bounds Nat} (hsome : count.least.any (0 < ·) = true)
    (hvoid : count.isVoid = false) : Matcher.Consuming (read item delimiter count) := by
  intro input parsed h
  rw [read, if_neg (by simp [hvoid])] at h
  obtain ⟨rfl, henough⟩ := Items.parsed_of_outcome h
  obtain ⟨least, hleast, hpositive⟩ := (Option.any_eq_true _ _).mp hsome
  have hitems := henough least hleast
  clear h
  revert hitems
  unfold items
  split
  · intro hitems
    have hzero := of_decide_eq_true hpositive
    simp only [Items.none, List.length_nil] at hitems
    omega
  · rename_i first hfirst
    have hconsumed := hitem input first hfirst
    intro _
    split_ifs <;> simp [Items.before, hconsumed]

/-! ## Grammars -/

namespace Grammar

mutual

/-- Whether it can be seen of a grammar, without a text, that it never succeeds on nothing. -/
def consumes : Grammar C → Bool
  | .int _ | .choice _ _ | .player | .space => true
  | .token word => word != ""
  | .oneOf alternatives => allConsume alternatives
  | .chain parts => anyConsumes parts
  | .many item count _ => item.consumes && count.least.any (0 < ·) && !count.isVoid
  | .opt _ => false
  | .doc _ _ inner => inner.consumes
  | .map _ inner => inner.consumes

def allConsume : List (Grammar C) → Bool
  | [] => true
  | g :: rest => g.consumes && allConsume rest

def anyConsumes : List (Grammar C) → Bool
  | [] => false
  | g :: rest => g.consumes || anyConsumes rest

end

variable (names : List String)

mutual

/-- The test is right: a grammar that passes it never succeeds without consuming anything. -/
theorem run_consuming : (g : Grammar C) → g.consumes = true → Matcher.Consuming (g.run names)
  | .int bounds, _ => by
    intro input parsed h
    rw [run] at h
    exact Leaf.integer_consuming bounds input parsed h
  | .token word, hword => by
    intro input parsed h
    rw [run] at h
    rw [consumes, bne_iff_ne] at hword
    exact Leaf.word_consuming hword input parsed h
  | .choice candidates exact, _ => by
    intro input parsed h
    rw [run] at h
    exact Candidate.read_consuming candidates exact input parsed h
  | .oneOf alternatives, hall => by
    intro input parsed h
    rw [run] at h
    rw [consumes] at hall
    exact runFirst_consuming alternatives hall .empty input parsed h
  | .chain parts, hany => by
    intro input parsed h
    rw [run] at h
    rw [consumes] at hany
    cases hparts : runAll names parts input with
    | error why =>
      rw [hparts] at h
      cases h
    | ok items =>
      rw [hparts] at h
      cases h
      exact runAll_consuming parts hany input items hparts
  | .many item count none, hitem => by
    intro input parsed h
    rw [run] at h
    simp only [consumes, Bool.and_eq_true, Bool.not_eq_true'] at hitem
    obtain ⟨⟨hitem, hsome⟩, hvoid⟩ := hitem
    exact Repetition.read_consuming (run_consuming item hitem) _ hsome hvoid input parsed h
  | .many item count (some delimiter), hitem => by
    intro input parsed h
    rw [run] at h
    simp only [consumes, Bool.and_eq_true, Bool.not_eq_true'] at hitem
    obtain ⟨⟨hitem, hsome⟩, hvoid⟩ := hitem
    exact Repetition.read_consuming (run_consuming item hitem) _ hsome hvoid input parsed h
  | .opt inner, hnone => by
    rw [consumes] at hnone
    cases hnone
  | .doc _ _ inner, hinner => by
    intro input parsed h
    rw [run] at h
    rw [consumes] at hinner
    exact run_consuming inner hinner input parsed h
  | .player, _ => by
    intro input parsed h
    rw [run] at h
    exact Candidate.read_consuming _ false input parsed h
  | .space, _ => by
    intro input parsed h
    rw [run] at h
    exact Leaf.blanks_consuming input parsed h
  | .map f inner, hinner => by
    intro input parsed h
    rw [run] at h
    rw [consumes] at hinner
    cases hrun : inner.run names input with
    | error why =>
      rw [hrun] at h
      cases h
    | ok before =>
      rw [hrun] at h
      cases h
      exact run_consuming inner hinner input before hrun

theorem runFirst_consuming : (gs : List (Grammar C)) → allConsume gs = true →
    (deepest : Deepest) → Matcher.Consuming (runFirst names gs deepest)
  | [], _, deepest => by
    intro input parsed h
    rw [runFirst] at h
    cases h
  | g :: rest, hall, deepest => by
    intro input parsed h
    rw [allConsume, Bool.and_eq_true] at hall
    rw [runFirst] at h
    cases hrun : g.run names input with
    | ok first =>
      rw [hrun] at h
      cases h
      exact run_consuming g hall.1 input parsed hrun
    | error why =>
      rw [hrun] at h
      exact runFirst_consuming rest hall.2 _ input parsed h

theorem runAll_consuming : (gs : List (Grammar C)) → anyConsumes gs = true →
    (input : List Char) → (items : Items C) → runAll names gs input = .ok items →
    items.consumed ≠ []
  | [], hany, input, items, _ => by
    rw [anyConsumes] at hany
    cases hany
  | g :: rest, hany, input, items, h => by
    rw [anyConsumes, Bool.or_eq_true] at hany
    obtain ⟨first, others, hrun, hrest, rfl⟩ := exists_of_runAll h
    rcases hany with hfirst | hothers
    · exact List.append_ne_nil_of_left_ne_nil (run_consuming g hfirst input first hrun) _
    · exact List.append_ne_nil_of_right_ne_nil _
        (runAll_consuming rest hothers first.remaining others hrest)

end

end Grammar

end Tabletop
