import Mathlib.Tactic.SplitIfs
import Tabletop.Proofs.Grammar.Alternation

/-!
# Nodes and their rejections

Rejections start in leaves and repetitions, which speak for themselves. On the way up
sequences move them and alternations put several together; options hide them, and the
other nodes pass them on. So what holds of the rejections of leaves and repetitions
holds of all, as long as moving and putting together keep it. What has to be known of
the nodes for this, such as the words they contain, is known `Throughout` the grammar.
-/

namespace Tabletop

universe u

variable {C : Type u}

/-- The kinds of nodes that read text themselves. -/
def NodeKind.leaves : List NodeKind :=
  [.int, .token, .choice, .player, .space]

/-- A repetition that fails says how many items it found, and nothing else. -/
theorem Items.rejection_of_outcome {count : Bounds Nat} {items : Items C} {why : Rejection}
    (h : items.outcome count = .error why) :
    ∃ least, why = ⟨some ("expected at least " ++ Text.Decimal.natText least ++
      " items but could only parse " ++ Text.Decimal.natText items.values.length), [],
      Text.width items.consumed⟩ := by
  unfold outcome at h
  split at h
  · cases h
  · rename_i least _
    split_ifs at h
    cases h
    exact ⟨least, rfl⟩

namespace Grammar

/-- The direct children of a node, a repetition's delimiter included. -/
def children : Grammar C → List (Grammar C)
  | .oneOf alternatives => alternatives
  | .chain parts => parts
  | .many item _ delimiter => item :: delimiter.toList
  | .opt inner => [inner]
  | .doc _ _ inner => [inner]
  | .map _ inner => [inner]
  | _ => []

/-- Something holds of a grammar and of every grammar in it. -/
inductive Throughout (p : Grammar C → Prop) : Grammar C → Prop where
  | node {g : Grammar C} (here : p g) (below : ∀ child ∈ g.children, Throughout p child) :
      Throughout p g

theorem Throughout.children {p : Grammar C → Prop} {g : Grammar C} (h : g.Throughout p) :
    ∀ child ∈ g.children, child.Throughout p := by
  cases h with
  | node here below => exact below

/-- Every failure on record is some grammar's. -/
theorem AllFail.exists_of_mem {names : List String} {input : List Char} {gs : List (Grammar C)}
    {failures : List Rejection} (h : AllFail names input gs failures) :
    ∀ why ∈ failures, ∃ g ∈ gs, g.run names input = .error why := by
  induction h with
  | nil => exact fun _ hmem => absurd hmem List.not_mem_nil
  | @cons g why gs failures hg _ ih =>
    refine List.forall_mem_cons.mpr ⟨⟨g, List.mem_cons_self, hg⟩, fun other hmem => ?_⟩
    obtain ⟨found, hfound, hrun⟩ := ih other hmem
    exact ⟨found, List.mem_cons_of_mem g hfound, hrun⟩

/-- A property that rejections have where they start and keep on the way up, in grammars whose
nodes have another. -/
structure Pervades (names : List String) (p : Grammar C → Prop) (q : Rejection → Prop) : Prop where
  leaf : ∀ {g : Grammar C} {input : List Char} {why : Rejection}, g.kind ∈ NodeKind.leaves → p g →
    g.run names input = .error why → q why
  repetition : ∀ {count : Bounds Nat} {items : Items C} {why : Rejection},
    items.outcome count = .error why → q why
  alternation : ∀ {alternatives : List (Grammar C)} {input : List Char}
    {failures : List Rejection}, p (.oneOf alternatives) →
    AllFail names input alternatives failures → (∀ why ∈ failures, q why) →
      q (Rejection.summary failures)
  moved : ∀ {why : Rejection} (bytes : Nat), q why → q (why.shifted bytes)

namespace Pervades

variable {names : List String} {p : Grammar C → Prop} {q : Rejection → Prop}

/-- The rejection of a sequence is that of a part, moved. -/
theorem of_runAll (h : Pervades names p q) {parts : List (Grammar C)}
    (hparts : ∀ g ∈ parts, ∀ input why, g.run names input = .error why → q why)
    {input : List Char} {why : Rejection} (hrun : runAll names parts input = .error why) :
    q why := by
  induction parts generalizing input why with
  | nil =>
    rw [runAll] at hrun
    cases hrun
  | cons g rest ih =>
    obtain ⟨hfirst, hrest⟩ := List.forall_mem_cons.mp hparts
    rw [runAll] at hrun
    cases hg : g.run names input with
    | error early =>
      rw [hg] at hrun
      cases hrun
      exact hfirst input why hg
    | ok parsed =>
      rw [hg] at hrun
      dsimp only at hrun
      cases hlater : runAll names rest parsed.remaining with
      | ok items =>
        rw [hlater] at hrun
        cases hrun
      | error late =>
        rw [hlater] at hrun
        cases hrun
        exact h.moved _ (ih hrest hlater)

/-- A repetition's rejection is not that of an item. -/
theorem of_read (h : Pervades names p q) {item : Matcher C} {delimiter : Option (Matcher C)}
    {count : Bounds Nat} {input : List Char} {why : Rejection}
    (hread : Repetition.read item delimiter count input = .error why) : q why := by
  unfold Repetition.read at hread
  split_ifs at hread
  exact h.repetition hread

/-- The rejection of an alternation is put together from those of all alternatives. -/
theorem of_oneOf (h : Pervades names p q) {alternatives : List (Grammar C)}
    (hhere : p (.oneOf alternatives))
    (halternatives : ∀ g ∈ alternatives, ∀ input why, g.run names input = .error why → q why)
    {input : List Char} {why : Rejection}
    (hrun : (oneOf alternatives).run names input = .error why) : q why := by
  rcases firstReads_or_allFail names input alternatives with ⟨parsed, hreads⟩ | ⟨failures, hfail⟩
  · rw [hreads.run_oneOf] at hrun
    cases hrun
  · rw [run_oneOf_of_allFail hfail] at hrun
    cases hrun
    refine h.alternation hhere hfail (fun why hwhy => ?_)
    obtain ⟨g, hg, hfailed⟩ := hfail.exists_of_mem why hwhy
    exact halternatives g hg input why hfailed

/-- Every rejection has the property, if all nodes of the grammar have theirs. -/
theorem of_run (h : Pervades names p q) {g : Grammar C} (hg : g.Throughout p) {input : List Char}
    {why : Rejection} (hrun : g.run names input = .error why) : q why := by
  induction hg generalizing input why with
  | @node g here below ih =>
    cases g with
    | oneOf alternatives => exact h.of_oneOf here (fun g hg _ _ => ih g hg) hrun
    | chain parts =>
      rw [run] at hrun
      cases hparts : runAll names parts input with
      | ok items =>
        rw [hparts] at hrun
        cases hrun
      | error failure =>
        rw [hparts] at hrun
        cases hrun
        exact h.of_runAll (fun g hg _ _ => ih g hg) hparts
    | many item count delimiter =>
      cases delimiter <;> rw [run] at hrun <;> exact h.of_read hrun
    | opt inner =>
      rw [run] at hrun
      cases hinner : inner.run names input <;> rw [hinner] at hrun <;> cases hrun
    | doc name about inner =>
      rw [run] at hrun
      exact ih inner List.mem_cons_self hrun
    | map f inner =>
      rw [run] at hrun
      cases hinner : inner.run names input with
      | ok parsed =>
        rw [hinner] at hrun
        cases hrun
      | error failure =>
        rw [hinner] at hrun
        cases hrun
        exact ih inner List.mem_cons_self hinner
    | _ => exact h.leaf (by simp [kind, NodeKind.leaves]) here hrun

end Pervades

end Grammar

end Tabletop
