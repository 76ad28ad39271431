import Mathlib.Tactic.SplitIfs
import Tabletop.Trace.Observe

/-!
# Observation does not interfere

A recorder is handed through a reading and comes back changed, but no node asks it
anything. The outcome of a node under observation is therefore that of the node by
itself, wherever in a grammar and in a text the node stands, and whatever recorder
it is given: enabled or not, limited in depth or not, with any journal.
-/

namespace Tabletop

universe u

open Trace

variable {C : Type u}

/-- An observed matcher whose outcome does not depend on the recorder. -/
def Observed.Reads (observed : Observed C) (matcher : Matcher C) : Prop :=
  ∀ input recorder, (observed input recorder).1 = matcher input

theorem Trace.Recorder.around_fst (recorder : Recorder) (kind : NodeKind) (depth position : Nat)
    (run : Recorder → Outcome C × Recorder) :
    (recorder.around kind depth position run).1 =
      (run (recorder.record depth (.attempt kind position))).1 := rfl

/-! ## Repetitions -/

namespace Repetition

variable {item : Observed C} {item' : Matcher C} {delimiter : Option (Observed C)}
  {delimiter' : Option (Matcher C)}

theorem observeRound_fst (hitem : item.Reads item')
    (hdelimiter : Option.Rel Observed.Reads delimiter delimiter') (input : List Char)
    (recorder : Recorder) :
    (observeRound item delimiter input recorder).1 = round item' delimiter' input := by
  unfold observeRound round
  cases hdelimiter with
  | none =>
    dsimp only
    rw [hitem]
  | @some delimiter delimiter' hmarks =>
    have hmark := hmarks input recorder
    dsimp only
    rw [← hmark]
    obtain ⟨mark, after⟩ := delimiter input recorder
    cases mark with
    | error why => rfl
    | ok mark =>
      have hnext := hitem mark.remaining after
      dsimp only
      rw [← hnext]
      obtain ⟨next, last⟩ := item mark.remaining after
      cases next <;> rfl

theorem observeMore_fst (hitem : item.Reads item')
    (hdelimiter : Option.Rel Observed.Reads delimiter delimiter') (count : Bounds Nat) (done : Nat)
    (input : List Char) (recorder : Recorder) :
    (observeMore item delimiter count done input recorder).1 =
      more item' delimiter' count done input := by
  fun_induction observeMore item delimiter count done input recorder with
  | case1 done input recorder hreached => rw [more, if_pos hreached]
  | case2 done input recorder hreached after hround =>
    have hrounds := observeRound_fst hitem hdelimiter input recorder
    rw [hround] at hrounds
    rw [more, if_neg hreached, ← hrounds]
  | case3 done input recorder hreached next after hround hless rest last hrest ih =>
    have hrounds := observeRound_fst hitem hdelimiter input recorder
    rw [hround] at hrounds
    rw [more, if_neg hreached, ← hrounds]
    dsimp only
    rw [if_pos hless, ← ih, hrest]
  | case4 done input recorder hreached next after hround hless =>
    have hrounds := observeRound_fst hitem hdelimiter input recorder
    rw [hround] at hrounds
    rw [more, if_neg hreached, ← hrounds]
    dsimp only
    rw [if_neg hless]

theorem observeItems_fst (hitem : item.Reads item')
    (hdelimiter : Option.Rel Observed.Reads delimiter delimiter') (count : Bounds Nat)
    (input : List Char) (recorder : Recorder) :
    (observeItems item delimiter count input recorder).1 = items item' delimiter' count input := by
  have hnone : delimiter.isNone = delimiter'.isNone := by cases hdelimiter <;> rfl
  unfold observeItems items
  rw [hnone, ← hitem input recorder]
  obtain ⟨first, after⟩ := item input recorder
  cases first with
  | error why => rfl
  | ok first =>
    dsimp only
    split_ifs
    · rfl
    · rw [← observeMore_fst hitem hdelimiter count 1 first.remaining after]

theorem observe_reads (hitem : item.Reads item')
    (hdelimiter : Option.Rel Observed.Reads delimiter delimiter') (count : Bounds Nat) :
    (observe item delimiter count).Reads (read item' delimiter' count) := by
  intro input recorder
  unfold observe read
  split_ifs
  · rfl
  · rw [← observeItems_fst hitem hdelimiter count input recorder]

end Repetition

/-! ## Grammars -/

namespace Grammar

variable (names : List String) (total : Nat)

mutual

/-- At any depth, in a text of any width and for any recorder, the outcome is that of the node by
itself. -/
theorem observe_reads : (g : Grammar C) → (depth : Nat) →
    (g.observe names total depth).Reads (g.run names)
  | .int bounds, depth => by
    intro input recorder
    rw [observe, run, Recorder.around_fst]
  | .token word, depth => by
    intro input recorder
    rw [observe, run, Recorder.around_fst]
  | .choice candidates exact, depth => by
    intro input recorder
    rw [observe, run, Recorder.around_fst]
  | .oneOf alternatives, depth => by
    intro input recorder
    rw [observe, run, Recorder.around_fst]
    exact observeFirst_reads alternatives (depth + 1) .empty input _
  | .chain parts, depth => by
    intro input recorder
    rw [observe, run, Recorder.around_fst]
    exact congrArg (Except.map fun items : Items C =>
      (⟨.list items.values, items.consumed, items.remaining⟩ : Parsed C))
      (observeAll_fst parts (depth + 1) input _)
  | .many item count none, depth => by
    intro input recorder
    rw [observe, run, Recorder.around_fst]
    exact Repetition.observe_reads (observe_reads item (depth + 1)) .none count input _
  | .many item count (some delimiter), depth => by
    intro input recorder
    rw [observe, run, Recorder.around_fst]
    exact Repetition.observe_reads (observe_reads item (depth + 1))
      (.some (observe_reads delimiter (depth + 1))) count input _
  | .opt inner, depth => by
    intro input recorder
    rw [observe, run, Recorder.around_fst]
    exact congrArg (orAbsent input) (observe_reads inner (depth + 1) input _)
  | .doc _ _ inner, depth => by
    intro input recorder
    rw [observe, run, Recorder.around_fst]
    exact observe_reads inner (depth + 1) input _
  | .player, depth => by
    intro input recorder
    rw [observe, run, Recorder.around_fst]
  | .space, depth => by
    intro input recorder
    rw [observe, run, Recorder.around_fst]
  | .map f inner, depth => by
    intro input recorder
    rw [observe, run, Recorder.around_fst]
    exact congrArg (mapValue f) (observe_reads inner (depth + 1) input _)

theorem observeFirst_reads : (gs : List (Grammar C)) → (depth : Nat) → (deepest : Deepest) →
    (observeFirst names total gs depth deepest).Reads (runFirst names gs deepest)
  | [], depth, deepest => by
    intro input recorder
    rw [observeFirst, runFirst]
  | g :: rest, depth, deepest => by
    intro input recorder
    rw [observeFirst, runFirst, ← observe_reads g depth input recorder]
    obtain ⟨outcome, after⟩ := g.observe names total depth input recorder
    cases outcome with
    | ok parsed => rfl
    | error why => exact observeFirst_reads rest depth (deepest.add why) input after

theorem observeAll_fst : (gs : List (Grammar C)) → (depth : Nat) → (input : List Char) →
    (recorder : Recorder) →
    (observeAll names total gs depth input recorder).1 = runAll names gs input
  | [], depth, input, recorder => by rw [observeAll, runAll]
  | g :: rest, depth, input, recorder => by
    rw [observeAll, runAll, ← observe_reads g depth input recorder]
    obtain ⟨outcome, after⟩ := g.observe names total depth input recorder
    cases outcome with
    | error why => rfl
    | ok first =>
      have hrest := observeAll_fst rest depth first.remaining after
      dsimp only
      rw [← hrest]
      obtain ⟨items, last⟩ := observeAll names total rest depth first.remaining after
      cases items <;> rfl

end

/-- Recording a reading does not change its outcome, whatever recorder it starts with. -/
theorem parseTraced_fst (g : Grammar C) (input : String) (recorder : Recorder) :
    (g.parseTraced input names recorder).1 = g.parse input names :=
  observe_reads names (Text.width input.toList) g 0 input.toList recorder

end Grammar

end Tabletop
