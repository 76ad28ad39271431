import Mathlib.Tactic.SplitIfs
import Tabletop.Trace.Observe

/-!
# Keeping count of the depth

An observed reading tells every node how deep it stands. Here the depth is a counter
instead, handed on together with the recorder: it goes up when a node begins and down
when the node ends. A node decides once, when it begins, whether it is recorded, and
its end is recorded at whatever the counter then says.

Both readings are the same. No node asks for anything but a run of its children, so
whichever way a run ends, the counter comes back as it was; and a recorder's settings
do not change, so that what was decided at the beginning still holds at the end.
-/

namespace Tabletop

universe u

open Trace

variable {C : Type u}

/-- What a reading hands on: the recorder, and how deep the reading is in the grammar. -/
structure Trace.Context where
  recorder : Recorder
  depth : Nat

namespace Trace.Context

/-- Whether events are wanted at the present depth. -/
def wants (context : Context) : Bool :=
  context.recorder.wantsDepth context.depth

/-- Records an event at the present depth. -/
def record (context : Context) (event : Event) : Context :=
  { context with recorder := context.recorder.record context.depth event }

/-- Runs a node one level deeper, between records of its attempt and its end. -/
def around (context : Context) (kind : NodeKind) (position : Nat)
    (run : Context → Outcome C × Context) : Outcome C × Context :=
  let wanted := context.wants
  let begun := if wanted then context.record (.attempt kind position) else context
  let (outcome, after) := run { begun with depth := begun.depth + 1 }
  let ended := { after with depth := after.depth - 1 }
  (outcome, if wanted then ended.record (.ofOutcome kind position outcome) else ended)

end Trace.Context

/-- A matcher that hands on a context. -/
abbrev Counted (C : Type u) := List Char → Context → Outcome C × Context

namespace Repetition

/-- A round after the first. -/
def countRound (item : Counted C) (delimiter : Option (Counted C)) (input : List Char)
    (context : Context) : Option (Parsed C) × Context :=
  match delimiter with
  | none =>
    let (outcome, context) := item input context
    (outcome.toOption, context)
  | some delimiter =>
    match delimiter input context with
    | (.error _, context) => (none, context)
    | (.ok mark, context) =>
      match item mark.remaining context with
      | (.error _, context) => (none, context)
      | (.ok next, context) =>
        (some { next with consumed := mark.consumed ++ next.consumed }, context)

/-- The rounds after `done` items have been read. -/
def countMore (item : Counted C) (delimiter : Option (Counted C)) (count : Bounds Nat)
    (done : Nat) (input : List Char) (context : Context) : Items C × Context :=
  if count.isReached done then (.none input, context)
  else
    match countRound item delimiter input context with
    | (none, context) => (.none input, context)
    | (some next, context) =>
      if next.remaining.length < input.length then
        let (rest, context) := countMore item delimiter count (done + 1) next.remaining context
        (.before next rest, context)
      else (.before next (.none next.remaining), context)
termination_by input.length

/-- All rounds. -/
def countItems (item : Counted C) (delimiter : Option (Counted C)) (count : Bounds Nat)
    (input : List Char) (context : Context) : Items C × Context :=
  match item input context with
  | (.error _, context) => (.none input, context)
  | (.ok first, context) =>
    if delimiter.isNone && stalled input first then
      (.before first (.none first.remaining), context)
    else
      let (rest, context) := countMore item delimiter count 1 first.remaining context
      (.before first rest, context)

/-- Reads a repetition. -/
def readCounting (item : Counted C) (delimiter : Option (Counted C)) (count : Bounds Nat) :
    Counted C := fun input context =>
  if count.isVoid then (.ok ⟨.list [], [], input⟩, context)
  else
    let (items, context) := countItems item delimiter count input context
    (items.outcome count, context)

end Repetition

namespace Grammar

mutual

/-- Reads the beginning of a text whose whole is `total` bytes wide, keeping count of the depth. -/
def runCounting (names : List String) (total : Nat) : Grammar C → Counted C
  | .int bounds, input, context =>
    context.around .int (total - Text.width input) fun context =>
      (Leaf.integer bounds input, context)
  | .token word, input, context =>
    context.around .token (total - Text.width input) fun context =>
      (Leaf.word word input, context)
  | .choice candidates exact, input, context =>
    context.around .choice (total - Text.width input) fun context =>
      (Candidate.read candidates exact input, context)
  | .oneOf alternatives, input, context =>
    context.around .oneOf (total - Text.width input) fun context =>
      countFirst names total alternatives .empty input context
  | .chain parts, input, context =>
    context.around .chain (total - Text.width input) fun context =>
      let (items, context) := countAll names total parts input context
      (items.map fun items => ⟨.list items.values, items.consumed, items.remaining⟩, context)
  | .many item count none, input, context =>
    context.around .many (total - Text.width input) fun context =>
      Repetition.readCounting (item.runCounting names total) none count input context
  | .many item count (some delimiter), input, context =>
    context.around .many (total - Text.width input) fun context =>
      Repetition.readCounting (item.runCounting names total)
        (some (delimiter.runCounting names total)) count input context
  | .opt inner, input, context =>
    context.around .opt (total - Text.width input) fun context =>
      let (outcome, context) := inner.runCounting names total input context
      (orAbsent input outcome, context)
  | .doc _ _ inner, input, context =>
    context.around .doc (total - Text.width input) fun context =>
      inner.runCounting names total input context
  | .player, input, context =>
    context.around .player (total - Text.width input) fun context =>
      (Candidate.read (Candidate.ofPlayers names) false input, context)
  | .space, input, context =>
    context.around .space (total - Text.width input) fun context =>
      (Leaf.blanks input, context)
  | .map f inner, input, context =>
    context.around .map (total - Text.width input) fun context =>
      let (outcome, context) := inner.runCounting names total input context
      (mapValue f outcome, context)

/-- The first alternative to succeed. -/
def countFirst (names : List String) (total : Nat) : List (Grammar C) → Deepest → Counted C
  | [], deepest, _, context => (.error deepest.merged, context)
  | g :: rest, deepest, input, context =>
    match g.runCounting names total input context with
    | (.ok parsed, context) => (.ok parsed, context)
    | (.error why, context) => countFirst names total rest (deepest.add why) input context

/-- All parts in turn. -/
def countAll (names : List String) (total : Nat) :
    List (Grammar C) → List Char → Context → Except Rejection (Items C) × Context
  | [], input, context => (.ok (.none input), context)
  | g :: rest, input, context =>
    match g.runCounting names total input context with
    | (.error why, context) => (.error why, context)
    | (.ok first, context) =>
      match countAll names total rest first.remaining context with
      | (.error why, context) => (.error (why.shifted (Text.width first.consumed)), context)
      | (.ok items, context) => (.ok (.before first items), context)

end

/-- Reads the beginning of a player's text with a recorder, counting the depth from zero. -/
def parseCounting (g : Grammar C) (input : String) (names : List String) (recorder : Recorder) :
    Outcome C × Context :=
  g.runCounting names (Text.width input.toList) input.toList ⟨recorder, 0⟩

end Grammar

/-! ## Agreement -/

namespace Trace

/-- A reading that keeps count and one that is told the depth have the same result and hand on the
same recorder, with the counter and the settings as they were. -/
def Agree {α : Type u} (depth : Nat) (settings : Settings) (counted : α × Context)
    (observed : α × Recorder) : Prop :=
  ∃ result after, counted = (result, ⟨after, depth⟩) ∧ observed = (result, after) ∧
    after.settings = settings

@[simp]
theorem Recorder.settings_record (recorder : Recorder) (depth : Nat) (event : Event) :
    (recorder.record depth event).settings = recorder.settings := by
  unfold record
  split <;> rfl

theorem Recorder.record_of_unwanted {recorder : Recorder} {depth : Nat}
    (h : recorder.wantsDepth depth = false) (event : Event) :
    recorder.record depth event = recorder := by
  simp [record, h]

/-- What a node decided when it began is right when it ends, since the settings are the same. -/
theorem Context.around_agree {recorder : Recorder} {depth : Nat}
    {counted : Context → Outcome C × Context} {observed : Recorder → Outcome C × Recorder}
    (kind : NodeKind) (position : Nat)
    (h : ∀ begun : Recorder, begun.settings = recorder.settings →
      Agree (depth + 1) recorder.settings (counted ⟨begun, depth + 1⟩) (observed begun)) :
    Agree depth recorder.settings (around ⟨recorder, depth⟩ kind position counted)
      (recorder.around kind depth position observed) := by
  obtain ⟨outcome, after, hcounted, hobserved, hsettings⟩ :=
    h (recorder.record depth (.attempt kind position)) (recorder.settings_record _ _)
  refine ⟨outcome, after.record depth (.ofOutcome kind position outcome), ?_, ?_, ?_⟩
  · cases hwants : recorder.wantsDepth depth with
    | true => simp [around, wants, record, hwants, hcounted]
    | false =>
      have hafter : after.wantsDepth depth = false := by
        rw [← hwants, Recorder.wantsDepth, Recorder.wantsDepth, hsettings]
      rw [Recorder.record_of_unwanted hwants] at hcounted
      rw [Recorder.record_of_unwanted hafter]
      simp [around, wants, hwants, hcounted]
  · simp only [Recorder.around, hobserved]
  · rw [Recorder.settings_record, hsettings]

end Trace

/-- A matcher that keeps count agrees with one that is told its depth. -/
def Counted.Agrees (counted : Counted C) (observed : Observed C) (depth : Nat) : Prop :=
  ∀ input recorder,
    Agree depth recorder.settings (counted input ⟨recorder, depth⟩) (observed input recorder)

namespace Repetition

variable {depth : Nat} {item : Counted C} {item' : Observed C} {delimiter : Option (Counted C)}
  {delimiter' : Option (Observed C)}

theorem countRound_agree (hitem : item.Agrees item' depth)
    (hdelimiter : Option.Rel (Counted.Agrees · · depth) delimiter delimiter') (input : List Char)
    (recorder : Recorder) :
    Agree depth recorder.settings (countRound item delimiter input ⟨recorder, depth⟩)
      (observeRound item' delimiter' input recorder) := by
  unfold countRound observeRound
  cases hdelimiter with
  | none =>
    obtain ⟨outcome, after, hcounted, hobserved, hsettings⟩ := hitem input recorder
    simp only [hcounted, hobserved]
    exact ⟨_, _, rfl, rfl, hsettings⟩
  | some hmarks =>
    obtain ⟨mark, after, hcounted, hobserved, hsettings⟩ := hmarks input recorder
    simp only [hcounted, hobserved]
    cases mark with
    | error why => exact ⟨_, _, rfl, rfl, hsettings⟩
    | ok mark =>
      obtain ⟨next, last, hcounted, hobserved, hlast⟩ := hitem mark.remaining after
      simp only [hcounted, hobserved]
      cases next <;> exact ⟨_, _, rfl, rfl, hlast.trans hsettings⟩

theorem countMore_agree (hitem : item.Agrees item' depth)
    (hdelimiter : Option.Rel (Counted.Agrees · · depth) delimiter delimiter') (count : Bounds Nat)
    (done : Nat) (input : List Char) (recorder : Recorder) :
    Agree depth recorder.settings (countMore item delimiter count done input ⟨recorder, depth⟩)
      (observeMore item' delimiter' count done input recorder) := by
  induction hlength : input.length using Nat.strongRecOn generalizing done input recorder with
  | ind length ih =>
    rw [countMore, observeMore]
    split_ifs with hreached
    · exact ⟨_, _, rfl, rfl, rfl⟩
    · obtain ⟨round, after, hcounted, hobserved, hsettings⟩ :=
        countRound_agree hitem hdelimiter input recorder
      rw [hcounted, hobserved]
      cases round with
      | none => exact ⟨_, _, rfl, rfl, hsettings⟩
      | some next =>
        dsimp only
        split_ifs with hless
        · obtain ⟨rest, last, hcounted, hobserved, hlast⟩ :=
            ih _ (hlength ▸ hless) (done + 1) next.remaining after rfl
          rw [hcounted, hobserved]
          exact ⟨_, _, rfl, rfl, hlast.trans hsettings⟩
        · exact ⟨_, _, rfl, rfl, hsettings⟩

theorem countItems_agree (hitem : item.Agrees item' depth)
    (hdelimiter : Option.Rel (Counted.Agrees · · depth) delimiter delimiter') (count : Bounds Nat)
    (input : List Char) (recorder : Recorder) :
    Agree depth recorder.settings (countItems item delimiter count input ⟨recorder, depth⟩)
      (observeItems item' delimiter' count input recorder) := by
  have hnone : delimiter.isNone = delimiter'.isNone := by cases hdelimiter <;> rfl
  obtain ⟨first, after, hcounted, hobserved, hsettings⟩ := hitem input recorder
  unfold countItems observeItems
  rw [hnone, hcounted, hobserved]
  cases first with
  | error why => exact ⟨_, _, rfl, rfl, hsettings⟩
  | ok first =>
    dsimp only
    split_ifs
    · exact ⟨_, _, rfl, rfl, hsettings⟩
    · obtain ⟨rest, last, hcounted, hobserved, hlast⟩ :=
        countMore_agree hitem hdelimiter count 1 first.remaining after
      rw [hcounted, hobserved]
      exact ⟨_, _, rfl, rfl, hlast.trans hsettings⟩

theorem readCounting_agrees (hitem : item.Agrees item' depth)
    (hdelimiter : Option.Rel (Counted.Agrees · · depth) delimiter delimiter')
    (count : Bounds Nat) :
    (readCounting item delimiter count).Agrees (observe item' delimiter' count) depth := by
  intro input recorder
  unfold readCounting observe
  split_ifs
  · exact ⟨_, _, rfl, rfl, rfl⟩
  · obtain ⟨items, after, hcounted, hobserved, hsettings⟩ :=
      countItems_agree hitem hdelimiter count input recorder
    rw [hcounted, hobserved]
    exact ⟨_, _, rfl, rfl, hsettings⟩

end Repetition

namespace Grammar

variable (names : List String) (total : Nat)

/-- A node that hands its context to no one agrees. -/
theorem leaf_agree (outcome : Outcome C) (kind : NodeKind) (position depth : Nat)
    (recorder : Recorder) :
    Agree depth recorder.settings
      (Context.around ⟨recorder, depth⟩ kind position fun context => (outcome, context))
      (recorder.around kind depth position fun recorder => (outcome, recorder)) :=
  Context.around_agree kind position fun begun hbegun => ⟨outcome, begun, rfl, rfl, hbegun⟩

/-- A node that transforms the outcome of its only child agrees if the child does. -/
theorem inner_agree {counted : Counted C} {observed : Observed C} {depth : Nat}
    (h : counted.Agrees observed (depth + 1)) (f : Outcome C → Outcome C) (kind : NodeKind)
    (position : Nat) (input : List Char) (recorder : Recorder) :
    Agree depth recorder.settings
      (Context.around ⟨recorder, depth⟩ kind position fun context =>
        (f (counted input context).1, (counted input context).2))
      (recorder.around kind depth position fun recorder =>
        (f (observed input recorder).1, (observed input recorder).2)) := by
  refine Context.around_agree kind position fun begun hbegun => ?_
  obtain ⟨outcome, after, hcounted, hobserved, hsettings⟩ := h input begun
  rw [hcounted, hobserved]
  exact ⟨_, _, rfl, rfl, hsettings.trans hbegun⟩

mutual

/-- Wherever the counter stands, counting agrees with being told this depth. -/
theorem runCounting_agrees : (g : Grammar C) → (depth : Nat) →
    (g.runCounting names total).Agrees (g.observe names total depth) depth
  | .int bounds, depth => by
    intro input recorder
    rw [runCounting, observe]
    exact leaf_agree _ _ _ depth recorder
  | .token word, depth => by
    intro input recorder
    rw [runCounting, observe]
    exact leaf_agree _ _ _ depth recorder
  | .choice candidates exact, depth => by
    intro input recorder
    rw [runCounting, observe]
    exact leaf_agree _ _ _ depth recorder
  | .oneOf alternatives, depth => by
    intro input recorder
    rw [runCounting, observe]
    refine Context.around_agree _ _ fun begun hbegun => ?_
    rw [← hbegun]
    exact countFirst_agrees alternatives (depth + 1) .empty input begun
  | .chain parts, depth => by
    intro input recorder
    rw [runCounting, observe]
    refine Context.around_agree _ _ fun begun hbegun => ?_
    obtain ⟨items, after, hcounted, hobserved, hsettings⟩ :=
      countAll_agree parts (depth + 1) input begun
    rw [hcounted, hobserved]
    exact ⟨_, _, rfl, rfl, hsettings.trans hbegun⟩
  | .many item count none, depth => by
    intro input recorder
    rw [runCounting, observe]
    refine Context.around_agree _ _ fun begun hbegun => ?_
    rw [← hbegun]
    exact Repetition.readCounting_agrees (runCounting_agrees item (depth + 1)) .none count input
      begun
  | .many item count (some delimiter), depth => by
    intro input recorder
    rw [runCounting, observe]
    refine Context.around_agree _ _ fun begun hbegun => ?_
    rw [← hbegun]
    exact Repetition.readCounting_agrees (runCounting_agrees item (depth + 1))
      (.some (runCounting_agrees delimiter (depth + 1))) count input begun
  | .opt inner, depth => by
    intro input recorder
    rw [runCounting, observe]
    exact inner_agree (runCounting_agrees inner (depth + 1)) (orAbsent input) _ _ input recorder
  | .doc _ _ inner, depth => by
    intro input recorder
    rw [runCounting, observe]
    exact inner_agree (runCounting_agrees inner (depth + 1)) id _ _ input recorder
  | .player, depth => by
    intro input recorder
    rw [runCounting, observe]
    exact leaf_agree _ _ _ depth recorder
  | .space, depth => by
    intro input recorder
    rw [runCounting, observe]
    exact leaf_agree _ _ _ depth recorder
  | .map f inner, depth => by
    intro input recorder
    rw [runCounting, observe]
    exact inner_agree (runCounting_agrees inner (depth + 1)) (mapValue f) _ _ input recorder

theorem countFirst_agrees : (gs : List (Grammar C)) → (depth : Nat) → (deepest : Deepest) →
    (countFirst names total gs deepest).Agrees (observeFirst names total gs depth deepest) depth
  | [], depth, deepest => by
    intro input recorder
    rw [countFirst, observeFirst]
    exact ⟨_, _, rfl, rfl, rfl⟩
  | g :: rest, depth, deepest => by
    intro input recorder
    obtain ⟨outcome, after, hcounted, hobserved, hsettings⟩ :=
      runCounting_agrees g depth input recorder
    rw [countFirst, observeFirst, hcounted, hobserved, ← hsettings]
    cases outcome with
    | ok parsed => exact ⟨_, _, rfl, rfl, rfl⟩
    | error why => exact countFirst_agrees rest depth (deepest.add why) input after

theorem countAll_agree : (gs : List (Grammar C)) → (depth : Nat) → (input : List Char) →
    (recorder : Recorder) →
    Agree depth recorder.settings (countAll names total gs input ⟨recorder, depth⟩)
      (observeAll names total gs depth input recorder)
  | [], depth, input, recorder => by
    rw [countAll, observeAll]
    exact ⟨_, _, rfl, rfl, rfl⟩
  | g :: rest, depth, input, recorder => by
    obtain ⟨outcome, after, hcounted, hobserved, hsettings⟩ :=
      runCounting_agrees g depth input recorder
    rw [countAll, observeAll, hcounted, hobserved]
    cases outcome with
    | error why => exact ⟨_, _, rfl, rfl, hsettings⟩
    | ok first =>
      obtain ⟨items, last, hcounted, hobserved, hlast⟩ :=
        countAll_agree rest depth first.remaining after
      dsimp only
      rw [hcounted, hobserved]
      cases items <;> exact ⟨_, _, rfl, rfl, hlast.trans hsettings⟩

end

/-- A reading that keeps count of the depth has the outcome of one that tells every node where it
stands, leaves the recorder in the same state, and ends at the depth at which it began. -/
theorem parseCounting_eq (g : Grammar C) (input : String) (recorder : Recorder) :
    g.parseCounting input names recorder =
      ((g.parseTraced input names recorder).1, ⟨(g.parseTraced input names recorder).2, 0⟩) := by
  obtain ⟨outcome, after, hcounted, hobserved, -⟩ :=
    runCounting_agrees names (Text.width input.toList) g 0 input.toList recorder
  rw [parseCounting, parseTraced, hcounted, hobserved]

end Grammar

end Tabletop
