import Tabletop.Grammar.Run
import Tabletop.Trace.Recorder

/-!
# Reading under observation

`Grammar.observe` reads like `Grammar.run` and tells a recorder about every node that
is run. The recorder is handed on from node to node in the order in which they run,
through failures that an alternation, an option or a repetition overcomes as well.
A node's position is the width of the whole text less that of the text it is given.
-/

namespace Tabletop

universe u

open Trace

/-- A matcher that is observed by a recorder. -/
abbrev Observed (C : Type u) := List Char → Recorder → Outcome C × Recorder

namespace Repetition

variable {C : Type u}

/-- A round after the first, under observation. -/
def observeRound (item : Observed C) (delimiter : Option (Observed C)) (input : List Char)
    (recorder : Recorder) : Option (Parsed C) × Recorder :=
  match delimiter with
  | none =>
    let (outcome, recorder) := item input recorder
    (outcome.toOption, recorder)
  | some delimiter =>
    match delimiter input recorder with
    | (.error _, recorder) => (none, recorder)
    | (.ok mark, recorder) =>
      match item mark.remaining recorder with
      | (.error _, recorder) => (none, recorder)
      | (.ok next, recorder) =>
        (some { next with consumed := mark.consumed ++ next.consumed }, recorder)

/-- The rounds after `done` items have been read, under observation. -/
def observeMore (item : Observed C) (delimiter : Option (Observed C)) (count : Bounds Nat)
    (done : Nat) (input : List Char) (recorder : Recorder) : Items C × Recorder :=
  if count.isReached done then (.none input, recorder)
  else
    match observeRound item delimiter input recorder with
    | (none, recorder) => (.none input, recorder)
    | (some next, recorder) =>
      if next.remaining.length < input.length then
        let (rest, recorder) :=
          observeMore item delimiter count (done + 1) next.remaining recorder
        (.before next rest, recorder)
      else (.before next (.none next.remaining), recorder)
termination_by input.length

/-- All rounds, under observation. -/
def observeItems (item : Observed C) (delimiter : Option (Observed C)) (count : Bounds Nat)
    (input : List Char) (recorder : Recorder) : Items C × Recorder :=
  match item input recorder with
  | (.error _, recorder) => (.none input, recorder)
  | (.ok first, recorder) =>
    if delimiter.isNone && stalled input first then
      (.before first (.none first.remaining), recorder)
    else
      let (rest, recorder) := observeMore item delimiter count 1 first.remaining recorder
      (.before first rest, recorder)

/-- Reads a repetition under observation. -/
def observe (item : Observed C) (delimiter : Option (Observed C)) (count : Bounds Nat) :
    Observed C := fun input recorder =>
  if count.isVoid then (.ok ⟨.list [], [], input⟩, recorder)
  else
    let (items, recorder) := observeItems item delimiter count input recorder
    (items.outcome count, recorder)

end Repetition

namespace Grammar

variable {C : Type u}

mutual

/-- Reads the beginning of a text under observation, `depth` levels into a grammar whose whole text
is `total` bytes wide. -/
def observe (names : List String) (total : Nat) : Grammar C → Nat → Observed C
  | .int bounds, depth, input, recorder =>
    recorder.around .int depth (total - Text.width input) fun recorder =>
      (Leaf.integer bounds input, recorder)
  | .token word, depth, input, recorder =>
    recorder.around .token depth (total - Text.width input) fun recorder =>
      (Leaf.word word input, recorder)
  | .choice candidates exact, depth, input, recorder =>
    recorder.around .choice depth (total - Text.width input) fun recorder =>
      (Candidate.read candidates exact input, recorder)
  | .oneOf alternatives, depth, input, recorder =>
    recorder.around .oneOf depth (total - Text.width input) fun recorder =>
      observeFirst names total alternatives (depth + 1) .empty input recorder
  | .chain parts, depth, input, recorder =>
    recorder.around .chain depth (total - Text.width input) fun recorder =>
      let (items, recorder) := observeAll names total parts (depth + 1) input recorder
      (items.map fun items => ⟨.list items.values, items.consumed, items.remaining⟩, recorder)
  | .many item count none, depth, input, recorder =>
    recorder.around .many depth (total - Text.width input) fun recorder =>
      Repetition.observe (item.observe names total (depth + 1)) none count input recorder
  | .many item count (some delimiter), depth, input, recorder =>
    recorder.around .many depth (total - Text.width input) fun recorder =>
      Repetition.observe (item.observe names total (depth + 1))
        (some (delimiter.observe names total (depth + 1))) count input recorder
  | .opt inner, depth, input, recorder =>
    recorder.around .opt depth (total - Text.width input) fun recorder =>
      let (outcome, recorder) := inner.observe names total (depth + 1) input recorder
      (orAbsent input outcome, recorder)
  | .doc _ _ inner, depth, input, recorder =>
    recorder.around .doc depth (total - Text.width input) fun recorder =>
      inner.observe names total (depth + 1) input recorder
  | .player, depth, input, recorder =>
    recorder.around .player depth (total - Text.width input) fun recorder =>
      (Candidate.read (Candidate.ofPlayers names) false input, recorder)
  | .space, depth, input, recorder =>
    recorder.around .space depth (total - Text.width input) fun recorder =>
      (Leaf.blanks input, recorder)
  | .map f inner, depth, input, recorder =>
    recorder.around .map depth (total - Text.width input) fun recorder =>
      let (outcome, recorder) := inner.observe names total (depth + 1) input recorder
      (mapValue f outcome, recorder)

/-- The first alternative to succeed, under observation. -/
def observeFirst (names : List String) (total : Nat) :
    List (Grammar C) → Nat → Deepest → Observed C
  | [], _, deepest, _, recorder => (.error deepest.merged, recorder)
  | g :: rest, depth, deepest, input, recorder =>
    match g.observe names total depth input recorder with
    | (.ok parsed, recorder) => (.ok parsed, recorder)
    | (.error why, recorder) =>
      observeFirst names total rest depth (deepest.add why) input recorder

/-- All parts in turn, under observation. -/
def observeAll (names : List String) (total : Nat) :
    List (Grammar C) → Nat → List Char → Recorder → Except Rejection (Items C) × Recorder
  | [], _, input, recorder => (.ok (.none input), recorder)
  | g :: rest, depth, input, recorder =>
    match g.observe names total depth input recorder with
    | (.error why, recorder) => (.error why, recorder)
    | (.ok first, recorder) =>
      match observeAll names total rest depth first.remaining recorder with
      | (.error why, recorder) => (.error (why.shifted (Text.width first.consumed)), recorder)
      | (.ok items, recorder) => (.ok (.before first items), recorder)

end

/-- Reads the beginning of a player's text, recording what happens. -/
def parseTraced (g : Grammar C) (input : String) (names : List String) (recorder : Recorder) :
    Outcome C × Recorder :=
  g.observe names (Text.width input.toList) 0 input.toList recorder

end Grammar

end Tabletop
