import Tabletop.Grammar.Basic
import Tabletop.Grammar.Outcome

/-!
# Repetition

Items are read greedily, one per round. Every round but the first reads the
delimiter, if there is one, before the item; a round that fails gives its text
back, delimiter included, and ends the repetition. So does reaching the greatest
count, and a round that leaves as much text as it found, which is the last to
count. Only the first item may be empty and still be followed by a delimiter.

Since every further round has to leave less text than it found, there are only
finitely many, whatever the item and the delimiter accept.
-/

namespace Tabletop

universe u

/-- The values of the items read, and how the text they were read from is split. -/
structure Items (C : Type u) where
  values : List (Value C)
  consumed : List Char
  remaining : List Char

namespace Items

variable {C : Type u}

/-- No items. -/
def none (input : List Char) : Items C :=
  ⟨[], [], input⟩

/-- One round in front of the items that follow it. -/
def before (first : Parsed C) (rest : Items C) : Items C :=
  ⟨first.value :: rest.values, first.consumed ++ rest.consumed, rest.remaining⟩

/-- What the items amount to: their list if there are enough, and otherwise a rejection where
the last one ended. -/
def outcome (count : Bounds Nat) (items : Items C) : Outcome C :=
  match count.least with
  | .none => .ok ⟨.list items.values, items.consumed, items.remaining⟩
  | some least =>
    if items.values.length < least then
      .error ((Rejection.explaining ("expected at least " ++ Text.Decimal.natText least ++
        " items but could only parse " ++ Text.Decimal.natText items.values.length)).placed
          (Text.width items.consumed))
    else .ok ⟨.list items.values, items.consumed, items.remaining⟩

/-- Where a repetition succeeds, it yields its items as they are, and there are enough of them. -/
theorem parsed_of_outcome {count : Bounds Nat} {items : Items C} {parsed : Parsed C}
    (h : items.outcome count = .ok parsed) :
    parsed = ⟨.list items.values, items.consumed, items.remaining⟩ ∧
      ∀ least ∈ count.least, least ≤ items.values.length := by
  unfold outcome at h
  split at h
  · rename_i hleast
    cases h
    refine ⟨rfl, fun least hmem => ?_⟩
    rw [hleast] at hmem
    cases hmem
  · rename_i least hleast
    split at h
    · cases h
    · rename_i hfew
      cases h
      refine ⟨rfl, ?_⟩
      rw [hleast]
      rintro _ ⟨rfl⟩
      exact Nat.le_of_not_lt hfew

end Items

namespace Repetition

variable {C : Type u}

/-- Whether a round left as much text as it found. -/
def stalled (before : List Char) (round : Parsed C) : Bool :=
  !(round.remaining.length < before.length)

/-- A round after the first: the delimiter, if there is one, and the item. -/
def round (item : Matcher C) (delimiter : Option (Matcher C)) (input : List Char) :
    Option (Parsed C) :=
  match delimiter with
  | none => (item input).toOption
  | some delimiter =>
    match delimiter input with
    | .error _ => none
    | .ok mark =>
      match item mark.remaining with
      | .error _ => none
      | .ok next => some { next with consumed := mark.consumed ++ next.consumed }

/-- Without a delimiter, a round is a run of the item. -/
theorem ok_of_round_none {item : Matcher C} {input : List Char} {next : Parsed C}
    (h : round item none input = some next) : item input = .ok next := by
  unfold round at h
  cases hrun : item input with
  | error why =>
    rw [hrun] at h
    cases h
  | ok parsed =>
    rw [hrun] at h
    exact congrArg Except.ok (Option.some.inj h)

/-- With a delimiter, the item is run on what the delimiter left. -/
theorem exists_of_round_some {item delimiter : Matcher C} {input : List Char} {next : Parsed C}
    (h : round item (some delimiter) input = some next) :
    ∃ mark found, delimiter input = .ok mark ∧ item mark.remaining = .ok found ∧
      next = { found with consumed := mark.consumed ++ found.consumed } := by
  simp only [round] at h
  split at h
  · cases h
  · rename_i mark hmark
    split at h
    · cases h
    · rename_i found hfound
      exact ⟨mark, found, hmark, hfound, (Option.some.inj h).symm⟩

/-- The rounds after `done` items have been read. -/
def more (item : Matcher C) (delimiter : Option (Matcher C)) (count : Bounds Nat) (done : Nat)
    (input : List Char) : Items C :=
  if count.isReached done then .none input
  else
    match round item delimiter input with
    | none => .none input
    | some next =>
      if next.remaining.length < input.length then
        .before next (more item delimiter count (done + 1) next.remaining)
      else .before next (.none next.remaining)
termination_by input.length

/-- All rounds. -/
def items (item : Matcher C) (delimiter : Option (Matcher C)) (count : Bounds Nat)
    (input : List Char) : Items C :=
  match item input with
  | .error _ => .none input
  | .ok first =>
    if delimiter.isNone && stalled input first then .before first (.none first.remaining)
    else .before first (more item delimiter count 1 first.remaining)

/-- Reads a repetition. -/
def read (item : Matcher C) (delimiter : Option (Matcher C)) (count : Bounds Nat)
    (input : List Char) : Outcome C :=
  if count.isVoid then .ok ⟨.list [], [], input⟩
  else (items item delimiter count input).outcome count

end Repetition

end Tabletop
