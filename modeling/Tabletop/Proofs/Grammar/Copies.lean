import Tabletop.Proofs.Grammar.Consuming
import Tabletop.Proofs.Grammar.Rounds
import Tabletop.Proofs.Grammar.Sequences

/-!
# Repetitions that are sequences

A repetition of exactly so many items reads what a sequence of that many copies reads,
with the delimiter between them if there is one. The two go about it differently. The
repetition stops at the first round that fails, keeps what it has and counts; the
sequence passes the failure on. They come to the same in the end, as long as no item
is read from nothing: then no round is the last because it stands still, and too few
items are a failure of the one where a missing part is a failure of the other.

The values differ by the delimiters, which a repetition drops and a sequence lists.
-/

namespace Tabletop

universe u

variable {C : Type u}

namespace Repetition

/-- The parts of so many rounds after the first, in a row. -/
def roundParts (item : Grammar C) (delimiter : Option (Grammar C)) : Nat → List (Grammar C)
  | 0 => []
  | later + 1 => delimiter.toList ++ [item] ++ roundParts item delimiter later

theorem cons_roundParts_none (item : Grammar C) (later : Nat) :
    item :: roundParts item none later = List.replicate (later + 1) item := by
  induction later with
  | zero => rfl
  | succ later ih =>
    rw [List.replicate_succ, ← ih]
    rfl

theorem cons_roundParts_some (item delimiter : Grammar C) (later : Nat) :
    item :: roundParts item (some delimiter) later =
      (List.replicate (later + 1) item).intersperse delimiter := by
  induction later with
  | zero => rfl
  | succ later ih =>
    rw [List.replicate_succ, List.replicate_succ, List.intersperse_cons_cons,
      ← List.replicate_succ, ← ih]
    rfl

/-- The items of some rounds, and what a sequence of their parts reads. Of the values of the parts,
the items are those at an index and then at every so many further on; or the sequence fails, and
there are too few items. -/
inductive Agrees (start stride needed : Nat) : Except Rejection (Items C) → Items C → Prop
  | short {why : Rejection} {items : Items C} (few : items.values.length < needed) :
      Agrees start stride needed (.error why) items
  | full {values found : List (Value C)} {consumed remaining : List Char}
      (enough : found.length = needed)
      (chosen : ∀ i, found[i]? = values[stride * i + start]?) :
      Agrees start stride needed (.ok ⟨values, consumed, remaining⟩) ⟨found, consumed, remaining⟩

/-- One more round in front. Its item comes after the values that are dropped. -/
theorem Agrees.before {skipped needed : Nat} {first rest : Reader C} {input : List Char}
    {dropped : List (Value C)} {next : Parsed C} {items : Items C}
    (hfirst : first input = .ok ⟨dropped ++ [next.value], next.consumed, next.remaining⟩)
    (h : Agrees skipped (skipped + 1) needed (rest next.remaining) items) :
    Agrees dropped.length (skipped + 1) (needed + 1) (first.andThen rest input)
      (.before next items) := by
  unfold Reader.andThen
  rw [hfirst]
  dsimp only
  generalize rest next.remaining = later at h
  cases h with
  | short few => exact .short (Nat.succ_lt_succ few)
  | @full values found consumed remaining enough chosen =>
    refine .full (congrArg Nat.succ enough) fun i => ?_
    rw [List.append_assoc, List.getElem?_append_right (Nat.le_add_left _ _), Nat.add_sub_cancel]
    cases i with
    | zero => rfl
    | succ i =>
      have hindex : (skipped + 1) * (i + 1) = (skipped + 1) * i + skipped + 1 := rfl
      rw [hindex, List.getElem?_cons_succ, chosen]
      rfl

/-! ## One round -/

variable {names : List String} {item : Grammar C} {delimiter : Option (Grammar C)}

/-- What the parts of one round read in a row, and what the round reads: the same, but for the
values of the delimiter, or both fail. -/
inductive SameRound (skipped : Nat) : Except Rejection (Items C) → Option (Parsed C) → Prop
  | fails (why : Rejection) : SameRound skipped (.error why) none
  | reads {dropped : List (Value C)} {next : Parsed C} (between : dropped.length = skipped) :
      SameRound skipped (.ok ⟨dropped ++ [next.value], next.consumed, next.remaining⟩) (some next)

theorem sameRound (names : List String) (item : Grammar C) (delimiter : Option (Grammar C))
    (input : List Char) :
    SameRound delimiter.toList.length (Grammar.runAll names (delimiter.toList ++ [item]) input)
      (round (item.run names) (delimiter.map (·.run names)) input) := by
  rw [Grammar.runAll_append, Grammar.runAll_singleton]
  cases delimiter with
  | none =>
    rw [Option.toList_none, Grammar.runAll_nil, Reader.none_andThen]
    unfold Grammar.reader
    simp only [Option.map_none, round]
    cases item.run names input with
    | error why => exact .fails why
    | ok next => exact @SameRound.reads _ _ [] next rfl
  | some d =>
    rw [Option.toList_some, Grammar.runAll_singleton]
    unfold Reader.andThen Grammar.reader
    simp only [Option.map_some, round]
    cases d.run names input with
    | error why => exact .fails why
    | ok mark =>
      dsimp only [Except.map, Items.single]
      cases item.run names mark.remaining with
      | error why => exact .fails _
      | ok next =>
        exact @SameRound.reads _ _ [mark.value]
          { next with consumed := mark.consumed ++ next.consumed } rfl

theorem length_remaining_lt {next : Parsed C} {input : List Char}
    (hsplit : next.consumed ++ next.remaining = input) (hconsumed : next.consumed ≠ []) :
    next.remaining.length < input.length := by
  have hpositive := List.length_pos_of_ne_nil hconsumed
  rw [← hsplit, List.length_append]
  omega

/-- A round consumes something if its item does. -/
theorem round_consuming (hitem : Matcher.Consuming (item.run names)) {input : List Char}
    {next : Parsed C}
    (h : round (item.run names) (delimiter.map (·.run names)) input = some next) :
    next.consumed ≠ [] := by
  cases delimiter with
  | none => exact hitem input next (ok_of_round_none h)
  | some d =>
    obtain ⟨mark, found, -, hfound, rfl⟩ := exists_of_round_some h
    exact List.append_ne_nil_of_right_ne_nil _ (hitem mark.remaining found hfound)

/-! ## All rounds -/

/-- The loop of the repetition and the run of the sequence agree, from any number of rounds that
have been read up to all that are needed. -/
theorem more_agrees (hitem : Matcher.Consuming (item.run names)) {needed : Nat} (later done : Nat)
    (hdone : done + later = needed) (input : List Char) :
    Agrees delimiter.toList.length (delimiter.toList.length + 1) later
      (Grammar.runAll names (roundParts item delimiter later) input)
      (more (item.run names) (delimiter.map (·.run names)) ⟨some needed, some needed⟩ done
        input) := by
  induction later generalizing done input with
  | zero =>
    subst hdone
    rw [roundParts, Grammar.runAll_nil, more, if_pos (by simp [Bounds.isReached])]
    exact .full rfl fun i => by simp
  | succ later ih =>
    rw [roundParts, Grammar.runAll_append, more, if_neg (by simp [Bounds.isReached]; omega)]
    have hround := sameRound names item delimiter input
    generalize hparts : Grammar.runAll names (delimiter.toList ++ [item]) input = parts at hround
    generalize hnext : round (item.run names) (delimiter.map (·.run names)) input = next at hround
    cases hround with
    | fails why =>
      unfold Reader.andThen
      rw [hparts]
      exact .short (Nat.succ_pos later)
    | @reads dropped next between =>
      have hsplit := split_of_round (Grammar.run_fits names item)
        (fitting_delimiter names delimiter) hnext
      have hshorter := length_remaining_lt hsplit (round_consuming hitem hnext)
      dsimp only
      rw [if_pos hshorter, ← between]
      exact .before hparts (between ▸ ih (done + 1) (by omega) next.remaining)

theorem items_agrees (hitem : Matcher.Consuming (item.run names)) (later : Nat)
    (input : List Char) :
    Agrees 0 (delimiter.toList.length + 1) (later + 1)
      (Grammar.runAll names (item :: roundParts item delimiter later) input)
      (items (item.run names) (delimiter.map (·.run names)) ⟨some (later + 1), some (later + 1)⟩
        input) := by
  rw [Grammar.runAll_cons]
  unfold items
  cases hfirst : item.run names input with
  | error why =>
    unfold Reader.andThen Grammar.reader
    rw [hfirst]
    exact .short (Nat.succ_pos later)
  | ok first =>
    have hfits := Grammar.run_fits names item input
    rw [hfirst] at hfits
    have hshorter := length_remaining_lt hfits.split (hitem input first hfirst)
    have hmoves : stalled input first = false := by
      simp [stalled, hshorter]
    have hreader : item.reader names input =
        .ok ⟨[] ++ [first.value], first.consumed, first.remaining⟩ := by
      rw [Grammar.reader, hfirst]
      rfl
    dsimp only
    rw [hmoves, Bool.and_false, if_neg Bool.false_ne_true]
    exact .before hreader (more_agrees hitem later 1 (Nat.add_comm 1 later) first.remaining)

end Repetition

/-- The same is read of a text, and of the values that the second outcome lists the first has every
so many, from the first of them on; or both fail. -/
structure SameItems (stride : Nat) (repetition sequence : Outcome C) : Prop where
  succeeds : (∃ parsed, repetition = .ok parsed) ↔ ∃ parsed, sequence = .ok parsed
  alike : ∀ parsed other, repetition = .ok parsed → sequence = .ok other →
    parsed.consumed = other.consumed ∧ parsed.remaining = other.remaining ∧
      ∃ found values, parsed.value = .list found ∧ other.value = .list values ∧
        ∀ i, found[i]? = values[stride * i]?

theorem Repetition.Agrees.sameItems {stride needed : Nat}
    {sequence : Except Rejection (Items C)} {items : Items C}
    (h : Agrees 0 stride needed sequence items) :
    SameItems stride (items.outcome ⟨some needed, some needed⟩)
      (sequence.map Items.gathered) := by
  cases h with
  | short few =>
    rw [Items.outcome_of_few rfl few]
    refine ⟨⟨?_, ?_⟩, ?_⟩
    · rintro ⟨parsed, ⟨⟩⟩
    · rintro ⟨parsed, ⟨⟩⟩
    · rintro parsed other ⟨⟩
  | full enough chosen =>
    rw [Items.outcome_of_enough (by simp [enough])]
    refine ⟨⟨fun _ => ⟨_, rfl⟩, fun _ => ⟨_, rfl⟩⟩, ?_⟩
    rintro parsed other ⟨⟩ ⟨⟩
    exact ⟨rfl, rfl, _, _, rfl, rfl, chosen⟩

/-- If no value is left out, the outcomes are the same where they succeed. -/
theorem SameItems.ok_iff {repetition sequence : Outcome C} (h : SameItems 1 repetition sequence)
    (parsed : Parsed C) : repetition = .ok parsed ↔ sequence = .ok parsed := by
  have hsame : ∀ parsed other, repetition = .ok parsed → sequence = .ok other →
      parsed = other := by
    intro parsed other hparsed hother
    obtain ⟨hconsumed, hremaining, found, values, hfound, hvalues, hchosen⟩ :=
      h.alike parsed other hparsed hother
    have hvalue : found = values := by
      apply List.ext_getElem?
      intro i
      rw [hchosen, Nat.one_mul]
    cases parsed
    cases other
    cases hconsumed
    cases hremaining
    cases hfound
    cases hvalues
    rw [hvalue]
  constructor
  · intro hparsed
    obtain ⟨other, hother⟩ := h.succeeds.mp ⟨parsed, hparsed⟩
    rw [hsame parsed other hparsed hother]
    exact hother
  · intro hparsed
    obtain ⟨other, hother⟩ := h.succeeds.mpr ⟨parsed, hparsed⟩
    rw [← hsame other parsed hother hparsed]
    exact hother

namespace Grammar

variable {item : Grammar C} {names : List String}

/-- One item or more, counted exactly, and the parts of their rounds in a row. -/
theorem many_sameItems (hitem : Matcher.Consuming (item.run names))
    (delimiter : Option (Grammar C)) (later : Nat) (input : List Char) :
    SameItems (delimiter.toList.length + 1)
      ((many item ⟨some (later + 1), some (later + 1)⟩ delimiter).run names input)
      ((chain (item :: Repetition.roundParts item delimiter later)).run names input) := by
  rw [run_many, run_chain, Repetition.read, if_neg (by simp [Bounds.isVoid])]
  exact (Repetition.items_agrees hitem later input).sameItems

/-- A repetition of exactly so many items that are never read from nothing succeeds with what a
sequence of as many copies succeeds with. With a delimiter between the items it succeeds where the
sequence does that has the delimiter between the copies; it reads the same text then, and of the
values of the sequence it has every other one, beginning with the first. -/
theorem parse_many_exactly (hitem : Matcher.Consuming (item.run names)) (n : Nat)
    (input : String) :
    (∀ parsed, (many item ⟨some n, some n⟩ none).parse input names = .ok parsed ↔
        (chain (List.replicate n item)).parse input names = .ok parsed) ∧
      ∀ delimiter, 1 ≤ n →
        SameItems 2 ((many item ⟨some n, some n⟩ (some delimiter)).parse input names)
          ((chain ((List.replicate n item).intersperse delimiter)).parse input names) := by
  unfold parse
  cases n with
  | zero =>
    refine ⟨fun parsed => ?_, fun delimiter h => absurd h (Nat.not_succ_le_zero 0)⟩
    have hvoid : (⟨some 0, some 0⟩ : Bounds Nat).isVoid = true := rfl
    rw [run_many, run_chain, Repetition.read, if_pos hvoid, List.replicate_zero, runAll_nil]
    exact Iff.rfl
  | succ later =>
    refine ⟨fun parsed => ?_, fun delimiter _ => ?_⟩
    · rw [← Repetition.cons_roundParts_none]
      exact (many_sameItems hitem none later input.toList).ok_iff parsed
    · rw [← Repetition.cons_roundParts_some]
      exact many_sameItems hitem (some delimiter) later input.toList

/-- A gain or a loss. -/
def difference : Grammar Empty :=
  .int .none

/-- A comma that may be left out. -/
def comma : Grammar Empty :=
  .opt (.token ",")

theorem parse_many_exactly_of_differences :
    Matcher.Consuming (difference.run []) ∧
      (many difference ⟨some 3, some 3⟩ none).parse "12-3-4-5" [] =
        .ok ⟨.list [.int 12, .int (-3), .int (-4)], "12-3-4".toList, "-5".toList⟩ ∧
      (chain [difference, comma, difference, comma, difference]).parse "1,2-3!" [] =
        .ok ⟨.list [.int 1, .text ",", .int 2, .absent, .int (-3)], "1,2-3".toList, ['!']⟩ ∧
      SameItems 2 ((many difference ⟨some 3, some 3⟩ (some comma)).parse "1,2-3!" [])
        ((chain [difference, comma, difference, comma, difference]).parse "1,2-3!" []) := by
  have hitem : Matcher.Consuming (difference.run []) := run_consuming [] _ rfl
  have hsequence : (chain [difference, difference, difference]).parse "12-3-4-5" [] =
      .ok ⟨.list [.int 12, .int (-3), .int (-4)], "12-3-4".toList, "-5".toList⟩ := rfl
  exact ⟨hitem, ((parse_many_exactly hitem 3 "12-3-4-5").1 _).mpr hsequence, rfl,
    (parse_many_exactly hitem 3 "1,2-3!").2 comma (by decide)⟩

end Grammar

end Tabletop
