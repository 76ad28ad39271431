import Tabletop.Grammar.Run

/-!
# Sequences of sequences

A sequence reads its parts one after the other, each on what the one before it left,
and it counts where a failure happened from its own beginning. `Reader.andThen` is this
rule for two readings of any length. It is associative, because a failure that is moved
twice is moved by the bytes of both stretches together. So it does not matter how the
parts of a sequence are grouped: taking some of them into a sequence of their own changes
the value by a pair of brackets, and neither what is read nor where and why it fails.
-/

namespace Tabletop

universe u

variable {C : Type u}

/-- Anything that reads items from the beginning of a text. -/
abbrev Reader (C : Type u) := List Char → Except Rejection (Items C)

theorem Rejection.shifted_shifted (why : Rejection) (bytes more : Nat) :
    (why.shifted bytes).shifted more = why.shifted (more + bytes) := by
  simp only [shifted]
  congr 1
  omega

namespace Items

/-- Items and those that follow them. -/
def append (first rest : Items C) : Items C :=
  ⟨first.values ++ rest.values, first.consumed ++ rest.consumed, rest.remaining⟩

/-- A single item. -/
def single (only : Parsed C) : Items C :=
  ⟨[only.value], only.consumed, only.remaining⟩

/-- Some items as a single one, the list of them. -/
def gathered (items : Items C) : Parsed C :=
  ⟨.list items.values, items.consumed, items.remaining⟩

end Items

namespace Reader

/-- One reading and then another of what it left. A failure of the second is moved to where it
happened. -/
def andThen (first second : Reader C) : Reader C := fun input =>
  match first input with
  | .error why => .error why
  | .ok items =>
    match second items.remaining with
    | .error why => .error (why.shifted (Text.width items.consumed))
    | .ok others => .ok (items.append others)

theorem none_andThen (second : Reader C) :
    andThen (fun input => .ok (.none input)) second = second := by
  funext input
  simp only [andThen, Items.none, Items.append]
  cases second input <;> rfl

theorem andThen_none (first : Reader C) :
    andThen first (fun input => .ok (.none input)) = first := by
  funext input
  unfold andThen
  cases first input <;> simp [Items.none, Items.append]

theorem andThen_assoc (first second third : Reader C) :
    andThen (andThen first second) third = andThen first (andThen second third) := by
  funext input
  unfold andThen
  cases first input with
  | error why => rfl
  | ok items =>
    dsimp only
    cases second items.remaining with
    | error why => rfl
    | ok others =>
      dsimp only [Items.append]
      cases third others.remaining with
      | error why => simp only [Rejection.shifted_shifted, Text.width_append]
      | ok last => simp only [List.append_assoc]

end Reader

namespace Grammar

variable (names : List String)

/-- What a grammar reads, as a single item. -/
def reader (g : Grammar C) : Reader C := fun input =>
  (g.run names input).map .single

theorem runAll_nil : runAll names ([] : List (Grammar C)) = fun input => .ok (.none input) := by
  funext input
  rw [runAll]

theorem runAll_cons (g : Grammar C) (rest : List (Grammar C)) :
    runAll names (g :: rest) = (g.reader names).andThen (runAll names rest) := by
  funext input
  rw [runAll]
  unfold Reader.andThen reader
  cases g.run names input <;> rfl

/-- Parts in a row may be divided anywhere. -/
theorem runAll_append (xs ys : List (Grammar C)) :
    runAll names (xs ++ ys) = Reader.andThen (runAll names xs) (runAll names ys) := by
  induction xs with
  | nil => rw [List.nil_append, runAll_nil, Reader.none_andThen]
  | cons g rest ih => rw [List.cons_append, runAll_cons, runAll_cons, ih, Reader.andThen_assoc]

theorem runAll_singleton (g : Grammar C) : runAll names [g] = g.reader names := by
  rw [runAll_cons, runAll_nil, Reader.andThen_none]

theorem run_chain (parts : List (Grammar C)) (input : List Char) :
    (chain parts).run names input = (runAll names parts input).map Items.gathered := by
  rw [run]
  rfl

variable {names}

/-- What a success of parts in a row says: the first succeeds, and the others on what it leaves. -/
theorem exists_of_runAll {g : Grammar C} {rest : List (Grammar C)} {input : List Char}
    {items : Items C} (h : runAll names (g :: rest) input = .ok items) :
    ∃ first others, g.run names input = .ok first ∧
      runAll names rest first.remaining = .ok others ∧ items = .before first others := by
  rw [runAll] at h
  cases hfirst : g.run names input with
  | error why =>
    rw [hfirst] at h
    cases h
  | ok first =>
    rw [hfirst] at h
    dsimp only at h
    cases hrest : runAll names rest first.remaining with
    | error why =>
      rw [hrest] at h
      cases h
    | ok others =>
      rw [hrest] at h
      cases h
      exact ⟨first, others, rfl, hrest, rfl⟩

/-- A sequence that succeeds has a value for each of its parts. -/
theorem length_of_runAll {parts : List (Grammar C)} {input : List Char} {items : Items C}
    (h : runAll names parts input = .ok items) : items.values.length = parts.length := by
  induction parts generalizing input items with
  | nil =>
    rw [runAll] at h
    cases h
    rfl
  | cons g rest ih =>
    obtain ⟨first, others, -, hrest, rfl⟩ := exists_of_runAll h
    exact congrArg Nat.succ (ih hrest)

end Grammar

/-- Two outcomes that differ at most in one pair of brackets: the first has a list at an index of
its value, and the second has the items of that list in the place of it. -/
inductive Spliced (index : Nat) : Outcome C → Outcome C → Prop
  | rejected (why : Rejection) : Spliced index (.error why) (.error why)
  | read {front inner back : List (Value C)} {consumed remaining : List Char}
      (placed : front.length = index) :
      Spliced index (.ok ⟨.list (front ++ [.list inner] ++ back), consumed, remaining⟩)
        (.ok ⟨.list (front ++ inner ++ back), consumed, remaining⟩)

/-- How a sequence comes out of which a first stretch has one outcome, and the rest reads what this
leaves. -/
structure Joined (first : Outcome C) (second : Matcher C) (whole : Outcome C) : Prop where
  succeeds : (∃ parsed, whole = .ok parsed) ↔
    ∃ before after, first = .ok before ∧ second before.remaining = .ok after
  joins : ∀ before after, first = .ok before → second before.remaining = .ok after →
    ∃ values others, before.value = .list values ∧ after.value = .list others ∧
      whole = .ok ⟨.list (values ++ others), before.consumed ++ after.consumed, after.remaining⟩
  early : ∀ why, first = .error why → whole = .error why
  late : ∀ before why, first = .ok before → second before.remaining = .error why →
    whole = .error (why.shifted (Text.width before.consumed))

namespace Joined

variable {second : Matcher C} {why : Rejection}

/-- The first stretch fails. -/
theorem of_early : Joined (.error why) second (.error why) := by
  refine ⟨⟨?_, ?_⟩, ?_, ?_, ?_⟩
  · rintro ⟨parsed, ⟨⟩⟩
  · rintro ⟨before, after, ⟨⟩, -⟩
  · rintro before after ⟨⟩
  · rintro early ⟨⟩
    rfl
  · rintro before late ⟨⟩

/-- The rest fails. -/
theorem of_late {before : Parsed C} (h : second before.remaining = .error why) :
    Joined (.ok before) second (.error (why.shifted (Text.width before.consumed))) := by
  refine ⟨⟨?_, ?_⟩, ?_, ?_, ?_⟩
  · rintro ⟨parsed, ⟨⟩⟩
  · rintro ⟨before, after, ⟨⟩, hafter⟩
    rw [h] at hafter
    cases hafter
  · rintro before after ⟨⟩ hafter
    rw [h] at hafter
    cases hafter
  · rintro early ⟨⟩
  · rintro before late ⟨⟩ hlate
    rw [h] at hlate
    cases hlate
    rfl

/-- Nothing fails. -/
theorem of_both {values others : List (Value C)} {consumed taken rest remaining : List Char}
    (h : second rest = .ok ⟨.list others, taken, remaining⟩) :
    Joined (.ok ⟨.list values, consumed, rest⟩) second
      (.ok ⟨.list (values ++ others), consumed ++ taken, remaining⟩) := by
  refine ⟨⟨?_, ?_⟩, ?_, ?_, ?_⟩
  · rintro -
    exact ⟨_, _, rfl, h⟩
  · rintro -
    exact ⟨_, rfl⟩
  · rintro before after ⟨⟩ hafter
    rw [h] at hafter
    cases hafter
    exact ⟨values, others, rfl, rfl, rfl⟩
  · rintro early ⟨⟩
  · rintro before late ⟨⟩ hlate
    rw [h] at hlate
    cases hlate

end Joined

namespace Reader

/-- Gathering what two readings read one after the other. -/
theorem joined_andThen (first second : Reader C) (input : List Char) :
    Joined ((first input).map Items.gathered) (fun rest => (second rest).map Items.gathered)
      ((first.andThen second input).map Items.gathered) := by
  unfold andThen
  cases first input with
  | error why => exact .of_early
  | ok items =>
    dsimp only
    cases hsecond : second items.remaining with
    | error why => exact .of_late (congrArg (Except.map Items.gathered) hsecond)
    | ok others => exact .of_both (congrArg (Except.map Items.gathered) hsecond)

/-- Gathering a stretch in the middle before the whole is gathered. -/
theorem spliced_andThen (first inside last : Reader C) (input : List Char) {index : Nat}
    (hindex : ∀ items, first input = .ok items → items.values.length = index) :
    Spliced index
      (((first.andThen fun rest => (inside rest).map fun items =>
        .single items.gathered).andThen last input).map Items.gathered)
      (((first.andThen inside).andThen last input).map Items.gathered) := by
  rw [andThen_assoc, andThen_assoc]
  unfold andThen
  cases hfirst : first input with
  | error why => exact .rejected why
  | ok items =>
    dsimp only
    cases inside items.remaining with
    | error why => exact .rejected _
    | ok inner =>
      dsimp only [Except.map, Items.single, Items.gathered]
      cases last inner.remaining with
      | error why => exact .rejected _
      | ok others =>
        dsimp only [Items.append]
        rw [← List.append_assoc items.values [.list inner.values] others.values,
          ← List.append_assoc items.values inner.values others.values]
        exact .read (hindex items hfirst)

end Reader

namespace Grammar

/-- Sequences can be taken apart. Some parts in a row may be gathered in a sequence of their own,
which puts their values in a list of their own and changes nothing else; and a sequence that is cut
in two reads what its halves read one after the other, and fails as the half fails that does. -/
theorem parse_chain_append (xs ys zs : List (Grammar C)) (input : String) (names : List String) :
    Spliced xs.length ((chain (xs ++ [chain ys] ++ zs)).parse input names)
        ((chain (xs ++ ys ++ zs)).parse input names) ∧
      Joined ((chain xs).parse input names) (fun rest => (chain ys).parse (.ofList rest) names)
        ((chain (xs ++ ys)).parse input names) := by
  have hinside : (chain ys).reader names = fun rest =>
      (runAll names ys rest).map fun items => .single items.gathered := by
    funext rest
    rw [reader, run_chain]
    cases runAll names ys rest <;> rfl
  simp only [parse, String.toList_ofList, run_chain, runAll_append, runAll_singleton, hinside]
  exact ⟨Reader.spliced_andThen _ _ _ _ fun items h => length_of_runAll h,
    Reader.joined_andThen _ _ _⟩

end Grammar

end Tabletop
