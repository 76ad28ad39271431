import Mathlib.Data.List.Induction
import Mathlib.Tactic.SplitIfs
import Tabletop.Proofs.Grammar.Conforming
import Tabletop.Proofs.Grammar.Splitting

/-!
# The rounds of a repetition

A repetition is described here by where its rounds end, in bytes from the beginning of
the text. `Greedy` holds of a list of rounds if each of them reads what a round has to
read where the one before it ended, if nothing stopped the repetition earlier, and if
something stops it at the end of the list. There is one such list for every text, and
a repetition yields the items of its rounds or misses some that it needs.

The description knows nothing of the loop. A round that is given back, with a delimiter
that no item follows, has no place in it: it is a reason to stop, and not a round.
-/

namespace Tabletop

universe u

variable {C : Type u}

namespace Grammar

/-- A grammar reads a value from one byte position of a text up to another. -/
def Reads (g : Grammar C) (names : List String) (text : List Char) (start : Nat)
    (value : Value C) (stop : Nat) : Prop :=
  ∃ front back parsed, Text.cut? text start = some (front, back) ∧
    g.run names back = .ok parsed ∧ parsed.value = value ∧
    start + Text.width parsed.consumed = stop

/-- A grammar fails behind a byte position of a text. -/
def FailsAt (g : Grammar C) (names : List String) (text : List Char) (start : Nat) : Prop :=
  ∃ front back why, Text.cut? text start = some (front, back) ∧ g.run names back = .error why

variable {g : Grammar C} {names : List String} {text : List Char} {start : Nat}

theorem reads_behind (front : List Char) {back : List Char} {parsed : Parsed C}
    (h : g.run names back = .ok parsed) :
    g.Reads names (front ++ back) (Text.width front) parsed.value
      (Text.width front + Text.width parsed.consumed) :=
  ⟨front, back, parsed, Text.cut?_append front back, h, rfl, rfl⟩

theorem failsAt_behind (front : List Char) {back : List Char} {why : Rejection}
    (h : g.run names back = .error why) : g.FailsAt names (front ++ back) (Text.width front) :=
  ⟨front, back, why, Text.cut?_append front back, h⟩

theorem Reads.unique {value value' : Value C} {stop stop' : Nat}
    (h : g.Reads names text start value stop) (h' : g.Reads names text start value' stop') :
    value = value' ∧ stop = stop' := by
  obtain ⟨front, back, parsed, hcut, hrun, rfl, rfl⟩ := h
  obtain ⟨front', back', parsed', hcut', hrun', rfl, rfl⟩ := h'
  rw [hcut] at hcut'
  cases hcut'
  rw [hrun] at hrun'
  cases hrun'
  exact ⟨rfl, rfl⟩

theorem Reads.not_failsAt {value : Value C} {stop : Nat}
    (h : g.Reads names text start value stop) : ¬ g.FailsAt names text start := by
  rintro ⟨front', back', why, hcut', hrun'⟩
  obtain ⟨front, back, parsed, hcut, hrun, -, -⟩ := h
  rw [hcut] at hcut'
  cases hcut'
  rw [hrun] at hrun'
  cases hrun'

theorem Reads.le {value : Value C} {stop : Nat} (h : g.Reads names text start value stop) :
    start ≤ stop := by
  obtain ⟨front, back, parsed, -, -, -, rfl⟩ := h
  exact Nat.le_add_right _ _

end Grammar

namespace Items

variable {items : Items C} {count : Bounds Nat}

theorem outcome_of_enough (h : ∀ least ∈ count.least, least ≤ items.values.length) :
    items.outcome count = .ok ⟨.list items.values, items.consumed, items.remaining⟩ := by
  unfold outcome
  split
  · rfl
  · rename_i least hleast
    rw [if_neg (Nat.not_lt.mpr (h least hleast))]

theorem outcome_of_few {least : Nat} (hleast : least ∈ count.least)
    (hfew : items.values.length < least) :
    items.outcome count =
      .error ⟨some ("expected at least " ++ Text.Decimal.natText least ++
        " items but could only parse " ++ Text.Decimal.natText items.values.length), [],
        Text.width items.consumed⟩ := by
  unfold outcome
  rw [Option.mem_def.mp hleast]
  dsimp only
  rw [if_pos hfew]
  rfl

end Items

namespace Repetition

/-- The value of the item of a round, and the byte position where the round ends. -/
structure Round (C : Type u) where
  value : Value C
  stop : Nat

/-- Where a repetition stands after some of its rounds. -/
def position (rounds : List (Round C)) (done : Nat) : Nat :=
  (0 :: rounds.map (·.stop)).getD done 0

/-- The last of so many rounds has read nothing, and is not one that may be empty: the first one may
if there is a delimiter. -/
structure Stalled (delimiter : Option (Grammar C)) (rounds : List (Round C)) (done : Nat) :
    Prop where
  later : 0 < done
  still : position rounds done = position rounds (done - 1)
  last : delimiter = none ∨ 1 < done

variable (names : List String) (item : Grammar C) (delimiter : Option (Grammar C))
  (count : Bounds Nat) (text : List Char)

/-- Where the item of the next round starts, after so many rounds: behind a delimiter if there is
one and this is not the first round. -/
inductive ItemStarts : Option (Grammar C) → Nat → Nat → Nat → Prop
  | first {delimiter : Option (Grammar C)} {here : Nat} : ItemStarts delimiter 0 here here
  | adjoined {done here : Nat} : ItemStarts none done here here
  | delimited {delimiter : Grammar C} {dropped : Value C} {done here start : Nat}
      (later : 0 < done) (separated : delimiter.Reads names text here dropped start) :
      ItemStarts (some delimiter) done here start

/-- The next round after so many, from where they end. -/
def ReadsRound (done here : Nat) (round : Round C) : Prop :=
  ∃ start, ItemStarts names text delimiter done here start ∧
    item.Reads names text start round.value round.stop

/-- There is no next round after so many, since its delimiter or its item fails. -/
inductive FailsRound (done here : Nat) : Prop
  | delimiter {separator : Grammar C} (needed : separator ∈ delimiter) (later : 0 < done)
      (fails : separator.FailsAt names text here)
  | item {start : Nat} (starts : ItemStarts names text delimiter done here start)
      (fails : item.FailsAt names text start)

/-- The reasons for which a repetition stops after so many of its rounds. -/
inductive Stops (rounds : List (Round C)) (done : Nat) : Prop
  | full (reached : count.most = some done)
  | stalled (stands : Stalled delimiter rounds done)
  | failed (fails : FailsRound names item delimiter text done (position rounds done))

/-- Some rounds of a repetition, none of which was the last. -/
structure Underway (rounds : List (Round C)) : Prop where
  reads : ∀ done (h : done < rounds.length),
    ReadsRound names item delimiter text done (position rounds done) rounds[done]
  goesOn : ∀ done < rounds.length, ¬ Stops names item delimiter count text rounds done

/-- All rounds of a repetition. -/
structure Greedy (rounds : List (Round C)) : Prop
    extends Underway names item delimiter count text rounds where
  stops : Stops names item delimiter count text rounds rounds.length

variable {names item delimiter count text} {rounds later others : List (Round C)} {done here : Nat}

@[simp]
theorem position_zero (rounds : List (Round C)) : position rounds 0 = 0 := rfl

/-- Where the first rounds end does not depend on those after them. -/
theorem position_append (h : done ≤ rounds.length) :
    position (rounds ++ later) done = position rounds done := by
  have hlength : done < (0 :: rounds.map (·.stop)).length := by
    rw [List.length_cons, List.length_map]
    omega
  unfold position
  rw [List.map_append, ← List.cons_append, List.getD_eq_getElem?_getD,
    List.getD_eq_getElem?_getD, List.getElem?_append_left hlength]

theorem position_succ (h : done < rounds.length) :
    position rounds (done + 1) = rounds[done].stop := by
  simp [position, h]

theorem position_concat (rounds : List (Round C)) (next : Round C) :
    position (rounds ++ [next]) (rounds.length + 1) = next.stop := by
  rw [position_succ (by simp)]
  simp

/-- Whether one more round stalls. -/
theorem stalled_concat_iff (hhere : position rounds rounds.length = here) {value : Value C}
    {bytes : Nat} :
    Stalled delimiter (rounds ++ [⟨value, here + bytes⟩]) (rounds.length + 1) ↔
      bytes = 0 ∧ (delimiter = none ∨ 0 < rounds.length) := by
  have hbefore : position (rounds ++ [⟨value, here + bytes⟩]) (rounds.length + 1 - 1) = here := by
    rw [Nat.add_sub_cancel, position_append (Nat.le_refl _), hhere]
  constructor
  · rintro ⟨-, hstill, hlast⟩
    rw [position_concat, hbefore] at hstill
    dsimp only at hstill
    exact ⟨by omega, hlast.imp_right (by omega)⟩
  · rintro ⟨rfl, hlast⟩
    refine ⟨Nat.succ_pos _, ?_, hlast.imp_right (by omega)⟩
    rw [position_concat, hbefore]
    rfl

theorem stops_append (h : done ≤ rounds.length) :
    Stops names item delimiter count text (rounds ++ later) done ↔
      Stops names item delimiter count text rounds done := by
  have hhere : position (rounds ++ later) done = position rounds done := position_append h
  have hbefore : position (rounds ++ later) (done - 1) = position rounds (done - 1) :=
    position_append (by omega)
  constructor
  · rintro (hfull | ⟨hlater, hstill, hlast⟩ | hfails)
    · exact .full hfull
    · exact .stalled ⟨hlater, by rw [← hhere, ← hbefore, hstill], hlast⟩
    · exact .failed (hhere ▸ hfails)
  · rintro (hfull | ⟨hlater, hstill, hlast⟩ | hfails)
    · exact .full hfull
    · exact .stalled ⟨hlater, by rw [hhere, hbefore, hstill], hlast⟩
    · exact .failed (hhere.symm ▸ hfails)

/-! ## One round -/

theorem ItemStarts.unique {start start' : Nat}
    (h : ItemStarts names text delimiter done here start)
    (h' : ItemStarts names text delimiter done here start') : start = start' := by
  cases h with
  | first =>
    cases h' with
    | first => rfl
    | adjoined => rfl
    | delimited hlater => exact absurd hlater (Nat.lt_irrefl 0)
  | adjoined => cases h' <;> rfl
  | delimited hlater hreads =>
    cases h' with
    | first => exact absurd hlater (Nat.lt_irrefl 0)
    | delimited _ hreads' => exact (hreads.unique hreads').2

theorem ReadsRound.unique {round round' : Round C}
    (h : ReadsRound names item delimiter text done here round)
    (h' : ReadsRound names item delimiter text done here round') : round = round' := by
  obtain ⟨start, hstarts, hreads⟩ := h
  obtain ⟨start', hstarts', hreads'⟩ := h'
  obtain rfl := hstarts.unique hstarts'
  obtain ⟨hvalue, hstop⟩ := hreads.unique hreads'
  cases round
  cases round'
  cases hvalue
  cases hstop
  rfl

theorem ReadsRound.not_fails {round : Round C}
    (h : ReadsRound names item delimiter text done here round) :
    ¬ FailsRound names item delimiter text done here := by
  obtain ⟨start, hstarts, hreads⟩ := h
  rintro (⟨hneeded, hlater, hfails⟩ | ⟨hstarts', hfails⟩)
  · cases hstarts with
    | first => omega
    | adjoined => cases hneeded
    | delimited _ hseparated =>
      cases hneeded
      exact hseparated.not_failsAt hfails
  · obtain rfl := hstarts.unique hstarts'
    exact hreads.not_failsAt hfails

theorem ReadsRound.le {round : Round C}
    (h : ReadsRound names item delimiter text done here round) : here ≤ round.stop := by
  obtain ⟨start, hstarts, hreads⟩ := h
  refine Nat.le_trans ?_ hreads.le
  cases hstarts with
  | first => exact Nat.le_refl _
  | adjoined => exact Nat.le_refl _
  | delimited _ hseparated => exact hseparated.le

variable {front back : List Char}

/-- A round of the loop is a round. -/
theorem readsRound_of_round (front : List Char) {next : Parsed C} (hdone : 0 < done)
    (h : round (item.run names) (delimiter.map (·.run names)) back = some next) :
    ReadsRound names item delimiter (front ++ back) done (Text.width front)
      ⟨next.value, Text.width front + Text.width next.consumed⟩ := by
  cases delimiter with
  | none => exact ⟨_, .adjoined, Grammar.reads_behind front (ok_of_round_none h)⟩
  | some d =>
    obtain ⟨mark, found, hmark, hfound, rfl⟩ := exists_of_round_some h
    dsimp only at hmark
    have hsplit := Grammar.run_fits names d back
    rw [hmark] at hsplit
    have hseparated := Grammar.reads_behind front hmark
    have hreads := Grammar.reads_behind (front ++ mark.consumed) hfound
    rw [List.append_assoc, hsplit.split, Text.width_append] at hreads
    refine ⟨_, .delimited hdone hseparated, ?_⟩
    rw [Text.width_append, ← Nat.add_assoc]
    exact hreads

/-- A round that the loop gives back fails. -/
theorem failsRound_of_round (front : List Char) (hdone : 0 < done)
    (h : round (item.run names) (delimiter.map (·.run names)) back = none) :
    FailsRound names item delimiter (front ++ back) done (Text.width front) := by
  cases delimiter with
  | none =>
    cases hrun : item.run names back with
    | ok found => simp [round, hrun, Except.toOption] at h
    | error why => exact .item .adjoined (Grammar.failsAt_behind front hrun)
  | some d =>
    cases hmark : d.run names back with
    | error why => exact .delimiter rfl hdone (Grammar.failsAt_behind front hmark)
    | ok mark =>
      cases hrun : item.run names mark.remaining with
      | ok found => simp [round, hmark, hrun] at h
      | error why =>
        have hsplit := Grammar.run_fits names d back
        rw [hmark] at hsplit
        have hfails := Grammar.failsAt_behind (front ++ mark.consumed) hrun
        rw [List.append_assoc, hsplit.split, Text.width_append] at hfails
        exact .item (.delimited hdone (Grammar.reads_behind front hmark)) hfails

/-! ## Rounds in a row -/

namespace Underway

theorem nil : Underway names item delimiter count text [] :=
  ⟨nofun, nofun⟩

/-- One more round, if nothing stopped the repetition before. -/
theorem concat (h : Underway names item delimiter count text rounds) {next : Round C}
    (hgoes : ¬ Stops names item delimiter count text rounds rounds.length)
    (hreads : ReadsRound names item delimiter text rounds.length (position rounds rounds.length)
      next) :
    Underway names item delimiter count text (rounds ++ [next]) := by
  constructor
  · intro done hdone
    rw [List.length_append, List.length_singleton] at hdone
    rw [position_append (by omega)]
    by_cases hbefore : done < rounds.length
    · rw [List.getElem_append_left hbefore]
      exact h.reads done hbefore
    · obtain rfl : done = rounds.length := by omega
      rw [List.getElem_concat_length rfl]
      exact hreads
  · intro done hdone
    rw [List.length_append, List.length_singleton] at hdone
    rw [stops_append (by omega)]
    by_cases hbefore : done < rounds.length
    · exact h.goesOn done hbefore
    · obtain rfl : done = rounds.length := by omega
      exact hgoes

theorem of_append (h : Underway names item delimiter count text (rounds ++ later)) :
    Underway names item delimiter count text rounds := by
  constructor
  · intro done hdone
    have hreads := h.reads done (by rw [List.length_append]; omega)
    rw [position_append (by omega), List.getElem_append_left hdone] at hreads
    exact hreads
  · intro done hdone
    have hgoes := h.goesOn done (by rw [List.length_append]; omega)
    rwa [stops_append (by omega)] at hgoes

/-- No more rounds than are allowed. -/
theorem le_most (h : Underway names item delimiter count text rounds) :
    ∀ most ∈ count.most, rounds.length ≤ most := by
  intro most hmost
  by_contra hmore
  exact h.goesOn most (by omega) (.full hmost)

theorem position_le_succ (h : Underway names item delimiter count text rounds)
    (hdone : done < rounds.length) : position rounds done ≤ position rounds (done + 1) := by
  rw [position_succ hdone]
  exact (h.reads done hdone).le

/-- Whatever rounds are under way, a repetition that stops has begun with them. -/
theorem isPrefix (h : Underway names item delimiter count text rounds)
    (h' : Greedy names item delimiter count text others) : rounds <+: others := by
  induction rounds using List.reverseRecOn with
  | nil => exact List.nil_prefix
  | append_singleton before last ih =>
    obtain ⟨rest, rfl⟩ := ih h.of_append
    -- Here the other list cannot have stopped, so it has a round, which can only be the same.
    have hreads := h.reads before.length (by simp)
    have hgoes := h.goesOn before.length (by simp)
    rw [position_append (Nat.le_refl _), List.getElem_concat_length rfl] at hreads
    rw [stops_append (Nat.le_refl _)] at hgoes
    cases rest with
    | nil =>
      have hstops := h'.stops
      rw [List.append_nil] at hstops
      exact absurd hstops hgoes
    | cons next rest =>
      have hreads' := h'.reads before.length (by simp)
      rw [position_append (Nat.le_refl _), List.getElem_append_right (Nat.le_refl _)] at hreads'
      simp only [Nat.sub_self, List.getElem_cons_zero] at hreads'
      obtain rfl := hreads.unique hreads'
      exact ⟨rest, by simp⟩

end Underway

/-- A repetition has only one list of rounds. -/
theorem Greedy.unique (h : Greedy names item delimiter count text rounds)
    (h' : Greedy names item delimiter count text others) : others = rounds :=
  (h'.toUnderway.isPrefix h).eq_of_length_le (h.toUnderway.isPrefix h').length_le

/-! ## The loop -/

theorem fitting_delimiter (names : List String) (delimiter : Option (Grammar C)) :
    ∀ d ∈ delimiter.map (·.run names), Matcher.Fitting d := by
  cases delimiter with
  | none => exact nofun
  | some d =>
    rintro _ ⟨rfl⟩
    exact Grammar.run_fits names d

/-- A round of the loop goes to the end of what it consumed, which is further on just if it leaves
less of the text. -/
theorem width_pos_of_round {next : Parsed C} (hsplit : next.consumed ++ next.remaining = back) :
    0 < Text.width next.consumed ↔ next.remaining.length < back.length := by
  rw [Nat.pos_iff_ne_zero, ne_eq, Text.width_eq_zero_iff, ← hsplit, List.length_append,
    ← List.length_eq_zero_iff]
  omega

/-- What the loop reads from a position on are the items of the rounds that are left. -/
def Completes (names : List String) (item : Grammar C) (delimiter : Option (Grammar C))
    (count : Bounds Nat) (text : List Char) (rounds : List (Round C)) (here : Nat)
    (items : Items C) : Prop :=
  ∃ later, Greedy names item delimiter count text (rounds ++ later) ∧
    items.values = later.map (·.value) ∧
    position (rounds ++ later) (rounds ++ later).length = here + Text.width items.consumed

theorem Completes.none (h : Greedy names item delimiter count text rounds)
    (hhere : position rounds rounds.length = here) (input : List Char) :
    Completes names item delimiter count text rounds here (.none input) := by
  refine ⟨[], ?_, rfl, ?_⟩
  · rwa [List.append_nil]
  · rw [List.append_nil, hhere]
    rfl

theorem Completes.before {first : Parsed C} {items : Items C}
    (h : Completes names item delimiter count text
      (rounds ++ [⟨first.value, here + Text.width first.consumed⟩])
      (here + Text.width first.consumed) items) :
    Completes names item delimiter count text rounds here (.before first items) := by
  obtain ⟨later, hgreedy, hvalues, hend⟩ := h
  rw [List.append_assoc] at hgreedy hend
  refine ⟨_, hgreedy, ?_, ?_⟩
  · simp [Items.before, hvalues]
  · rw [hend]
    simp only [Items.before, Text.width_append]
    omega

/-- A round that the loop reads is one more round, if nothing else stops the repetition. -/
theorem Underway.concat_round (h : Underway names item delimiter count (front ++ back) rounds)
    (hlater : 0 < rounds.length) (hhere : position rounds rounds.length = Text.width front)
    (hmoves : ¬ Stalled delimiter rounds rounds.length)
    (hopen : ¬ count.isReached rounds.length = true) {next : Parsed C}
    (hround : round (item.run names) (delimiter.map (·.run names)) back = some next) :
    Underway names item delimiter count (front ++ back)
      (rounds ++ [⟨next.value, Text.width front + Text.width next.consumed⟩]) := by
  have hreads := readsRound_of_round front hlater hround
  rw [← hhere] at hreads
  refine h.concat ?_ (hhere ▸ hreads)
  rintro (hfull | hstalled | hfails)
  · exact Nat.lt_irrefl _ (Bounds.lt_of_not_isReached hopen _ hfull)
  · exact hmoves hstalled
  · exact hreads.not_fails hfails

/-- The greatest count that the rounds have reached is their number. -/
theorem Underway.most_of_isReached (h : Underway names item delimiter count text rounds)
    (hreached : count.isReached rounds.length = true) : count.most = some rounds.length := by
  obtain ⟨most, hmost, hle⟩ : ∃ most ∈ count.most, most ≤ rounds.length := by
    simpa [Bounds.isReached, Option.any_eq_true] using hreached
  rw [hmost, Nat.le_antisymm hle (h.le_most most hmost)]

/-- The invariant of the loop: from rounds that are under way, and that nothing but the next round
can stop, it goes on to all rounds. -/
theorem more_completes (htext : front ++ back = text) (hlength : rounds.length = done)
    (hunder : Underway names item delimiter count text rounds) (hlater : 0 < done)
    (hhere : position rounds done = Text.width front) (hmoves : ¬ Stalled delimiter rounds done) :
    Completes names item delimiter count text rounds (Text.width front)
      (more (item.run names) (delimiter.map (·.run names)) count done back) := by
  -- The count is full, or there is no next round, or it moves on, or it stands still.
  fun_induction more (item.run names) (delimiter.map (·.run names)) count done back
    generalizing front rounds with
  | case1 done back hreached =>
    subst hlength
    exact .none ⟨hunder, .full (hunder.most_of_isReached hreached)⟩ hhere back
  | case2 done back hreached hround =>
    subst htext hlength
    have hfails := failsRound_of_round front hlater hround
    exact .none ⟨hunder, .failed (hhere ▸ hfails)⟩ hhere back
  | case3 done back hreached next hround hshorter ih =>
    subst htext hlength
    have hnext := hunder.concat_round hlater hhere hmoves hreached hround
    have hsplit := split_of_round (Grammar.run_fits names item) (fitting_delimiter names delimiter)
      hround
    have hforward := (width_pos_of_round hsplit).mpr hshorter
    have hbehind : front ++ next.consumed ++ next.remaining = front ++ back := by
      rw [List.append_assoc, hsplit]
    have hthere : position (rounds ++ [⟨next.value, Text.width front + Text.width next.consumed⟩])
        (rounds.length + 1) = Text.width (front ++ next.consumed) := by
      rw [position_concat, Text.width_append]
    have hrest := ih hbehind (by simp) hnext (Nat.succ_pos _) hthere (by
      rw [stalled_concat_iff hhere]
      omega)
    rw [Text.width_append] at hrest
    exact hrest.before
  | case4 done back hreached next hround hshorter =>
    subst htext hlength
    have hnext := hunder.concat_round hlater hhere hmoves hreached hround
    have hsplit := split_of_round (Grammar.run_fits names item) (fitting_delimiter names delimiter)
      hround
    have hnothing := mt (width_pos_of_round hsplit).mp hshorter
    refine Completes.before (.none ⟨hnext, ?_⟩ ?_ _)
    · rw [List.length_append, List.length_singleton]
      exact .stalled ((stalled_concat_iff hhere).mpr ⟨by omega, .inr hlater⟩)
    · rw [List.length_append, List.length_singleton, position_concat]

/-- What the loop reads are the items of all rounds, unless there can be none. -/
theorem items_completes (names : List String) (item : Grammar C) (delimiter : Option (Grammar C))
    (text : List Char) (hsome : count.most ≠ some 0) :
    Completes names item delimiter count text [] 0
      (items (item.run names) (delimiter.map (·.run names)) count text) := by
  unfold items
  cases hrun : item.run names text with
  | error why =>
    refine .none ⟨.nil, .failed (.item .first ?_)⟩ rfl text
    exact Grammar.failsAt_behind [] hrun
  | ok first =>
    have hfits := Grammar.run_fits names item text
    rw [hrun] at hfits
    have hforward := width_pos_of_round hfits.split
    have hreads : ReadsRound names item delimiter text 0 0
        ⟨first.value, 0 + Text.width first.consumed⟩ :=
      ⟨0, .first, Grammar.reads_behind [] hrun⟩
    have hnext : Underway names item delimiter count text
        ([] ++ [⟨first.value, 0 + Text.width first.consumed⟩]) := by
      refine Underway.nil.concat ?_ hreads
      rintro (hfull | hstalled | hfails)
      · exact hsome hfull
      · exact Nat.lt_irrefl 0 hstalled.later
      · exact hreads.not_fails hfails
    have hends : Stalled delimiter ([] ++ [⟨first.value, 0 + Text.width first.consumed⟩]) 1 ↔
        ((delimiter.map (·.run names)).isNone && stalled text first) = true := by
      refine (stalled_concat_iff (position_zero [])).trans ?_
      cases delimiter with
      | none =>
        simp [stalled]
        omega
      | some d => simp
    dsimp only
    split_ifs with hstop
    · exact Completes.before (.none ⟨hnext, .stalled (hends.mpr hstop)⟩ (position_concat [] _) _)
    · refine Completes.before ?_
      rw [← hends] at hstop
      rw [Nat.zero_add] at hnext hstop ⊢
      exact more_completes hfits.split rfl hnext Nat.one_pos (position_concat [] _) hstop

/-- What a repetition comes to when these are all its rounds. -/
structure Yields (count : Bounds Nat) (text : List Char) (rounds : List (Round C))
    (outcome : Outcome C) : Prop where
  enough : (∀ least ∈ count.least, least ≤ rounds.length) → ∃ consumed remaining,
    Text.cut? text (position rounds rounds.length) = some (consumed, remaining) ∧
    outcome = .ok ⟨.list (rounds.map (·.value)), consumed, remaining⟩
  tooFew : ∀ least ∈ count.least, rounds.length < least →
    outcome = .error ⟨some ("expected at least " ++ Text.Decimal.natText least ++
      " items but could only parse " ++ Text.Decimal.natText rounds.length), [],
      position rounds rounds.length⟩

theorem outcome_yields {items : Items C} (hsplit : items.consumed ++ items.remaining = text)
    (hvalues : items.values = rounds.map (·.value))
    (hend : position rounds rounds.length = Text.width items.consumed) :
    Yields count text rounds (items.outcome count) := by
  have hlength : items.values.length = rounds.length := by rw [hvalues, List.length_map]
  constructor
  · intro henough
    have hcut := Text.cut?_append items.consumed items.remaining
    rw [hsplit, ← hend] at hcut
    refine ⟨items.consumed, items.remaining, hcut, ?_⟩
    rw [Items.outcome_of_enough (by rwa [hlength]), hvalues]
  · intro least hleast hfew
    rw [Items.outcome_of_few hleast (by rwa [hlength]), hlength, hend]

end Repetition

namespace Grammar

theorem run_many (names : List String) (item : Grammar C) (count : Bounds Nat)
    (delimiter : Option (Grammar C)) (input : List Char) :
    (many item count delimiter).run names input =
      Repetition.read (item.run names) (delimiter.map (·.run names)) count input := by
  cases delimiter <;> rw [run] <;> rfl

/-- A repetition reads as many rounds as it can, and there is only one way to count them. It
succeeds with their items where the last one ends if there are enough, and is rejected there
otherwise. With limits that leave nothing to repeat it reads nothing. -/
theorem parse_many (item : Grammar C) (count : Bounds Nat) (delimiter : Option (Grammar C))
    (input : String) (names : List String) :
    (count.Empty →
      (many item count delimiter).parse input names = .ok ⟨.list [], [], input.toList⟩) ∧
    (¬ count.Empty → ∃ rounds,
      Repetition.Greedy names item delimiter count input.toList rounds ∧
      (∀ others, Repetition.Greedy names item delimiter count input.toList others →
        others = rounds) ∧
      (∀ done < rounds.length,
        Repetition.position rounds done ≤ Repetition.position rounds (done + 1)) ∧
      (∀ most ∈ count.most, rounds.length ≤ most) ∧
      Repetition.Yields count input.toList rounds
        ((many item count delimiter).parse input names)) := by
  unfold parse
  rw [run_many]
  unfold Repetition.read
  constructor
  · intro hempty
    rw [if_pos (Bounds.isVoid_iff.mpr hempty)]
  · intro hsome
    have hpositive : count.most ≠ some 0 := fun hzero => hsome (.inl hzero)
    rw [if_neg (mt Bounds.isVoid_iff.mp hsome)]
    obtain ⟨rounds, hgreedy, hvalues, hend⟩ :=
      Repetition.items_completes names item delimiter input.toList hpositive
    rw [List.nil_append, Nat.zero_add] at hend
    rw [List.nil_append] at hgreedy
    have hsplit := Repetition.items_split (run_fits names item)
      (Repetition.fitting_delimiter names delimiter) count input.toList
    have hunder := hgreedy.toUnderway
    exact ⟨rounds, hgreedy, fun others h => hgreedy.unique h,
      fun done hdone => hunder.position_le_succ hdone, hunder.le_most,
      Repetition.outcome_yields hsplit hvalues hend⟩

end Grammar

end Tabletop
