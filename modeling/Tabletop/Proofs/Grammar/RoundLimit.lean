import Tabletop.Proofs.Grammar.Rounds

/-!
# How many rounds a text allows

An item may succeed on nothing as often as it is asked, and so may a delimiter, and the
greatest count may be missing. What ends a repetition then is that a round which stands
still is the last. Only the first round may stand still and be followed by others, and
only if a delimiter comes between. Every other round but the last goes at least one byte
forward, so that there are as many rounds as bytes and one or two more.

This is shown of any rounds that a repetition can have gone through, finished or not:
the description of these rounds has no bound built in.
-/

namespace Tabletop

universe u

variable {C : Type u}

namespace Grammar

/-- What a grammar reads ends within the text. -/
theorem Reads.le_width {g : Grammar C} {names : List String} {text : List Char}
    {start stop : Nat} {value : Value C} (h : g.Reads names text start value stop) :
    stop ≤ Text.width text := by
  obtain ⟨front, back, parsed, hcut, hrun, rfl, rfl⟩ := h
  obtain ⟨rfl, rfl⟩ := Text.cut?_eq_some hcut
  have hfits := run_fits names g back
  rw [hrun] at hfits
  rw [← hfits.split, Text.width_append, Text.width_append]
  omega

end Grammar

namespace Repetition

/-- How many rounds of a repetition may stand still: the last one, and the first one if a delimiter
can follow it. -/
def idleRounds : Option (Grammar C) → Nat
  | none => 1
  | some _ => 2

variable {names : List String} {item : Grammar C} {delimiter : Option (Grammar C)}
  {count : Bounds Nat} {text : List Char} {rounds : List (Round C)} {done : Nat}

theorem idleRounds_pos : 0 < idleRounds delimiter := by
  cases delimiter with
  | none => exact Nat.one_pos
  | some d => exact Nat.two_pos

namespace Underway

theorem position_le_width (h : Underway names item delimiter count text rounds)
    (hdone : done ≤ rounds.length) : position rounds done ≤ Text.width text := by
  cases done with
  | zero => exact Nat.zero_le _
  | succ done =>
    obtain ⟨start, -, hreads⟩ := h.reads done hdone
    rw [position_succ hdone]
    exact hreads.le_width

/-- A round that is neither the last nor one that may stand still goes forward. -/
theorem position_lt_succ (h : Underway names item delimiter count text rounds)
    (hdone : done + 1 < rounds.length) (hmoves : delimiter = none ∨ 0 < done) :
    position rounds done < position rounds (done + 1) := by
  refine Nat.lt_of_le_of_ne (h.position_le_succ (by omega)) fun hstill => ?_
  refine h.goesOn (done + 1) hdone (.stalled ⟨Nat.succ_pos done, ?_, ?_⟩)
  · rw [Nat.add_sub_cancel, hstill]
  · exact hmoves.imp_right Nat.succ_lt_succ

/-- The step: every round that is followed by another leaves the repetition no fewer bytes from the
beginning than there are rounds, except for those that may stand still. -/
theorem lt_position_add (h : Underway names item delimiter count text rounds)
    (hdone : done < rounds.length) : done < position rounds done + idleRounds delimiter := by
  induction done with
  | zero => exact Nat.lt_of_lt_of_le idleRounds_pos (Nat.le_add_left _ _)
  | succ done ih =>
    have hbefore := ih (by omega)
    cases delimiter with
    | none =>
      have hforward := h.position_lt_succ hdone (.inl rfl)
      omega
    | some d =>
      cases done with
      | zero => exact Nat.lt_of_lt_of_le Nat.one_lt_two (Nat.le_add_left _ _)
      | succ done =>
        have hforward := h.position_lt_succ hdone (.inr (Nat.succ_pos done))
        omega

/-- A repetition cannot have gone through more rounds than its text has bytes, those apart that may
stand still. -/
theorem length_le (h : Underway names item delimiter count text rounds) :
    rounds.length ≤ Text.width text + idleRounds delimiter := by
  cases hlength : rounds.length with
  | zero => exact Nat.zero_le _
  | succ done =>
    have hbytes : position rounds done ≤ Text.width text := h.position_le_width (by omega)
    have hrounds : done < position rounds done + idleRounds delimiter :=
      h.lt_position_add (by omega)
    omega

end Underway

end Repetition

namespace Grammar

/-- Repetitions end. There are rounds after which something stops them, they never go through more
than the bytes of the text allow, whatever the item and the delimiter succeed on and whether or not
there is a greatest count, and so there are no more items in what they read. -/
theorem parse_many_ends (item : Grammar C) (count : Bounds Nat) (delimiter : Option (Grammar C))
    (input : String) (names : List String) :
    (¬ count.Empty → ∃ rounds, Repetition.Greedy names item delimiter count input.toList rounds) ∧
      (∀ rounds, Repetition.Underway names item delimiter count input.toList rounds →
        rounds.length ≤ input.utf8ByteSize + Repetition.idleRounds delimiter) ∧
      ∀ parsed, (many item count delimiter).parse input names = .ok parsed →
        ∃ values, parsed.value = .list values ∧
          values.length ≤ input.utf8ByteSize + Repetition.idleRounds delimiter := by
  rw [← Text.width_toList]
  refine ⟨fun hsome => ?_, fun rounds h => h.length_le, fun parsed h => ?_⟩
  · obtain ⟨rounds, hgreedy, -⟩ := Repetition.items_completes names item delimiter input.toList
      fun hzero => hsome (.inl hzero)
    exact ⟨_, hgreedy⟩
  · rw [parse, run_many, Repetition.read] at h
    split_ifs at h with hvoid
    · cases h
      exact ⟨[], rfl, Nat.zero_le _⟩
    · obtain ⟨rfl, -⟩ := Items.parsed_of_outcome h
      obtain ⟨rounds, hgreedy, hvalues, -⟩ := Repetition.items_completes names item delimiter
        input.toList fun hzero => hvoid (Bounds.isVoid_iff.mpr (.inl hzero))
      refine ⟨_, rfl, ?_⟩
      rw [hvalues, List.length_map]
      exact hgreedy.toUnderway.length_le

/-- A card that may be left out. -/
def maybeCard : Grammar Empty :=
  .opt (.token "card")

/-- A comma that may be left out. -/
def maybeComma : Grammar Empty :=
  .opt (.token ",")

/-- Any number of cards with commas between them, none of which has to be there. -/
def gaps : Grammar Empty :=
  .many maybeCard .none (some maybeComma)

theorem parse_many_ends_of_gaps :
    (∃ rounds, Repetition.Greedy [] maybeCard (some maybeComma) .none [','] rounds ∧
        rounds.length ≤ 1 + 2) ∧
      gaps.parse "," [] = .ok ⟨.list [.absent, .absent, .absent], [','], []⟩ ∧
      ∀ parsed, gaps.parse "," [] = .ok parsed →
        ∃ values, parsed.value = .list values ∧ values.length ≤ 1 + 2 := by
  obtain ⟨hstops, hrounds, hvalues⟩ := parse_many_ends maybeCard .none (some maybeComma) "," []
  obtain ⟨rounds, hgreedy⟩ := hstops (by simp [Bounds.Empty, Bounds.none])
  refine ⟨⟨rounds, hgreedy, hrounds rounds hgreedy.toUnderway⟩, ?_, hvalues⟩
  -- from the end of the text to its beginning, one round at a time
  have hlast : Repetition.more (run [] maybeCard) (some (run [] maybeComma)) .none 2 [] =
      .before ⟨.absent, [], []⟩ (.none []) := by
    rw [Repetition.more]
    rfl
  have hsecond : Repetition.more (run [] maybeCard) (some (run [] maybeComma)) .none 1 [','] =
      .before ⟨.absent, [','], []⟩ (.before ⟨.absent, [], []⟩ (.none [])) := by
    rw [Repetition.more]
    exact congrArg (Items.before _) hlast
  have hall : Repetition.items (run [] maybeCard) (some (run [] maybeComma)) .none [','] =
      .before ⟨.absent, [], [',']⟩
        (.before ⟨.absent, [','], []⟩ (.before ⟨.absent, [], []⟩ (.none []))) :=
    congrArg (Items.before _) hsecond
  rw [parse, gaps, run, Repetition.read, if_neg (by decide)]
  exact congrArg (Items.outcome _) hall

end Grammar

end Tabletop
