import Tabletop.Proofs.Game.Refused
import Tabletop.Proofs.Siege.Moves

/-!
# What stays as it is in a siege

A castle that has been taken is never taken again, although `storm` would give it away
to anybody: the grammar of a state names the castles that stand, and no other command
gets through. A finished game is final, and what is refused leaves no mark. In
particular a refusal costs no die: the dice go on only when an attack is accepted, so
that the rolls that lie ahead do not depend on what was typed in vain.
-/

namespace Tabletop.Siege

/-- The dice move on only in an attack that is accepted, and then by one roll. -/
def RollsInAttack : Play State Command → Prop
  | ⟨state, player, command⟩ =>
    (rules.apply state player command).1.dice = state.dice ∨
      ((rules.apply state player command).1.dice = state.roll.2 ∧
        ∃ castle effect, command = .attack castle ∧
          (rules.apply state player command).2 = .ok effect)

/-- What is settled for good in a state, whatever comes next. -/
structure Settled (state : State) : Prop where
  /-- Whoever holds a castle keeps it. -/
  held : ∀ (castle owner : Nat), state.owners[castle]? = some (some owner) → ∀ submissions,
    (rules.after state submissions).owners[castle]? = some (some owner)
  /-- The end is final, and so are the placings. -/
  ended : ∀ placings, state.status = .finished placings → ∀ submissions,
    rules.after state submissions = state ∧
      (rules.after state submissions).status = .finished placings
  unmarked : ∀ submission why, (rules.respond state submission).2 = .error why →
    (rules.respond state submission).1 = state
  /-- A command moves the dice on only if it is read as an attack and accepted. -/
  rolled : ∀ names player input,
    (rules.command names state player input).1.dice = state.dice ∨
      ∃ castle rest reply, rules.interpret names state player input = .ok (.attack castle, rest) ∧
        (rules.command names state player input).2 = .ok reply

/-- What lasts in a game from its start on. -/
structure Lasting (start : State) : Prop where
  moments : ∀ submissions, ∃ plays, rules.Plays start plays (rules.after start submissions)
  /-- Between any two commands, those of one line included, things are settled for good. -/
  settled : ∀ plays state, rules.Plays start plays state → Settled state
  rolls : ∀ plays state, rules.Plays start plays state → ∀ play ∈ plays, RollsInAttack play
  /-- Refused submissions in the midst of a run get their refusals, and nobody else notices. -/
  inserted : ∀ earlier refused later, rules.AllRefused (rules.after start earlier) refused →
    rules.after start (earlier ++ refused ++ later) = rules.after start (earlier ++ later) ∧
    rules.results start (earlier ++ refused ++ later) =
      rules.results start earlier ++
        (refused.map fun submission =>
          (rules.respond (rules.after start earlier) submission).2) ++
        rules.results (rules.after start earlier) later ∧
    rules.results start (earlier ++ later) =
      rules.results start earlier ++ rules.results (rules.after start earlier) later
  /-- Runs with the same accepted submissions come to the same, whatever else they consist of. -/
  same : ∀ run other, rules.accepted start run = rules.accepted start other →
    rules.after start run = rules.after start other ∧
    rules.replies start run = rules.replies start other

variable {players : Nat} {state : State}

/-! ## Moves -/

/-- Only a castle that nobody holds changes hands. -/
theorem Move.held {command : Command} {outcome : State × Except Refusal Effect}
    (hmove : Move state command outcome) {castle owner : Nat}
    (howner : state.owners[castle]? = some (some owner)) :
    outcome.1.owners[castle]? = some (some owner) := by
  cases hmove with
  | repeated phase taken => exact howner
  | bid phase fresh within more => exact howner
  | lastBid phase fresh within last => exact howner
  | @falls attacked _ _ phase free known met =>
    -- The attacked castle stands, so it is another one.
    have hne : attacked ≠ castle := by
      rintro rfl
      rw [howner] at free
      cases free
    show (state.owners.set attacked (some state.current))[castle]? = some (some owner)
    rw [List.getElem?_set_ne hne]
    exact howner
  | holds phase free known unmet => exact howner
  | pass phase => exact howner

theorem Move.rolled {command : Command} {outcome : State × Except Refusal Effect}
    (hmove : Move state command outcome) :
    outcome.1.dice = state.dice ∨ (outcome.1.dice = state.roll.2 ∧
      ∃ castle effect, command = .attack castle ∧ outcome.2 = .ok effect) := by
  cases hmove with
  | repeated phase taken => exact .inl rfl
  | bid phase fresh within more => exact .inl rfl
  | lastBid phase fresh within last => exact .inl rfl
  | falls phase free known met => exact .inr ⟨rfl, _, _, rfl, rfl⟩
  | holds phase free known unmet => exact .inr ⟨rfl, _, _, rfl, rfl⟩
  | pass phase => exact .inl rfl

/-! ## States in order -/

theorem held_after (h : Orderly players state) {castle owner : Nat}
    (howner : state.owners[castle]? = some (some owner)) (submissions : List Submission) :
    (rules.after state submissions).owners[castle]? = some (some owner) := by
  obtain ⟨plays, hplays⟩ := Rules.after_plays rules state submissions
  let Held (state : State) : Prop :=
    Orderly players state ∧ state.owners[castle]? = some (some owner)
  have happly (state : State) (player : Nat) (command : Command) (hheld : Held state)
      (hlegal : rules.Legal state player command) :
      Held (rules.apply state player command).1 :=
    ⟨orderly_apply hheld.1 hlegal, (move_of_legal hheld.1 hlegal).held hheld.2⟩
  exact (hplays.keeps happly ⟨h, howner⟩).2

theorem after_of_status {placings : List Nat} (hstatus : state.status = .finished placings)
    (submissions : List Submission) : rules.after state submissions = state := by
  refine Rules.after_of_finished ?_ submissions
  show state.status.isFinished = true
  rw [hstatus]
  rfl

theorem rolled_command (h : Orderly players state) (names : List String) (player : Nat)
    (input : String) :
    (rules.command names state player input).1.dice = state.dice ∨
      ∃ castle rest reply, rules.interpret names state player input = .ok (.attack castle, rest) ∧
        (rules.command names state player input).2 = .ok reply := by
  cases hinterpret : rules.interpret names state player input with
  | error why =>
    rw [Rules.command_of_unread hinterpret]
    exact .inl rfl
  | ok found =>
    obtain ⟨command, rest⟩ := found
    rw [Rules.command_of_interpret hinterpret]
    have hmove := move_of_legal h (Rules.legal_of_interpret hinterpret)
    rcases hmove.rolled with hsame | ⟨-, castle, effect, rfl, heffect⟩
    · exact .inl hsame
    · rw [heffect]
      exact .inr ⟨castle, rest, _, rfl, rfl⟩

theorem settled_of_orderly (h : Orderly players state) : Settled state where
  held _ _ howner := held_after h howner
  ended := by
    intro placings hstatus submissions
    have hafter := after_of_status hstatus submissions
    rw [hafter]
    exact ⟨rfl, hstatus⟩
  unmarked _ _ hrefused := Rules.respond_of_refused Rules.keepsRefused_siege hrefused
  rolled := rolled_command h

theorem rollsInAttack_of_legal (h : Orderly players state) {player : Nat} {command : Command}
    (hlegal : rules.Legal state player command) : RollsInAttack ⟨state, player, command⟩ :=
  (move_of_legal h hlegal).rolled

/-! ## Runs -/

/-- A game from `setUp` goes one way: castles do not change hands twice, the end is the end, and
neither the players nor the dice can tell that something was refused. -/
theorem lasting_of_setUp (players : Nat) (source : Random.Stream) (start : State)
    (notices : List Notice) (h : setUp players source = .ok (start, notices)) : Lasting start where
  moments := Rules.after_plays rules start
  settled := by
    intro plays state hplays
    exact settled_of_orderly (orderly_of_plays (orderly_setUp h) hplays).1
  rolls := by
    intro plays state hplays play hmem
    obtain ⟨horderly, hlegal⟩ := (orderly_of_plays (orderly_setUp h) hplays).2 play hmem
    exact rollsInAttack_of_legal horderly hlegal
  inserted := Rules.run_around_refused Rules.keepsRefused_siege start
  same _ _ hsame := Rules.run_eq_of_accepted_eq Rules.keepsRefused_siege hsame

/-- The first of two players has bid. -/
def oneBid : List Submission :=
  [⟨[], 0, "bid 3", false⟩]

/-- That player tries to bid more at once, although it is the turn of the other. -/
def outOfTurn : Submission :=
  ⟨[], 0, "bid 9", false⟩

theorem respond_outOfTurn (dice : Random.Stream) :
    (rules.respond (rules.after ⟨2, .bidding (List.replicate 2 none), 0,
      List.replicate castles.length none, dice⟩ oneBid) outOfTurn).2 = .error .notYourTurn := by
  have hbid : rules.interpret [] ⟨2, .bidding (List.replicate 2 none), 0,
      List.replicate castles.length none, dice⟩ 0 "bid 3" = .ok (.bid 3, "") := rfl
  rw [oneBid, Rules.after_of_interpret hbid]
  rfl

/-- A game of two players. The bid out of turn is refused, and whatever comes after it goes as if
it had not been made. -/
theorem lasting_of_two :
    ∃ start notices, setUp 2 (.ofSeed 7) = .ok (start, notices) ∧ Lasting start ∧
      (rules.respond (rules.after start oneBid) outOfTurn).2 = .error .notYourTurn ∧
      ∀ later, rules.after start (oneBid ++ [outOfTurn] ++ later) =
        rules.after start (oneBid ++ later) := by
  have hplayers : 2 ≤ 2 ∧ 2 ≤ 4 := by decide
  have h := setUp_of_players hplayers (.ofSeed 7)
  have hlasting := lasting_of_setUp 2 (.ofSeed 7) _ _ h
  have hwhy := respond_outOfTurn (Random.Stream.ofSeed 7).split.1
  refine ⟨_, _, h, hlasting, hwhy, fun later => (hlasting.inserted _ [outOfTurn] later ?_).1⟩
  intro submission hmem
  obtain rfl := List.mem_singleton.mp hmem
  exact ⟨_, hwhy⟩

end Tabletop.Siege
