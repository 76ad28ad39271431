import Tabletop.Proofs.Siege.Moves

/-!
# A siege stays in order and goes on

Whatever the players submit, a game made by `setUp` is always in order: between the
submissions, and inside a line between its commands. Everything that a legal command
looks up is there, so that no submission is answered with an internal error, and the
player to move always has something to say that is accepted, until the last castle has
fallen. The bidding ends with the move going to the one player with the highest bid.

Nothing is assumed about the dice. Progress means that the game can be continued, not
that it ends: all players may pass for ever.
-/

namespace Tabletop.Siege

/-- What a play looks up is there: the bidder's place among the bids, or the castle among the
castles and their owners. -/
def InBounds : Play State Command → Prop
  | ⟨state, player, .bid _⟩ => ∃ bids, state.phase = .bidding bids ∧ player < bids.length
  | ⟨state, _, .attack castle⟩ =>
    state.phase = .siege ∧ castle < castles.length ∧ castle < state.owners.length
  | ⟨state, _, .pass⟩ => state.phase = .siege

/-- If a play ends the bidding, everybody has bid, and the move goes to the highest bidder. -/
def SettlesBids : Play State Command → Prop
  | ⟨state, player, command⟩ =>
    ∀ bids, state.phase = .bidding bids → (rules.apply state player command).1.phase = .siege →
      ∃ last, command = .bid last ∧
        (∀ seat < state.players, ∃ amount,
          (bids.set player (some last))[seat]? = some (some amount)) ∧
        Highest (bids.set player (some last)) (rules.apply state player command).1.current

/-- What is true of a game after some plays. -/
structure WellPlayed (players : Nat) (plays : List (Play State Command)) (state : State) :
    Prop where
  orderly : Orderly players state
  settled : ∀ play ∈ plays, SettlesBids play
  /-- No play looks for something that is not there, and neither do the grammars. -/
  bounded : ∀ play ∈ plays, InBounds play
  standing_lt : ∀ castle ∈ state.standing, castle < castles.length
  /-- No submission meets with an internal error. -/
  sound : ∀ submission message, (rules.respond state submission).2 ≠ .error (.internal message)
  /-- As long as the game goes on, the player to move can say something that is accepted. -/
  goesOn : rules.isFinished state = false →
    ∃ input, ∀ names, ∃ reply, (rules.command names state state.current input).2 = .ok reply

variable {players : Nat} {state : State}

/-! ## Plays -/

theorem inBounds_of_legal (h : Orderly players state) {player : Nat} {command : Command}
    (hlegal : rules.Legal state player command) : InBounds ⟨state, player, command⟩ := by
  obtain ⟨rfl, hoffer⟩ := offer_of_legal hlegal
  cases hoffer with
  | bid phase within =>
    refine ⟨_, phase, ?_⟩
    rw [(h.bidding _ phase).2.slots]
    exact h.current_lt
  | attack phase free known =>
    exact ⟨phase, (List.getElem?_eq_some_iff.mp known).1, (List.getElem?_eq_some_iff.mp free).1⟩
  | pass phase => exact phase

theorem Move.settles (h : Orderly players state) {command : Command}
    {outcome : State × Except Refusal Effect} (hmove : Move state command outcome)
    {bids : List (Option Int)} (hphase : state.phase = .bidding bids)
    (hsiege : outcome.1.phase = .siege) :
    ∃ last, command = .bid last ∧
      (∀ seat < state.players, ∃ amount,
        (bids.set state.current (some last))[seat]? = some (some amount)) ∧
      Highest (bids.set state.current (some last)) outcome.1.current := by
  cases hmove with
  | repeated _ taken =>
    rw [hphase] at hsiege
    cases hsiege
  | bid phase fresh within more => cases hsiege
  | @lastBid _ amount _ phase fresh within last =>
    rw [hphase] at phase
    cases phase
    have hall := (h.bidding bids hphase).2.next h.current_lt fresh within
    refine ⟨amount, rfl, fun seat hseat => (hall.made_iff seat).mpr ?_, ?_⟩
    · rw [last]
      exact hseat
    · exact hall.highest_winner (Nat.succ_pos _)
  | falls phase free known met =>
    rw [hphase] at phase
    cases phase
  | holds phase free known unmet =>
    rw [hphase] at phase
    cases phase
  | pass phase =>
    rw [hphase] at phase
    cases phase

theorem settlesBids_of_legal (h : Orderly players state) {player : Nat} {command : Command}
    (hlegal : rules.Legal state player command) : SettlesBids ⟨state, player, command⟩ := by
  intro bids hphase hsiege
  have hmove := move_of_legal h hlegal
  obtain ⟨rfl, -⟩ := offer_of_legal hlegal
  exact hmove.settles h hphase hsiege

/-! ## Refusals -/

/-- The grammars of the siege make commands of all that they read. -/
theorem interpret_ne_internal (names : List String) (state : State) (player : Nat)
    (input message : String) :
    rules.interpret names state player input ≠ .error (.internal message) := by
  intro hinternal
  unfold Rules.interpret at hinternal
  split at hinternal
  · cases hinternal
  · split at hinternal
    · cases hinternal
    · split at hinternal
      · cases hinternal
      · rename_i g hgrammar
        split at hinternal
        · cases hinternal
        · rename_i parsed hparsed
          obtain ⟨-, command, hvalue, -⟩ := offer_of_parse hgrammar hparsed
          split at hinternal
          · cases hinternal
          · rename_i hother
            exact hother command hvalue

theorem command_ne_internal (h : Orderly players state) (names : List String) (player : Nat)
    (input message : String) :
    (rules.command names state player input).2 ≠ .error (.internal message) := by
  cases hinterpret : rules.interpret names state player input with
  | error why =>
    rw [Rules.command_of_unread hinterpret]
    rintro ⟨rfl⟩
    exact interpret_ne_internal names state player input message hinterpret
  | ok found =>
    obtain ⟨command, rest⟩ := found
    rw [Rules.command_of_interpret hinterpret]
    have hmove := move_of_legal h (Rules.legal_of_interpret hinterpret)
    generalize rules.apply state player command = outcome at hmove
    cases hmove <;> exact nofun

theorem respond_ne_internal (h : Orderly players state) (submission : Submission)
    (message : String) :
    (rules.respond state submission).2 ≠ .error (.internal message) := by
  intro hinternal
  obtain ⟨input, hcommand⟩ := Rules.command_of_refused (Prod.ext rfl hinternal)
  refine command_ne_internal h submission.names submission.player input message ?_
  rw [hcommand]

/-! ## Progress -/

/-- Until the game is finished, the player to move has the turn. -/
theorem isTurn_of_unfinished (hfinished : rules.isFinished state = false) :
    rules.isTurn state state.current = true := by
  have hfinished' : state.status.isFinished = false := hfinished
  show state.status.turn.contains state.current = true
  unfold State.status at hfinished' ⊢
  split_ifs at hfinished' ⊢ with hstanding
  · cases hfinished'
  · exact List.contains_iff_mem.mpr (List.mem_singleton_self _)

theorem grammar_of_unfinished (hfinished : rules.isFinished state = false) :
    grammar state state.current =
      match state.phase with
      | .bidding _ => some bidGrammar
      | .siege => some (.oneOf [attackGrammar state, passGrammar]) := by
  have hfinished' : state.status.isFinished = false := hfinished
  have hguard : ¬ (state.status.isFinished || state.current != state.current) = true := by
    rw [hfinished', Bool.false_or, bne_self_eq_false]
    exact Bool.false_ne_true
  exact if_neg hguard

/-- Small bids as they are typed. -/
theorem parse_bidGrammar {amount : Int}
    (hamount : amount = 0 ∨ amount = 1 ∨ amount = 2 ∨ amount = 3) :
    ∃ input parsed, parsed.value = .custom (.bid amount) ∧
      ∀ names, bidGrammar.parse input names = .ok parsed := by
  rcases hamount with rfl | rfl | rfl | rfl
  · exact ⟨"bid 0", ⟨.custom (.bid 0), "bid 0".toList, []⟩, rfl, fun _ => rfl⟩
  · exact ⟨"bid 1", ⟨.custom (.bid 1), "bid 1".toList, []⟩, rfl, fun _ => rfl⟩
  · exact ⟨"bid 2", ⟨.custom (.bid 2), "bid 2".toList, []⟩, rfl, fun _ => rfl⟩
  · exact ⟨"bid 3", ⟨.custom (.bid 3), "bid 3".toList, []⟩, rfl, fun _ => rfl⟩

/-- A player may always pass, whichever castles are left to attack. -/
theorem parse_pass (state : State) (names : List String) :
    (Grammar.oneOf [attackGrammar state, passGrammar]).parse "pass" names =
      .ok ⟨.custom .pass, "pass".toList, []⟩ := rfl

/-- A bid that nobody has made is accepted. -/
theorem effect_of_fresh (h : Orderly players state) {bids : List (Option Int)}
    (hphase : state.phase = .bidding bids) {amount : Int} (hfresh : some amount ∉ bids)
    (hwithin : 0 ≤ amount ∧ amount ≤ 15) :
    ∃ effect, (rules.apply state state.current (.bid amount)).2 = .ok effect := by
  have hmove : Move state (.bid amount) (rules.apply state state.current (.bid amount)) :=
    move_of_offer h (.bid hphase hwithin)
  generalize rules.apply state state.current (.bid amount) = outcome at hmove ⊢
  cases hmove with
  | repeated phase taken =>
    rw [hphase] at phase
    cases phase
    exact absurd taken hfresh
  | bid phase fresh within more => exact ⟨_, rfl⟩
  | lastBid phase fresh within last => exact ⟨_, rfl⟩

/-- The player to move gets a command through if some text means it and the game accepts it. -/
theorem accepts_of_parse (hfinished : rules.isFinished state = false) {g : Grammar Command}
    (hgrammar : grammar state state.current = some g) {names : List String} {input : String}
    {parsed : Parsed Command} (hparsed : g.parse input names = .ok parsed) {command : Command}
    (hvalue : parsed.value = .custom command) {effect : Effect}
    (heffect : (rules.apply state state.current command).2 = .ok effect) :
    ∃ reply, (rules.command names state state.current input).2 = .ok reply := by
  have hinterpret := Rules.interpret_eq_ok_iff.mpr
    ⟨hfinished, isTurn_of_unfinished hfinished, g, parsed, hgrammar, hparsed, hvalue, rfl⟩
  rw [Rules.command_of_interpret hinterpret, heffect]
  exact ⟨_, rfl⟩

/-- There is a way on from every state in order among at most four players. -/
theorem exists_accepted (h : Orderly players state) (hplayers : players ≤ 4)
    (hfinished : rules.isFinished state = false) :
    ∃ input, ∀ names, ∃ reply, (rules.command names state state.current input).2 = .ok reply := by
  have hgrammar := grammar_of_unfinished hfinished
  cases hphase : state.phase with
  | bidding bids =>
    rw [hphase] at hgrammar
    -- At most three bids have been made, so that one of four small ones is left.
    have hmade : state.current < 4 := Nat.lt_of_lt_of_le h.current_lt hplayers
    obtain ⟨amount, hamount, hfresh⟩ := (h.bidding bids hphase).2.exists_fresh hmade
    obtain ⟨input, parsed, hvalue, hparsed⟩ := parse_bidGrammar hamount
    obtain ⟨effect, heffect⟩ := effect_of_fresh h hphase hfresh (by omega)
    exact ⟨input, fun names => accepts_of_parse hfinished hgrammar (hparsed names) hvalue heffect⟩
  | siege =>
    rw [hphase] at hgrammar
    have heffect : (rules.apply state state.current .pass).2 = .ok (.undoable []) := by
      show (apply state state.current .pass).2 = _
      unfold apply
      rw [hphase]
    exact ⟨"pass", fun names =>
      accepts_of_parse hfinished hgrammar (parse_pass state names) rfl heffect⟩

/-! ## Games -/

theorem wellPlayed_of_plays (hplayers : players ≤ 4) {start : State}
    (hstart : Orderly players start) {plays : List (Play State Command)}
    (hplays : rules.Plays start plays state) : WellPlayed players plays state := by
  obtain ⟨h, hmade⟩ := orderly_of_plays hstart hplays
  constructor
  · exact h
  · intro play hmem
    exact settlesBids_of_legal (hmade play hmem).1 (hmade play hmem).2
  · intro play hmem
    exact inBounds_of_legal (hmade play hmem).1 (hmade play hmem).2
  · intro castle hcastle
    have hlt := (List.getElem?_eq_some_iff.mp (mem_standing_iff.mp hcastle)).1
    rw [h.castles] at hlt
    exact hlt
  · exact respond_ne_internal h
  · exact exists_accepted h hplayers

/-- A game of two to four players can be set up from any source of dice, and whatever is submitted
to it, it is well played: at every moment of the run, the moments between the commands of a line
included. -/
theorem wellPlayed_of_setUp (players : Nat) (hplayers : 2 ≤ players ∧ players ≤ 4)
    (source : Random.Stream) :
    ∃ start notices, setUp players source = .ok (start, notices) ∧
      (∀ submissions, ∃ plays, rules.Plays start plays (rules.after start submissions)) ∧
      ∀ plays state, rules.Plays start plays state → WellPlayed players plays state := by
  have hsetUp := setUp_of_players hplayers source
  refine ⟨_, _, hsetUp, fun submissions => Rules.after_plays rules _ submissions, ?_⟩
  intro plays state hplays
  exact wellPlayed_of_plays hplayers.2 (orderly_setUp hsetUp) hplays

/-- What three players say in the bidding. -/
def threeBids : List Submission :=
  [⟨[], 0, "bid 3", false⟩, ⟨[], 1, "bid 5", false⟩, ⟨[], 2, "bid 1", false⟩]

/-- Three players in the bidding. -/
def threeBidders (dice : Random.Stream) (bids : List (Option Int)) (current : Nat) : State :=
  ⟨3, .bidding bids, current, List.replicate castles.length none, dice⟩

/-- The same after three bids, of which the second is the highest. -/
def threeBesiegers (dice : Random.Stream) : State :=
  ⟨3, .siege, 1, List.replicate castles.length none, dice⟩

/-- The plays that `threeBids` come to. -/
def threePlays (dice : Random.Stream) : List (Play State Command) :=
  [⟨threeBidders dice [none, none, none] 0, 0, .bid 3⟩,
    ⟨threeBidders dice [some 3, none, none] 1, 1, .bid 5⟩,
    ⟨threeBidders dice [some 3, some 5, none] 2, 2, .bid 1⟩]

theorem plays_threeBids (dice : Random.Stream) :
    rules.after (threeBidders dice [none, none, none] 0) threeBids = threeBesiegers dice ∧
      rules.Plays (threeBidders dice [none, none, none] 0) (threePlays dice)
        (threeBesiegers dice) := by
  have hfirst : rules.interpret [] (threeBidders dice [none, none, none] 0) 0 "bid 3" =
      .ok (.bid 3, "") := rfl
  have hsecond : rules.interpret [] (threeBidders dice [some 3, none, none] 1) 1 "bid 5" =
      .ok (.bid 5, "") := rfl
  have hthird : rules.interpret [] (threeBidders dice [some 3, some 5, none] 2) 2 "bid 1" =
      .ok (.bid 1, "") := rfl
  constructor
  · calc rules.after (threeBidders dice [none, none, none] 0) threeBids
      _ = rules.after (threeBidders dice [some 3, none, none] 1) (threeBids.drop 1) :=
        Rules.after_of_interpret hfirst _
      _ = rules.after (threeBidders dice [some 3, some 5, none] 2) (threeBids.drop 2) :=
        Rules.after_of_interpret hsecond _
      _ = threeBesiegers dice := Rules.after_of_interpret hthird []
  · refine .next (Rules.legal_of_interpret hfirst) ?_
    refine .next (Rules.legal_of_interpret hsecond) ?_
    exact .next (Rules.legal_of_interpret hthird) .none

/-- A game of three players, whose dice come from a seed. The third bid ends the bidding, and the
player who made the second one moves first. -/
theorem wellPlayed_of_three :
    (2 ≤ 3 ∧ 3 ≤ 4) ∧
      ∃ start notices, setUp 3 (.ofSeed 7) = .ok (start, notices) ∧
        (∀ submissions, ∃ plays, rules.Plays start plays (rules.after start submissions)) ∧
        (∀ plays state, rules.Plays start plays state → WellPlayed 3 plays state) ∧
        rules.Plays start (threePlays start.dice) (rules.after start threeBids) ∧
        (rules.apply (threeBidders start.dice [some 3, some 5, none] 2) 2 (.bid 1)).1.phase =
          .siege ∧
        (rules.after start threeBids).phase = .siege ∧
        (rules.after start threeBids).current = 1 ∧ Highest [some 3, some 5, some 1] 1 := by
  have hplayers : 2 ≤ 3 ∧ 3 ≤ 4 := by decide
  obtain ⟨start, notices, hsetUp, hmoments, hplayed⟩ := wellPlayed_of_setUp 3 hplayers (.ofSeed 7)
  refine ⟨hplayers, start, notices, hsetUp, hmoments, hplayed, ?_⟩
  have hstart : start = threeBidders start.dice [none, none, none] 0 := by
    rw [setUp_of_players hplayers] at hsetUp
    cases hsetUp
    rfl
  obtain ⟨hafter, hplays⟩ := plays_threeBids start.dice
  rw [← hstart] at hafter hplays
  have hends : (rules.apply (threeBidders start.dice [some 3, some 5, none] 2) 2 (.bid 1)).1.phase =
      .siege := rfl
  have hlast : ⟨threeBidders start.dice [some 3, some 5, none] 2, 2, .bid 1⟩ ∈
      threePlays start.dice := by simp [threePlays]
  obtain ⟨amount, hamount, -, hhighest⟩ :=
    (hplayed _ _ hplays).settled _ hlast [some 3, some 5, none] rfl hends
  cases hamount
  rw [hafter]
  exact ⟨hplays, hends, rfl, rfl, hhighest⟩

end Tabletop.Siege
