import Tabletop.Proofs.Game.Boundary
import Tabletop.Proofs.Siege.Bids

/-!
# Moves of the siege

The commands of the siege check little: they look up bids and castles by number, and a
castle is given away without a question who holds it. That is safe because a command is
applied only in a state that is in order, and because the grammar of that very state
offers nothing that is out of order. `Orderly` is the invariant of the game, `Offer`
what the grammars offer, and `Move` lists what the offered commands do in an orderly
state. Whatever is proved about the game later follows from this list.
-/

namespace Tabletop.Siege

/-- A roll of the die, and the dice after it. -/
def State.roll (state : State) : Int × Random.Stream :=
  state.dice.drawBetween 1 6

/-- The invariant of a siege among some players. -/
structure Orderly (players : Nat) (state : State) : Prop where
  seats : state.players = players
  current_lt : state.current < players
  castles : state.owners.length = 5
  owner_lt : ∀ owner, some owner ∈ state.owners → owner < players
  /-- While the bidding goes on nobody holds a castle, and the seat to move counts the bids. -/
  bidding : ∀ bids, state.phase = .bidding bids →
    (∀ owner ∈ state.owners, owner = none) ∧ InTurn players state.current bids

/-- What the grammar of a state offers to the player to move. -/
inductive Offer (state : State) : Command → Prop where
  | bid {bids : List (Option Int)} {amount : Int} (phase : state.phase = .bidding bids)
      (within : 0 ≤ amount ∧ amount ≤ 15) : Offer state (.bid amount)
  | attack {castle : Nat} {target : Castle} (phase : state.phase = .siege)
      (free : state.owners[castle]? = some none) (known : castles[castle]? = some target) :
      Offer state (.attack castle)
  | pass (phase : state.phase = .siege) : Offer state .pass

/-- What an offered command does in an orderly state. -/
inductive Move (state : State) : Command → State × Except Refusal Effect → Prop where
  /-- A bid that somebody has made already is refused. -/
  | repeated {bids : List (Option Int)} {amount : Int} {message : String}
      (phase : state.phase = .bidding bids) (taken : some amount ∈ bids) :
      Move state (.bid amount) (state, .error (.invalidInput message))
  /-- Another bid gives the move to the next seat. -/
  | bid {bids : List (Option Int)} {amount : Int} {effect : Effect}
      (phase : state.phase = .bidding bids) (fresh : some amount ∉ bids)
      (within : 0 ≤ amount ∧ amount ≤ 15) (more : state.current + 1 < state.players) :
      Move state (.bid amount)
        ({ state with phase := .bidding (bids.set state.current (some amount)) }.advance,
          .ok effect)
  /-- The last bid ends the bidding. -/
  | lastBid {bids : List (Option Int)} {amount : Int} {effect : Effect}
      (phase : state.phase = .bidding bids) (fresh : some amount ∉ bids)
      (within : 0 ≤ amount ∧ amount ≤ 15) (last : state.current + 1 = state.players) :
      Move state (.bid amount)
        ({ state with
            phase := .siege
            current := winner (bids.set state.current (some amount)) }, .ok effect)
  /-- A castle that nobody holds falls to the attacker. -/
  | falls {castle : Nat} {target : Castle} {effect : Effect} (phase : state.phase = .siege)
      (free : state.owners[castle]? = some none) (known : castles[castle]? = some target)
      (met : target.defence ≤ state.roll.1) :
      Move state (.attack castle)
        (({ state with dice := state.roll.2 }.award castle state.current).advance, .ok effect)
  | holds {castle : Nat} {target : Castle} {effect : Effect} (phase : state.phase = .siege)
      (free : state.owners[castle]? = some none) (known : castles[castle]? = some target)
      (unmet : state.roll.1 < target.defence) :
      Move state (.attack castle) ({ state with dice := state.roll.2 }.advance, .ok effect)
  | pass {effect : Effect} (phase : state.phase = .siege) :
      Move state .pass (state.advance, .ok effect)

/-! ## What is offered -/

theorem mem_standing_iff {state : State} {castle : Nat} :
    castle ∈ state.standing ↔ state.owners[castle]? = some none := by
  unfold State.standing
  rw [List.mem_filter, List.mem_range, decide_eq_true_eq, and_iff_right_iff_imp]
  intro hfree
  exact (List.getElem?_eq_some_iff.mp hfree).1

variable {names : List String} {value : Value Command} {text : List Char}

theorem amount_of_bidGrammar (h : bidGrammar.Conforms names value text) :
    ∃ amount, value = .custom (.bid amount) ∧ 0 ≤ amount ∧ amount ≤ 15 := by
  obtain ⟨before, hbefore, rfl⟩ := h.of_map
  cases hbefore with
  | @chain _ values _ all =>
    obtain ⟨piece, hspaced⟩ := all.getElem 1 rfl
    obtain ⟨piece, hamount⟩ := hspaced.of_child rfl
    generalize (Value.list values).child 1 = inside at hamount
    cases hamount with
    | int admitted => exact ⟨_, rfl, admitted.1 0 rfl, admitted.2 15 rfl⟩

theorem castle_of_attackGrammar {state : State}
    (h : (attackGrammar state).Conforms names value text) :
    ∃ castle target, value = .custom (.attack castle) ∧
      state.owners[castle]? = some none ∧ castles[castle]? = some target := by
  obtain ⟨piece, hspaced⟩ := h.of_child rfl
  obtain ⟨piece, hdocumented⟩ := hspaced.of_child rfl
  cases hdocumented with
  | doc hchoice =>
    cases hchoice with
    | choice listed =>
      obtain ⟨castle, hstanding, hknown⟩ := List.mem_filterMap.mp listed
      obtain ⟨target, htarget, rfl⟩ := Option.map_eq_some_iff.mp hknown
      exact ⟨castle, target, rfl, mem_standing_iff.mp hstanding, htarget⟩

theorem pass_of_passGrammar (h : passGrammar.Conforms names value text) :
    value = .custom .pass := by
  obtain ⟨before, _, hvalue⟩ := h.of_map
  exact hvalue

/-- The grammar of a state offers what `Offer` says, and only to the player to move. -/
theorem offer_of_parse {state : State} {player : Nat} {g : Grammar Command} {input : String}
    {parsed : Parsed Command} (hgrammar : grammar state player = some g)
    (hparsed : g.parse input names = .ok parsed) :
    player = state.current ∧ ∃ command, parsed.value = .custom command ∧ Offer state command := by
  have hconforms := Grammar.run_sound names g input.toList parsed hparsed
  unfold grammar at hgrammar
  split at hgrammar
  · cases hgrammar
  · rename_i hguard
    rw [Bool.or_eq_true, not_or, bne_iff_ne, not_not] at hguard
    refine ⟨hguard.2, ?_⟩
    split at hgrammar
    · rename_i bids hphase
      cases hgrammar
      obtain ⟨amount, hvalue, hwithin⟩ := amount_of_bidGrammar hconforms
      exact ⟨.bid amount, hvalue, .bid hphase hwithin⟩
    · rename_i hphase
      cases hgrammar
      cases hconforms with
      | oneOf listed inner =>
        rcases List.mem_cons.mp listed with rfl | hlast
        · obtain ⟨castle, target, hvalue, hfree, hknown⟩ := castle_of_attackGrammar inner
          exact ⟨.attack castle, hvalue, .attack hphase hfree hknown⟩
        · obtain rfl := List.mem_singleton.mp hlast
          exact ⟨.pass, pass_of_passGrammar inner, .pass hphase⟩

/-- Legal commands are offered commands of the player to move. -/
theorem offer_of_legal {state : State} {player : Nat} {command : Command}
    (h : rules.Legal state player command) : player = state.current ∧ Offer state command := by
  obtain ⟨g, hgrammar, input, names, parsed, hparsed, hvalue⟩ := h.offered
  obtain ⟨hplayer, offered, hoffered, hoffer⟩ := offer_of_parse hgrammar hparsed
  rw [hoffered] at hvalue
  cases hvalue
  exact ⟨hplayer, hoffer⟩

/-! ## What offered commands do -/

section

variable {players : Nat} {state : State}

theorem Orderly.players_pos (h : Orderly players state) : 0 < state.players := by
  have hlt := h.current_lt
  have hseats := h.seats
  omega

theorem move_bid (h : Orderly players state) {bids : List (Option Int)}
    (hphase : state.phase = .bidding bids) {amount : Int} (hwithin : 0 ≤ amount ∧ amount ≤ 15) :
    Move state (.bid amount) (placeBid state bids state.current amount) := by
  obtain ⟨-, hbids⟩ := h.bidding bids hphase
  have hlt := h.current_lt
  have hseats := h.seats
  unfold placeBid
  split_ifs with htaken hmissing
  · exact .repeated hphase (List.contains_iff_mem.mp htaken)
  · rw [hbids.slots] at hmissing
    omega
  · have hfresh : some amount ∉ bids := fun hmem => htaken (List.contains_iff_mem.mpr hmem)
    have hall := (hbids.next hlt hfresh hwithin).all_isSome_iff hlt
    dsimp only
    split_ifs with hdone
    · exact .lastBid hphase hfresh hwithin (by rw [hall] at hdone; omega)
    · rw [hall] at hdone
      exact .bid hphase hfresh hwithin (by omega)

theorem move_attack {castle : Nat} {target : Castle} (hphase : state.phase = .siege)
    (hfree : state.owners[castle]? = some none) (hknown : castles[castle]? = some target) :
    Move state (.attack castle) (storm state state.current castle) := by
  unfold storm
  rw [hknown]
  dsimp only
  split_ifs with hmet
  · exact .falls hphase hfree hknown hmet
  · exact .holds hphase hfree hknown (Int.not_le.mp hmet)

theorem move_of_offer (h : Orderly players state) {command : Command}
    (hoffer : Offer state command) : Move state command (apply state state.current command) := by
  cases hoffer with
  | bid phase within =>
    unfold apply
    rw [phase]
    exact move_bid h phase within
  | attack phase free known =>
    unfold apply
    rw [phase]
    exact move_attack phase free known
  | pass phase =>
    unfold apply
    rw [phase]
    exact .pass phase

/-- Legal commands make moves. -/
theorem move_of_legal (h : Orderly players state) {player : Nat} {command : Command}
    (hlegal : rules.Legal state player command) :
    Move state command (rules.apply state player command) := by
  obtain ⟨rfl, hoffer⟩ := offer_of_legal hlegal
  exact move_of_offer h hoffer

/-! ## Moves keep order -/

/-- Once the bidding is over, order asks nothing of the bids. -/
theorem Orderly.of_siege (hphase : state.phase = .siege) (seats : state.players = players)
    (current_lt : state.current < players) (castles : state.owners.length = 5)
    (owner_lt : ∀ owner, some owner ∈ state.owners → owner < players) :
    Orderly players state := by
  refine ⟨seats, current_lt, castles, owner_lt, fun bids hbidding => ?_⟩
  rw [hphase] at hbidding
  cases hbidding

theorem Orderly.advance (h : Orderly players state) (hphase : state.phase = .siege) :
    Orderly players state.advance := by
  have hcurrent : (state.current + 1) % state.players < players := by
    rw [← h.seats]
    exact Nat.mod_lt _ h.players_pos
  exact .of_siege hphase h.seats hcurrent h.castles h.owner_lt

theorem Orderly.award (h : Orderly players state) (hphase : state.phase = .siege) (castle : Nat) :
    Orderly players (state.award castle state.current) := by
  have hcastles : (state.owners.set castle (some state.current)).length = 5 := by
    rw [List.length_set, h.castles]
  refine .of_siege hphase h.seats h.current_lt hcastles fun owner howner => ?_
  rcases List.mem_or_eq_of_mem_set howner with hbefore | hnew
  · exact h.owner_lt owner hbefore
  · cases hnew
    exact h.current_lt

/-- Order does not depend on the dice. -/
theorem Orderly.withDice (h : Orderly players state) (dice : Random.Stream) :
    Orderly players { state with dice } :=
  ⟨h.seats, h.current_lt, h.castles, h.owner_lt, h.bidding⟩

theorem Move.orderly (h : Orderly players state) {command : Command}
    {outcome : State × Except Refusal Effect} (hmove : Move state command outcome) :
    Orderly players outcome.1 := by
  cases hmove with
  | repeated phase taken => exact h
  | @bid bids amount _ phase fresh within more =>
    obtain ⟨hunowned, hbids⟩ := h.bidding bids phase
    -- The move does not come round to the first seat before the bidding is over.
    have hnext : (state.current + 1) % state.players = state.current + 1 := Nat.mod_eq_of_lt more
    constructor
    · exact h.seats
    · show (state.current + 1) % state.players < players
      rw [hnext, ← h.seats]
      exact more
    · exact h.castles
    · exact h.owner_lt
    · rintro _ ⟨rfl⟩
      refine ⟨hunowned, ?_⟩
      show InTurn players ((state.current + 1) % state.players) _
      rw [hnext]
      exact hbids.next h.current_lt fresh within
  | @lastBid bids amount _ phase fresh within last =>
    have hall := (h.bidding bids phase).2.next h.current_lt fresh within
    obtain ⟨best, hbest, -⟩ := hall.highest_winner (Nat.succ_pos _)
    have hwinner := (hall.made_iff _).mp ⟨best, hbest⟩
    rw [last, h.seats] at hwinner
    exact .of_siege rfl h.seats hwinner h.castles h.owner_lt
  | @falls castle _ _ phase free known met =>
    exact ((h.withDice state.roll.2).award phase castle).advance phase
  | holds phase free known unmet => exact (h.withDice state.roll.2).advance phase
  | pass phase => exact h.advance phase

/-- Legal commands keep a game in order. -/
theorem orderly_apply (h : Orderly players state) {player : Nat} {command : Command}
    (hlegal : rules.Legal state player command) :
    Orderly players (rules.apply state player command).1 :=
  (move_of_legal h hlegal).orderly h

/-- A game that starts in order stays in order, and every play is made in order. -/
theorem orderly_of_plays {start : State} (hstart : Orderly players start)
    {plays : List (Play State Command)} (hplays : rules.Plays start plays state) :
    Orderly players state ∧ ∀ play ∈ plays,
      Orderly players play.before ∧ rules.Legal play.before play.player play.command := by
  have happly (state : State) (player : Nat) (command : Command) (h : Orderly players state)
      (hlegal : rules.Legal state player command) :
      Orderly players (rules.apply state player command).1 := orderly_apply h hlegal
  exact ⟨hplays.keeps happly hstart, hplays.legal_of_mem happly hstart⟩

end

/-! ## New games -/

theorem contains_playerCounts_iff {players : Nat} :
    rules.playerCounts.contains players = true ↔ 2 ≤ players ∧ players ≤ 4 := by
  rw [List.contains_iff_mem]
  show players ∈ [2, 3, 4] ↔ _
  simp only [List.mem_cons, List.not_mem_nil, or_false]
  omega

theorem players_of_setUp {players : Nat} {source : Random.Stream} {start : State}
    {notices : List Notice} (h : setUp players source = .ok (start, notices)) :
    2 ≤ players ∧ players ≤ 4 := by
  unfold setUp Rules.checkPlayerCount at h
  by_cases hcount : rules.playerCounts.contains players = true
  · exact contains_playerCounts_iff.mp hcount
  · rw [if_neg hcount] at h
    cases h

theorem setUp_of_players {players : Nat} (hplayers : 2 ≤ players ∧ players ≤ 4)
    (source : Random.Stream) :
    setUp players source = .ok (⟨players, .bidding (List.replicate players none), 0,
      List.replicate castles.length none, source.split.1⟩, [.toAll "the siege begins"]) := by
  unfold setUp Rules.checkPlayerCount
  rw [if_pos (contains_playerCounts_iff.mpr hplayers)]

/-- A new game is in order. -/
theorem orderly_setUp {players : Nat} {source : Random.Stream} {start : State}
    {notices : List Notice} (h : setUp players source = .ok (start, notices)) :
    Orderly players start := by
  have hplayers := players_of_setUp h
  rw [setUp_of_players hplayers] at h
  cases h
  have hunowned : ∀ owner ∈ List.replicate castles.length (none : Option Nat), owner = none :=
    fun owner howner => List.eq_of_mem_replicate howner
  constructor
  · rfl
  · show 0 < players
    omega
  · exact List.length_replicate
  · intro owner howner
    cases hunowned _ howner
  · rintro _ ⟨rfl⟩
    exact ⟨hunowned, .start players⟩

end Tabletop.Siege
