import Tabletop.Game.Line
import Tabletop.Game.Ranking
import Tabletop.Random.Choice

/-!
# The siege

A small game for two to four players. They bid for the first move, each once and no
two alike, and then take turns attacking castles with a die. A castle falls to a
player whose roll meets its defence. When all castles have fallen, whoever holds the
most has won.
-/

namespace Tabletop.Siege

structure Castle where
  name : String
  defence : Nat
deriving DecidableEq

def castles : List Castle :=
  [⟨"Azuchi", 4⟩, ⟨"Himeji", 6⟩, ⟨"Matsumoto", 5⟩, ⟨"Nagoya", 3⟩, ⟨"Osaka", 5⟩]

inductive Command where
  | bid (amount : Int)
  | attack (castle : Nat)
  | pass
deriving DecidableEq

inductive Phase where
  /-- The bids by seat, so far as they have been made. -/
  | bidding (bids : List (Option Int))
  | siege
deriving DecidableEq

structure State where
  players : Nat
  phase : Phase
  /-- The player to move. -/
  current : Nat
  /-- The players who hold the castles. -/
  owners : List (Option Nat)
  dice : Random.Stream
deriving DecidableEq

namespace State

/-- The castles that have not fallen. -/
def standing (state : State) : List Nat :=
  (List.range state.owners.length).filter fun castle => state.owners[castle]? = some none

/-- Gives the move to the next player. -/
def advance (state : State) : State :=
  { state with current := (state.current + 1) % state.players }

/-- Gives a castle to a player. -/
def award (state : State) (castle player : Nat) : State :=
  { state with owners := state.owners.set castle (some player) }

/-- How many castles a player holds. -/
def holdings (state : State) (player : Nat) : Nat :=
  state.owners.count (some player)

def status (state : State) : Status :=
  if state.standing = [] then
    .finished (Ranking.placings
      ((List.range state.players).map fun player => [(state.holdings player : Int)]))
  else .waiting [state.current]

end State

/-- The word `bid` and an amount. -/
def bidGrammar : Grammar Command :=
  .map
    (fun value =>
      match value.child 1 with
      | .int amount => .custom (.bid amount)
      | other => other)
    (.chain
      [.doc "bid" (some "bid for the first move") (.token "bid"),
        .afterSpace (.int ⟨some 0, some 15⟩)])

/-- The castles that may be attacked, by name. -/
def targets (state : State) : List (Candidate Command) :=
  state.standing.filterMap fun castle =>
    castles[castle]?.map fun c => ⟨c.name, .custom (.attack castle)⟩

/-- The word `attack` and a castle that has not fallen. -/
def attackGrammar (state : State) : Grammar Command :=
  .map (·.child 1)
    (.chain
      [.doc "attack" (some "attack a castle") (.token "attack"),
        .afterSpace (.doc "castle" none (.choice (targets state) false))])

def passGrammar : Grammar Command :=
  .map (fun _ => .custom .pass) (.token "pass")

/-- What a player may type. -/
def grammar (state : State) (player : Nat) : Option (Grammar Command) :=
  if state.status.isFinished || player != state.current then none
  else
    match state.phase with
    | .bidding _ => some bidGrammar
    | .siege => some (.oneOf [attackGrammar state, passGrammar])

/-- The seat of the first player who made the highest bid. -/
def winner (bids : List (Option Int)) : Nat :=
  (bids.findIdx? (· = some ((bids.filterMap id).max?.getD 0))).getD 0

open Text.Decimal (natText intText)

/-- Records a bid. The last one ends the bidding. -/
def placeBid (state : State) (bids : List (Option Int)) (player : Nat) (amount : Int) :
    State × Except Refusal Effect :=
  if bids.contains (some amount) then
    (state, .error (.invalidInput ("someone already bid " ++ intText amount)))
  else if bids.length ≤ player then (state, .error (.internal "no such player"))
  else
    let bids := bids.set player (some amount)
    let bidden := Notice.toSome ("you bid " ++ intText amount) [player]
    if bids.all Option.isSome then
      let first := winner bids
      ({ state with phase := .siege, current := first },
        .ok (.undoable [bidden, .toAll ("player " ++ natText first ++ " moves first")]))
    else ({ state with phase := .bidding bids }.advance, .ok (.undoable [bidden]))

/-- Rolls the die against a castle. -/
def storm (state : State) (player castle : Nat) : State × Except Refusal Effect :=
  match castles[castle]? with
  | none => (state, .error (.internal "no such castle"))
  | some target =>
    let (roll, dice) := state.dice.drawBetween 1 6
    let rolled := "rolled " ++ intText roll ++ ", " ++ target.name
    if target.defence ≤ roll then
      (({ state with dice }.award castle player).advance,
        .ok (.irreversible [.toAll (rolled ++ " falls")]))
    else ({ state with dice }.advance, .ok (.irreversible [.toAll (rolled ++ " holds")]))

/-- The effect of a command. -/
def apply (state : State) (player : Nat) (command : Command) :
    State × Except Refusal Effect :=
  match state.phase, command with
  | .bidding bids, .bid amount => placeBid state bids player amount
  | .siege, .attack castle => storm state player castle
  | .siege, .pass => (state.advance, .ok (.undoable []))
  | _, _ => (state, .error (.internal "command does not fit the phase"))

/-- The rules of the siege. -/
def rules : Rules State Command where
  status := State.status
  grammar := grammar
  apply := apply
  playerCount := State.players
  playerCounts := [2, 3, 4]

/-- A new game, whose dice are split from a stream. -/
def setUp (players : Nat) (source : Random.Stream) : Except Refusal (State × List Notice) :=
  match rules.checkPlayerCount players with
  | .error why => .error why
  | .ok () =>
    .ok ({ players
           phase := .bidding (List.replicate players none)
           current := 0
           owners := List.replicate castles.length none
           dice := source.split.1 },
      [.toAll "the siege begins"])

end Tabletop.Siege
