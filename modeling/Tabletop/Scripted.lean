import Tabletop.Game.Line
import Tabletop.Game.Ranking
import Tabletop.Word

/-!
# Scripted games

A game whose grammars are given as data, one for each player. Its commands are
orders: a word with an argument. A few words do something to the scores, the turn or
the game itself; any other word is only announced.
-/

namespace Tabletop.Scripted

/-- A word and its argument, which may contain further orders. -/
inductive Order where
  | mk (word : String) (argument : Value Order)

namespace Order

def word : Order → String
  | .mk word _ => word

def argument : Order → Value Order
  | .mk _ argument => argument

mutual

/-- The text of an order: its word, and its argument in parentheses. -/
def render : Order → String
  | .mk word argument => word ++ "(" ++ renderValue argument ++ ")"

def renderValue : Value Order → String
  | .list items => "[" ++ renderValues items ++ "]"
  | .custom order => order.render
  | leaf => leaf.leafText

def renderValues : List (Value Order) → String
  | [] => ""
  | [last] => renderValue last
  | item :: rest => renderValue item ++ " " ++ renderValues rest

end

mutual

/-- Arguments are shown as any value is. -/
theorem renderValue_eq : (v : Value Order) → renderValue v = v.render render
  | .absent => rfl
  | .int _ => rfl
  | .text _ => rfl
  | .player _ => rfl
  | .list items => by simp [renderValue, Value.render, renderValues_eq items]
  | .custom _ => rfl

theorem renderValues_eq :
    (vs : List (Value Order)) → renderValues vs = Value.renderItems render vs
  | [] => rfl
  | [v] => by simp [renderValues, Value.renderItems, renderValue_eq v]
  | v :: w :: rest => by
    simp [renderValues, Value.renderItems, renderValue_eq v, renderValues_eq (w :: rest)]

end

end Order

/-- What a scripted game is given from the start. -/
structure Script where
  players : Nat
  counts : List Nat
  /-- What each player may type, if anything. -/
  grammars : List (Option (Grammar Order))

structure State where
  turn : List Nat
  eliminated : List Nat
  scores : List Int
  ended : Bool
deriving DecidableEq

def status (state : State) : Status :=
  if state.ended then .finished (Ranking.placings (state.scores.map ([·])))
  else .active state.turn state.eliminated

/-- A score after some points. Scores are signed words and wrap around. -/
def addScore (score points : Int) : Int :=
  Word.wrap (score + points)

/-- The number that an order's argument stands for. -/
def points : Value Order → Int
  | .int n => n
  | _ => 1

open Text.Decimal (natText intText)

/-- The effect of an order. -/
def apply (players : Nat) (state : State) (player : Nat) (order : Order) :
    State × Except Refusal Effect :=
  let shown := order.argument.render Order.render
  match order.word with
  | "score" =>
    let n := points order.argument
    ({ state with scores := state.scores.modify player (addScore · n) },
      .ok (.undoable [.toAll ("player " ++ natText player ++ " scores " ++ intText n)]))
  | "peek" => (state, .ok (.irreversible [.toSome ("peeked " ++ shown) [player]]))
  | "pass" => ({ state with turn := [(player + 1) % players] }, .ok (.undoable []))
  | "both" => ({ state with turn := List.range players }, .ok (.irreversible []))
  | "quit" =>
    ({ state with
        eliminated := state.eliminated ++ [player]
        turn := state.turn.filter (· ≠ player) },
      .ok (.irreversible [.toAll ("player " ++ natText player ++ " quits")]))
  | "end" => ({ state with ended := true }, .ok (.irreversible [.toAll "over"]))
  | "bad" => (state, .error (.invalidInput ("bad " ++ shown)))
  | "boom" => (state, .error (.internal ("boom " ++ shown)))
  | other => (state, .ok (.undoable [.toAll (other ++ " " ++ shown)]))

/-- The rules that a script sets. -/
def rules (script : Script) : Rules State Order where
  status := status
  grammar := fun _ player => (script.grammars[player]?).join
  apply := apply script.players
  playerCount := fun _ => script.players
  playerCounts := script.counts

/-- A new game. The first player begins. -/
def setUp (script : Script) : Except Refusal (State × List Notice) :=
  match (rules script).checkPlayerCount script.players with
  | .error why => .error why
  | .ok () =>
    .ok ({ turn := [0], eliminated := [], scores := List.replicate script.players 0
           ended := false }, [])

end Tabletop.Scripted
