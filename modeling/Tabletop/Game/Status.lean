/-!
# Status of a game

A game is either active, waiting for some players while others may have been
eliminated, or finished, with a place for every player.
-/

namespace Tabletop

inductive Status where
  | active (turn eliminated : List Nat)
  | finished (placings : List Nat)
deriving DecidableEq

namespace Status

/-- An active game waiting for some players, none of whom has been eliminated. -/
def waiting (turn : List Nat) : Status :=
  .active turn []

def isFinished : Status → Bool
  | .active _ _ => false
  | .finished _ => true

/-- The players who may act; nobody once the game is finished. -/
def turn : Status → List Nat
  | .active turn _ => turn
  | .finished _ => []

/-- The players who are out; nobody once the game is finished. -/
def eliminated : Status → List Nat
  | .active _ eliminated => eliminated
  | .finished _ => []

/-- The places of the players by seat, from 1; none while the game is active. -/
def placings : Status → List Nat
  | .active _ _ => []
  | .finished placings => placings

end Status

end Tabletop
