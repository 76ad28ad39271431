/-!
# Ranking

Players are ranked by lists of numbers, compared from the first number on: a score,
then tie-breakers. Where one list continues another, the longer one is better. Equal
lists share a place, and the next place skips as many as share it, so that two
winners are followed by a third.

The players are tallied into tiers of equal lists, best first, and the tiers are
numbered by counting the players in those above.
-/

namespace Tabletop.Ranking

/-- Whether a list of numbers is better than another. -/
def better : List Int → List Int → Bool
  | [], _ => false
  | _ :: _, [] => true
  | a :: as, b :: bs => b < a || (a == b && better as bs)

/-- A list of numbers and how many players have it. -/
abbrev Tier := List Int × Nat

/-- Counts one more player into the tiers, which stay in order, best first. -/
def tally (metrics : List Int) : List Tier → List Tier
  | [] => [(metrics, 1)]
  | (top, count) :: rest =>
    if metrics = top then (top, count + 1) :: rest
    else if better metrics top then (metrics, 1) :: (top, count) :: rest
    else (top, count) :: tally metrics rest

/-- The tiers of all players. -/
def tiers (metrics : List (List Int)) : List Tier :=
  metrics.foldl (fun tiers m => tally m tiers) []

/-- The place of a list of numbers, if the first tier has the given place. -/
def placeFrom (place : Nat) (metrics : List Int) : List Tier → Nat
  | [] => place
  | (top, count) :: rest =>
    if metrics = top then place else placeFrom (place + count) metrics rest

/-- The place of each player. -/
def placings (metrics : List (List Int)) : List Nat :=
  let tiers := tiers metrics
  metrics.map fun m => placeFrom 1 m tiers

end Tabletop.Ranking
