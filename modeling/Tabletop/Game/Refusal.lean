import Tabletop.Rejection
import Tabletop.Text.Decimal

/-!
# Refusals

Why a game does not take a command, or is not set up. A text that does not match the
grammar is refused with the grammar's own rejection.
-/

namespace Tabletop

inductive Refusal where
  | playerCount (fewest most given : Nat)
  | invalidInput (message : String)
  | notYourTurn
  | finished
  | internal (message : String)
  | rejected (why : Rejection)
deriving DecidableEq

namespace Refusal

open Text.Decimal (natText)

/-- The text shown to a player. -/
def text : Refusal → String
  | .playerCount fewest most given =>
    "invalid player count, expected " ++ natText fewest ++ "-" ++ natText most ++
      ", got " ++ natText given
  | .invalidInput message => message
  | .notYourTurn => "not your turn"
  | .finished => "game is already finished"
  | .internal message => "internal error: " ++ message
  | .rejected why => why.text

end Refusal

end Tabletop
