import Tabletop.Game.Notice
import Tabletop.Game.Refusal
import Tabletop.Game.Status
import Tabletop.Grammar.Run
import Tabletop.Outline.Basic

/-!
# Rules of a game

A turn-based game driven by text is given by its states and commands: what the
status of a state is, what a player may type in it, and what a command does to it.
`Rules.command` is the one way in. It lets a command through only if the game goes
on, it is the player's turn, the player has a grammar, and the text begins with a
command of that grammar.
-/

namespace Tabletop

universe u v

/-- What a command did: the notices it gives rise to, and whether it may be undone. -/
structure Effect where
  notices : List Notice
  canUndo : Bool
deriving DecidableEq

namespace Effect

/-- An effect that may be undone. -/
def undoable (notices : List Notice) : Effect :=
  ⟨notices, true⟩

/-- An effect that reveals something hidden, so that it cannot be undone. -/
def irreversible (notices : List Notice) : Effect :=
  ⟨notices, false⟩

end Effect

/-- What a player gets back: the effect of the commands that were applied, and the text that they
left. -/
structure Reply where
  notices : List Notice
  canUndo : Bool
  remaining : String
deriving DecidableEq

/-- The rules of a game with states `S` and commands `C`. -/
structure Rules (S : Type u) (C : Type v) where
  status : S → Status
  /-- What a player may type, if anything. -/
  grammar : S → Nat → Option (Grammar C)
  /-- The state after a player's command, and its effect or why it was refused. -/
  apply : S → Nat → C → S × Except Refusal Effect
  playerCount : S → Nat
  /-- The numbers of players that the game supports. -/
  playerCounts : List Nat

namespace Rules

variable {S : Type u} {C : Type v}

def isFinished (rules : Rules S C) (state : S) : Bool :=
  (rules.status state).isFinished

/-- Whether a player may act. -/
def isTurn (rules : Rules S C) (state : S) (player : Nat) : Bool :=
  (rules.status state).turn.contains player

/-- Refuses a finished game. -/
def checkUnfinished (rules : Rules S C) (state : S) : Except Refusal Unit :=
  if rules.isFinished state then .error .finished else .ok ()

/-- Refuses a player who may not act. -/
def checkTurn (rules : Rules S C) (state : S) (player : Nat) : Except Refusal Unit :=
  if rules.isTurn state player then .ok () else .error .notYourTurn

/-- Refuses a number of players that the game does not support. -/
def checkPlayerCount (rules : Rules S C) (players : Nat) : Except Refusal Unit :=
  if rules.playerCounts.contains players then .ok ()
  else .error (.playerCount (rules.playerCounts.min?.getD 0) (rules.playerCounts.max?.getD 0)
    players)

/-- The outline of what a player may type. -/
def outline (rules : Rules S C) (state : S) (player : Nat) : Option Outline :=
  (rules.grammar state player).map (·.outline)

/-- The command at the beginning of a player's text, and the text after it. Nothing is applied. -/
def interpret (rules : Rules S C) (names : List String) (state : S) (player : Nat)
    (input : String) : Except Refusal (C × String) :=
  if rules.isFinished state then .error .finished
  else if !rules.isTurn state player then .error .notYourTurn
  else
    match rules.grammar state player with
    | none => .error .notYourTurn
    | some grammar =>
      match grammar.parse input names with
      | .error why => .error (.rejected why)
      | .ok parsed =>
        match parsed.value with
        | .custom command => .ok (command, .ofList parsed.remaining)
        | other =>
          .error (.internal ("command grammar produced " ++ other.kindName ++
            " instead of a command"))

/-- Takes one command from the beginning of a player's text. -/
def command (rules : Rules S C) (names : List String) (state : S) (player : Nat)
    (input : String) : S × Except Refusal Reply :=
  match rules.interpret names state player input with
  | .error why => (state, .error why)
  | .ok (command, rest) =>
    match rules.apply state player command with
    | (next, .error why) => (next, .error why)
    | (next, .ok effect) => (next, .ok ⟨effect.notices, effect.canUndo, rest⟩)

end Rules

end Tabletop
