import Tabletop.Game.Rules
import Tabletop.Text.Blank

/-!
# Lines of several commands

A player may type several commands in one line. They are taken one after the other,
each from the text that the one before it left, without its leading white space,
until the text is used up, the game is finished, the turn is someone else's, a
command consumed nothing, or a command is refused. If the first command is refused,
so is the line. A later refusal only ends the line: what was applied before it
stands, and the refused text is handed back.
-/

namespace Tabletop

universe u v

/-- The reply to two commands, the second of which came from the text that the first left. -/
def Reply.followedBy (first second : Reply) : Reply where
  notices := first.notices ++ second.notices
  canUndo := first.canUndo && second.canUndo
  remaining := Text.trimStart second.remaining

theorem Text.length_trimStart_le (text : String) :
    (Text.trimStart text).length ≤ text.length := by
  rw [← String.length_toList, ← String.length_toList, Text.toList_trimStart]
  exact (List.dropWhile_sublist _).length_le

namespace Rules

variable {S : Type u} {C : Type v}

/-- Whether a player may go on with the rest of a line. -/
def mayContinue (rules : Rules S C) (state : S) (player : Nat) (text : String) : Bool :=
  !text.isEmpty && !rules.isFinished state && rules.isTurn state player

/-- Takes further commands after a reply, whose remaining text has no leading white space. -/
def further (rules : Rules S C) (names : List String) (player : Nat) (state : S)
    (reply : Reply) : S × Reply :=
  if rules.mayContinue state player reply.remaining then
    match rules.command names state player reply.remaining with
    | (next, .error _) => (next, reply)
    | (next, .ok second) =>
      if second.remaining.length < reply.remaining.length then
        further rules names player next (reply.followedBy second)
      else (next, reply.followedBy second)
  else (state, reply)
termination_by reply.remaining.length
decreasing_by
  have := Text.length_trimStart_le second.remaining
  simp only [Reply.followedBy]
  omega

/-- Takes a line of commands. -/
def line (rules : Rules S C) (names : List String) (state : S) (player : Nat)
    (input : String) : S × Except Refusal Reply :=
  let text := Text.trimStart input
  match rules.command names state player text with
  | (next, .error why) => (next, .error why)
  | (next, .ok first) =>
    let reply := { first with remaining := Text.trimStart first.remaining }
    if first.remaining.length < text.length then
      let (last, reply) := further rules names player next reply
      (last, .ok reply)
    else (next, .ok reply)

end Rules

end Tabletop
