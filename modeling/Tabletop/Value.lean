import Tabletop.Text.Decimal
import Tabletop.Text.Quoted

/-!
# Values

What a grammar makes of the text it reads. Leaves of a grammar give integers,
texts and seats at the table; sequences and repetitions give lists; an option that
was not taken gives `absent`. A game turns these into its own commands, which are
carried by `custom`.

Taking a child is total: a value that has no such child gives `absent`, so that a
projection never has to fail.
-/

namespace Tabletop

universe u

inductive Value (C : Type u) where
  | absent
  | int (n : Int)
  | text (content : String)
  | player (seat : Nat)
  | list (items : List (Value C))
  | custom (command : C)

namespace Value

variable {C : Type u}

/-- The name of a value's kind, for diagnostics. -/
def kindName : Value C → String
  | .absent => "none"
  | .int _ => "int"
  | .text _ => "text"
  | .player _ => "player"
  | .list _ => "list"
  | .custom _ => "custom"

/-- The children of a list. -/
def items? : Value C → Option (List (Value C))
  | .list items => some items
  | _ => none

/-- The command that a value carries. -/
def command? : Value C → Option C
  | .custom command => some command
  | _ => none

/-- The child of a list at an index. -/
def child? (value : Value C) (index : Nat) : Option (Value C) :=
  value.items?.bind (·[index]?)

/-- The child of a list at an index, `absent` if there is none. -/
def child (value : Value C) (index : Nat) : Value C :=
  (value.child? index).getD .absent

/-- The text of a value that is neither a list nor a command. -/
def leafText : Value C → String
  | .absent => "none"
  | .int n => Text.Decimal.intText n
  | .text content => .ofList (Text.Quoted.quote content.toList)
  | .player seat => "player#" ++ Text.Decimal.natText seat
  | .list _ => ""
  | .custom _ => ""

mutual

/-- The text of a value. Lists are bracketed and their items separated by blanks; the text of a
command is the game's affair. -/
def render (command : C → String) : Value C → String
  | .list items => "[" ++ renderItems command items ++ "]"
  | .custom c => command c
  | leaf => leaf.leafText

def renderItems (command : C → String) : List (Value C) → String
  | [] => ""
  | [last] => last.render command
  | item :: rest => item.render command ++ " " ++ renderItems command rest

end

end Value

end Tabletop
