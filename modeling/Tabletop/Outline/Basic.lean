import Tabletop.Grammar.Basic

/-!
# Outlines

The shape of a grammar without its behaviour: what clients need to show help or to
offer completions. Candidates keep their names but not their values, and a `map`
leaves no trace, so an outline holds no function and no command of the game.
-/

namespace Tabletop

universe u

inductive Outline where
  | int (bounds : Bounds Int)
  | token (word : String)
  | choice (names : List String) (exact : Bool)
  | oneOf (alternatives : List Outline)
  | chain (parts : List Outline)
  | many (item : Outline) (count : Bounds Nat) (delimiter : Option Outline)
  | opt (inner : Outline)
  | doc (name : String) (about : Option String) (inner : Outline)
  | player
  | space

namespace Outline

def kind : Outline → NodeKind
  | .int _ => .int
  | .token _ => .token
  | .choice _ _ => .choice
  | .oneOf _ => .oneOf
  | .chain _ => .chain
  | .many _ _ _ => .many
  | .opt _ => .opt
  | .doc _ _ _ => .doc
  | .player => .player
  | .space => .space

end Outline

namespace Grammar

variable {C : Type u}

mutual

/-- The shape of a grammar. -/
def outline : Grammar C → Outline
  | .int bounds => .int bounds
  | .token word => .token word
  | .choice candidates exact => .choice (candidates.map (·.name)) exact
  | .oneOf alternatives => .oneOf (outlines alternatives)
  | .chain parts => .chain (outlines parts)
  | .many item count none => .many item.outline count none
  | .many item count (some delimiter) => .many item.outline count (some delimiter.outline)
  | .opt inner => .opt inner.outline
  | .doc name about inner => .doc name about inner.outline
  | .player => .player
  | .space => .space
  | .map _ inner => inner.outline

def outlines : List (Grammar C) → List Outline
  | [] => []
  | g :: rest => g.outline :: outlines rest

end

end Grammar

end Tabletop
