import Tabletop.Grammar.Basic

/-!
# What a grammar would accept

Descriptions for players, independent of any text. A sequence is described by its
first part, which is where reading starts; options and repetitions say so in front
of each description of what they contain.
-/

namespace Tabletop

universe u

namespace Bounds

open Text.Decimal (intText natText)

/-- The description of an integer within bounds. -/
def describeInt (bounds : Bounds Int) : String :=
  match bounds.least, bounds.most with
  | .none, .none => "number"
  | some least, .none => "number " ++ intText least ++ " or higher"
  | .none, some most => "number " ++ intText most ++ " or lower"
  | some least, some most => "number between " ++ intText least ++ " and " ++ intText most

/-- The description of a number of repetitions. -/
def describeCount (count : Bounds Nat) : String :=
  match count.least, count.most with
  | some least, some most => "between " ++ natText least ++ " and " ++ natText most
  | some least, .none => natText least ++ " or more"
  | .none, some most => "up to " ++ natText most
  | .none, .none => "any number of"

end Bounds

namespace Grammar

variable {C : Type u}

mutual

/-- Descriptions of what may stand at the beginning of a text, given the players' names. -/
def expected (names : List String) : Grammar C → List String
  | .int bounds => [bounds.describeInt]
  | .token word => [word]
  | .choice candidates _ => candidates.map (·.name)
  | .oneOf alternatives => expectedAny names alternatives
  | .chain [] => []
  | .chain (first :: _) => first.expected names
  | .many item count _ => (item.expected names).map (count.describeCount ++ " " ++ ·)
  | .opt inner => (inner.expected names).map ("optional " ++ ·)
  | .doc _ _ inner => inner.expected names
  | .player => names
  | .space => ["whitespace"]
  | .map _ inner => inner.expected names

def expectedAny (names : List String) : List (Grammar C) → List String
  | [] => []
  | g :: rest => g.expected names ++ expectedAny names rest

end

end Grammar

end Tabletop
