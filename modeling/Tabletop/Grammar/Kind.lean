/-!
# Kinds of grammar nodes

The tag that a grammar node, its outline and the events of a traced reading share.
-/

namespace Tabletop

inductive NodeKind where
  | int
  | token
  | choice
  | oneOf
  | chain
  | many
  | opt
  | doc
  | player
  | space
  | map
deriving DecidableEq

namespace NodeKind

def all : List NodeKind :=
  [.int, .token, .choice, .oneOf, .chain, .many, .opt, .doc, .player, .space, .map]

/-- The name of a kind in traces and messages. -/
def name : NodeKind → String
  | .int => "Int"
  | .token => "Token"
  | .choice => "Enum"
  | .oneOf => "OneOf"
  | .chain => "Chain"
  | .many => "Many"
  | .opt => "Opt"
  | .doc => "Doc"
  | .player => "Player"
  | .space => "Space"
  | .map => "Map"

/-- The kind with a name. -/
def ofName? (name : String) : Option NodeKind :=
  all.find? (·.name = name)

end NodeKind

end Tabletop
