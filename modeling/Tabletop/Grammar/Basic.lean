import Tabletop.Grammar.Kind
import Tabletop.Value

/-!
# Grammars

A grammar is a tree that describes what a player may type now. Games build one from
their state, read with it, and discard it. The leaves match integers, literal words,
names from a list, players' names and white space; the other nodes combine grammars.
`doc` and `map` do not change what is accepted: the one carries help for players,
the other turns values into commands.
-/

namespace Tabletop

universe u

/-- Inclusive limits, either of which may be missing. -/
structure Bounds (α : Type) where
  least : Option α
  most : Option α
deriving DecidableEq

namespace Bounds

variable {α : Type}

def none : Bounds α :=
  ⟨.none, .none⟩

def atLeast (least : α) : Bounds α :=
  ⟨some least, .none⟩

/-- Bounds on a number of repetitions that leave nothing to repeat. -/
def isVoid (count : Bounds Nat) : Bool :=
  match count.least, count.most with
  | _, some 0 => true
  | some least, some most => most < least
  | _, _ => false

/-- Whether a number of repetitions is as many as the bounds allow. -/
def isReached (count : Bounds Nat) (n : Nat) : Bool :=
  count.most.any (· ≤ n)

end Bounds

/-- A name that a player may type, and the value it stands for. -/
structure Candidate (C : Type u) where
  name : String
  value : Value C

inductive Grammar (C : Type u) where
  /-- A decimal integer within bounds. -/
  | int (bounds : Bounds Int)
  /-- A literal word, in any case. -/
  | token (word : String)
  /-- One of some names, which may be abbreviated unless `exact`. -/
  | choice (candidates : List (Candidate C)) (exact : Bool)
  /-- The first alternative that reads the text. -/
  | oneOf (alternatives : List (Grammar C))
  /-- All parts, one after the other. -/
  | chain (parts : List (Grammar C))
  /-- Repetition, with a delimiter between items if there is one. -/
  | many (item : Grammar C) (count : Bounds Nat) (delimiter : Option (Grammar C))
  /-- Something that may be left out. -/
  | opt (inner : Grammar C)
  /-- A name and perhaps a description, for help. -/
  | doc (name : String) (about : Option String) (inner : Grammar C)
  /-- The name of a player, which may be abbreviated. -/
  | player
  /-- White space. -/
  | space
  /-- A grammar whose values are transformed. -/
  | map (f : Value C → Value C) (inner : Grammar C)

namespace Grammar

variable {C : Type u}

def kind : Grammar C → NodeKind
  | .int _ => .int
  | .token _ => .token
  | .choice _ _ => .choice
  | .oneOf _ => .oneOf
  | .chain _ => .chain
  | .many _ _ _ => .many
  | .opt _ => .opt
  | .doc _ _ _ => .doc
  | .player => .player
  | .space => .space
  | .map _ _ => .map

/-- Names that stand for themselves as texts. -/
def words (names : List String) (exact : Bool) : Grammar C :=
  .choice (names.map fun name => ⟨name, .text name⟩) exact

/-- Integers named by their decimal text. -/
def numbers (values : List Int) (exact : Bool) : Grammar C :=
  .choice (values.map fun n => ⟨Text.Decimal.intText n, .int n⟩) exact

/-- White space and then a grammar, of whose values only the latter's is kept. -/
def afterSpace (inner : Grammar C) : Grammar C :=
  .map (·.child 1) (.chain [.space, inner])

end Grammar

end Tabletop
