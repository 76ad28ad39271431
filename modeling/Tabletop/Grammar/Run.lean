import Tabletop.Grammar.Leaf
import Tabletop.Grammar.Repetition
import Tabletop.Grammar.Shortlist

/-!
# Reading with a grammar

`Grammar.run` reads the beginning of a text. It recurses on the grammar; each part
of a sequence gets the text that the parts before it left, and a failure is moved
to where it happened by the width of what they consumed, so that alternatives can
be judged by how far they got.
-/

namespace Tabletop

universe u

namespace Grammar

variable {C : Type u}

/-- The outcome of an option: what was read, or nothing at all. -/
def orAbsent (input : List Char) : Outcome C → Outcome C
  | .ok parsed => .ok parsed
  | .error _ => .ok ⟨.absent, [], input⟩

/-- The outcome with its value transformed. -/
def mapValue (f : Value C → Value C) (outcome : Outcome C) : Outcome C :=
  outcome.map fun parsed => { parsed with value := f parsed.value }

mutual

/-- Reads the beginning of a text, given the players' names. -/
def run (names : List String) : Grammar C → List Char → Outcome C
  | .int bounds, input => Leaf.integer bounds input
  | .token word, input => Leaf.word word input
  | .choice candidates exact, input => Candidate.read candidates exact input
  | .oneOf alternatives, input => runFirst names alternatives .empty input
  | .chain parts, input =>
    (runAll names parts input).map fun items =>
      ⟨.list items.values, items.consumed, items.remaining⟩
  | .many item count none, input => Repetition.read (item.run names) none count input
  | .many item count (some delimiter), input =>
    Repetition.read (item.run names) (some (delimiter.run names)) count input
  | .opt inner, input => orAbsent input (inner.run names input)
  | .doc _ _ inner, input => inner.run names input
  | .player, input => Candidate.read (Candidate.ofPlayers names) false input
  | .space, input => Leaf.blanks input
  | .map f inner, input => mapValue f (inner.run names input)

/-- The first alternative to succeed, or the failures that got furthest. -/
def runFirst (names : List String) : List (Grammar C) → Deepest → List Char → Outcome C
  | [], deepest, _ => .error deepest.merged
  | g :: rest, deepest, input =>
    match g.run names input with
    | .ok parsed => .ok parsed
    | .error why => runFirst names rest (deepest.add why) input

/-- All parts in turn. -/
def runAll (names : List String) : List (Grammar C) → List Char → Except Rejection (Items C)
  | [], input => .ok (.none input)
  | g :: rest, input =>
    match g.run names input with
    | .error why => .error why
    | .ok first =>
      match runAll names rest first.remaining with
      | .error why => .error (why.shifted (Text.width first.consumed))
      | .ok items => .ok (.before first items)

end

/-- Reads the beginning of a player's text. -/
def parse (g : Grammar C) (input : String) (names : List String) : Outcome C :=
  g.run names input.toList

end Grammar

end Tabletop
