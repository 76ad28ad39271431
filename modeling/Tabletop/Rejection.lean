import Tabletop.Text.Phrase

/-!
# Rejections

Why a text was not read: an explanation if there is a specific one, descriptions of
what would have been accepted, and how many bytes were read before it went wrong.

Alternatives are judged by how far they got. `Deepest` keeps, while the failures of
an alternation come in, those that got furthest; `merged` makes one rejection of
them.
-/

namespace Tabletop

structure Rejection where
  message : Option String
  expected : List String
  /-- Bytes read before the failure. -/
  offset : Nat
deriving DecidableEq

namespace Rejection

/-- A rejection with nothing to say. -/
def blank : Rejection :=
  ⟨none, [], 0⟩

/-- A rejection at the start that lists what would have been accepted. -/
def expecting (expected : List String) : Rejection :=
  ⟨none, expected, 0⟩

/-- A rejection at the start that only explains. -/
def explaining (message : String) : Rejection :=
  ⟨some message, [], 0⟩

/-- The same rejection with an explanation. -/
def because (why : Rejection) (message : String) : Rejection :=
  { why with message := some message }

/-- The same rejection at an offset. -/
def placed (why : Rejection) (offset : Nat) : Rejection :=
  { why with offset }

/-- The rejection seen from an earlier start, with the bytes read between the two. -/
def shifted (why : Rejection) (bytes : Nat) : Rejection :=
  { why with offset := why.offset + bytes }

/-- The text shown to a player: the explanation, what was expected, or both. -/
def text (why : Rejection) : String :=
  match why.message, why.expected with
  | none, [] => ""
  | none, expected => "expected " ++ Text.phraseOr expected
  | some message, [] => message
  | some message, expected => message ++ ", expected " ++ Text.phraseOr expected

end Rejection

/-- The failures that got furthest so far, in the order in which they came. -/
structure Deepest where
  offset : Nat
  failures : List Rejection

namespace Deepest

def empty : Deepest :=
  ⟨0, []⟩

/-- Takes one more failure into account. A deeper one displaces those before it. -/
def add (deepest : Deepest) (failure : Rejection) : Deepest :=
  if deepest.offset < failure.offset then ⟨failure.offset, [failure]⟩
  else if failure.offset = deepest.offset then
    { deepest with failures := deepest.failures ++ [failure] }
  else deepest

/-- The explanations that say something. -/
def messages (deepest : Deepest) : List String :=
  (deepest.failures.filterMap (·.message)).filter (· ≠ "")

/-- One rejection for all the failures: their expectations in order, and their explanations
joined with "or". -/
def merged (deepest : Deepest) : Rejection where
  message := if deepest.messages = [] then none else some (Text.phraseOr deepest.messages)
  expected := deepest.failures.flatMap (·.expected)
  offset := deepest.offset

end Deepest

end Tabletop
