import Tabletop.Grammar.Kind
import Tabletop.Grammar.Outcome

/-!
# Events of a traced reading

Every node of a grammar that is run is attempted and then either matches or fails.
Positions are bytes in the text that the whole reading started with; the offset of a
failure is counted from where its node started.
-/

namespace Tabletop.Trace

universe u

inductive Event where
  | attempt (kind : NodeKind) (position : Nat)
  | matched (kind : NodeKind) (position : Nat) (consumed : String)
  | failed (kind : NodeKind) (position : Nat) (why : Rejection)
deriving DecidableEq

namespace Event

/-- The name of an event's type. -/
def typeName : Event → String
  | .attempt _ _ => "attempt"
  | .matched _ _ _ => "matched"
  | .failed _ _ _ => "failed"

def kind : Event → NodeKind
  | .attempt kind _ => kind
  | .matched kind _ _ => kind
  | .failed kind _ _ => kind

def position : Event → Nat
  | .attempt _ position => position
  | .matched _ position _ => position
  | .failed _ position _ => position

def isFailure : Event → Bool
  | .failed _ _ _ => true
  | _ => false

/-- The event that ends a node's run. -/
def ofOutcome {C : Type u} (kind : NodeKind) (position : Nat) : Outcome C → Event
  | .ok parsed => .matched kind position (.ofList parsed.consumed)
  | .error why => .failed kind position why

end Event

/-- A numbered event, with the depth in the grammar at which it happened. -/
structure Record where
  id : Nat
  depth : Nat
  event : Event
deriving DecidableEq

end Tabletop.Trace
