import Tabletop.Trace.Event
import Tabletop.Wire.Kind

/-!
# Trace records on the wire

An event is an object whose field `event` names its type, beside its other fields. A
record adds its number and depth to the same object. Since the type may come after
the fields that depend on it, an event is read from data held until then, and the
whole of it has to be holdable. An event may also be an array, its type first; a
record may not, but may give the type by its index.
-/

namespace Tabletop.Trace

open Json

namespace Event

/-- The fields of an event, its type first. -/
def encodeFields : Event → List (String × Json)
  | .attempt kind position =>
    [("event", .text "attempt"), ("kind", kind.encode), ("at", .nat position)]
  | .matched kind position consumed =>
    [("event", .text "matched"), ("kind", kind.encode), ("at", .nat position),
      ("consumed", .text consumed)]
  | .failed kind position why =>
    [("event", .text "failed"), ("kind", kind.encode), ("at", .nat position),
      ("offset", .nat why.offset)] ++
      optional .text "message" why.message ++ [("expected", .texts why.expected)]

def encode (event : Event) : Json :=
  .record event.encodeFields

def typeNames : List String :=
  ["attempt", "matched", "failed"]

/-- The fields of a type of event beside the type itself. -/
def fieldNames : String → Option (List String)
  | "attempt" => some ["kind", "at"]
  | "matched" => some ["kind", "at", "consumed"]
  | "failed" => some ["kind", "at", "offset", "message", "expected"]
  | _ => none

/-- The event with given values of its fields. -/
def ofFields? (type : String) (values : List (Option Json)) : Option Event :=
  match type, values with
  | "attempt", [kind, position] => do
    let kind ← required NodeKind.decodeHeld kind
    let position ← required asUnsigned? position
    some (.attempt kind position)
  | "matched", [kind, position, consumed] => do
    let kind ← required NodeKind.decodeHeld kind
    let position ← required asUnsigned? position
    let consumed ← required asText? consumed
    some (.matched kind position consumed)
  | "failed", [kind, position, offset, message, expected] => do
    let kind ← required NodeKind.decodeHeld kind
    let position ← required asUnsigned? position
    let offset ← required asUnsigned? offset
    let message ← optional? asText? message
    let expected ← required (asTexts? nestingLimit) expected
    some (.failed kind position ⟨message, expected, offset⟩)
  | _, _ => none

/-- Reads an event from the members of an object, given how to read its type. -/
def ofMembers? (typeOf : Json → Option String) (members : List (Option String × Json)) :
    Option Event := do
  let type ← required typeOf (← member? "event" members)
  let names ← fieldNames type
  ofFields? type (← objectFields? names members)

def decode : Decoder Event
  | levels + 1, .object members =>
    if holdable (levels + 1) (.object members) then ofMembers? asText? members else none
  | levels + 1, .array (.string (some type) :: items) =>
    if holdable (levels + 1) (.array items) then do
      let names ← fieldNames type
      ofFields? type (← arrayFields? names items)
    else none
  | _, _ => none

def codec : Codec Event :=
  ⟨encode, decode⟩

end Event

namespace Record

def encode (record : Record) : Json :=
  .record ([("id", .nat record.id), ("depth", .nat record.depth)] ++ record.event.encodeFields)

/-- The type of an event by its name or its index. -/
def typeOf? : Json → Option String
  | .int n => if n < 0 then none else Event.typeNames[n.toNat]?
  | j => asText? j

def decode : Decoder Record
  | levels + 1, .object members =>
    let rest := members.filter fun (name, _) => name ≠ some "id" && name ≠ some "depth"
    if holdable (levels + 1) (.object rest) then do
      let id ← required asUnsigned? (← member? "id" members)
      let depth ← required asUnsigned? (← member? "depth" members)
      let event ← Event.ofMembers? typeOf? rest
      some ⟨id, depth, event⟩
    else none
  | _, _ => none

def codec : Codec Record :=
  ⟨encode, decode⟩

end Record

end Tabletop.Trace
