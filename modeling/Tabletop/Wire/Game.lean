import Tabletop.Game.Rules
import Tabletop.Wire.Codec

/-!
# Game messages on the wire

Status, notices and replies. All their fields are required. A status is tagged with
the name of its case.
-/

namespace Tabletop

open Json

namespace Status

def encode : Status → Json
  | .active turn eliminated =>
    .record [("Active", .record [("whose_turn", .nats turn), ("eliminated", .nats eliminated)])]
  | .finished placings =>
    .record [("Finished", .record [("placings", .nats placings)])]

def decodeActive (levels : Nat) (data : Json) : Option Status := do
  let [turn, eliminated] ← fields? ["whose_turn", "eliminated"] levels data | none
  let turn ← required (asUnsignedList? (levels - 1)) turn
  let eliminated ← required (asUnsignedList? (levels - 1)) eliminated
  some (.active turn eliminated)

def decodeFinished (levels : Nat) (data : Json) : Option Status := do
  let [placings] ← fields? ["placings"] levels data | none
  let placings ← required (asUnsignedList? (levels - 1)) placings
  some (.finished placings)

def decode : Decoder Status
  | levels + 1, j =>
    match case? j with
    | some ("Active", some data) => decodeActive levels data
    | some ("Finished", some data) => decodeFinished levels data
    | _ => none
  | _, _ => none

def codec : Codec Status :=
  ⟨encode, decode⟩

end Status

namespace Notice

def encode (notice : Notice) : Json :=
  .record [("content", .text notice.content), ("public", .bool notice.isPublic),
    ("to", .nats notice.recipients)]

def decode : Decoder Notice := fun levels j => do
  let [content, isPublic, recipients] ← fields? ["content", "public", "to"] levels j | none
  let content ← required asText? content
  let isPublic ← required asBool? isPublic
  let recipients ← required (asUnsignedList? (levels - 1)) recipients
  some ⟨content, isPublic, recipients⟩

def codec : Codec Notice :=
  ⟨encode, decode⟩

end Notice

namespace Reply

def encode (reply : Reply) : Json :=
  .record [("logs", .array (reply.notices.map (·.encode))), ("can_undo", .bool reply.canUndo),
    ("remaining_input", .text reply.remaining)]

def decode : Decoder Reply := fun levels j => do
  let [notices, canUndo, remaining] ← fields? ["logs", "can_undo", "remaining_input"] levels j
    | none
  let notices ← required (asList? Notice.decode (levels - 1)) notices
  let canUndo ← required asBool? canUndo
  let remaining ← required asText? remaining
  some ⟨notices, canUndo, remaining⟩

def codec : Codec Reply :=
  ⟨encode, decode⟩

end Reply

end Tabletop
