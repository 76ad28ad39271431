import Tabletop.Grammar.Kind
import Tabletop.Wire.Codec

/-!
# Kinds on the wire

A kind is written as its name. It may also be read from an object that gives the
name a `null`; where a kind is read from data already held, an empty object will do
in place of the `null`.
-/

namespace Tabletop.NodeKind

open Json

def encode (kind : NodeKind) : Json :=
  .text kind.name

def decode : Decoder NodeKind
  | 0, .string (some name) => ofName? name
  | _ + 1, j =>
    match case? j with
    | some (name, none) => ofName? name
    | some (name, some .null) => ofName? name
    | _ => none
  | _, _ => none

/-- Reads a kind from data that is already held. -/
def decodeHeld (j : Json) : Option NodeKind :=
  match case? j with
  | some (name, none) => ofName? name
  | some (name, some .null) => ofName? name
  | some (name, some (.object [])) => ofName? name
  | _ => none

def codec : Codec NodeKind :=
  ⟨encode, decode⟩

end Tabletop.NodeKind
