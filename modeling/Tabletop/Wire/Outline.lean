import Tabletop.Outline.Basic
import Tabletop.Wire.Codec

/-!
# Outlines on the wire

Every node is an object with its kind as only key, but players and white space,
which hold no data, are written as bare strings. Nodes nest at different prices: a
word or an option costs one level of nesting, a choice three, and the others two.
-/

namespace Tabletop.Outline

open Json

mutual

def encode : Outline → Json
  | .int bounds =>
    .record [("Int", .record (optional .int "min" bounds.least ++ optional .int "max" bounds.most))]
  | .token word => .record [("Token", .text word)]
  | .choice names exact =>
    .record [("Enum", .record [("values", .texts names), ("exact", .bool exact)])]
  | .oneOf alternatives => .record [("OneOf", .array (encodeAll alternatives))]
  | .chain parts => .record [("Chain", .array (encodeAll parts))]
  | .many item count none =>
    .record [("Many", .record (("spec", item.encode) ::
      (optional .nat "min" count.least ++ optional .nat "max" count.most)))]
  | .many item count (some delimiter) =>
    .record [("Many", .record (("spec", item.encode) ::
      (optional .nat "min" count.least ++ optional .nat "max" count.most ++
        [("delim", delimiter.encode)])))]
  | .opt inner => .record [("Opt", inner.encode)]
  | .doc name about inner =>
    .record [("Doc", .record (("name", .text name) ::
      (optional .text "desc" about ++ [("spec", inner.encode)])))]
  | .player => .text "Player"
  | .space => .text "Space"

def encodeAll : List Outline → List Json
  | [] => []
  | o :: rest => o.encode :: encodeAll rest

end

/-- Reads an integer's bounds. -/
def decodeInt (levels : Nat) (data : Json) : Option Outline := do
  let [least, most] ← fields? ["min", "max"] levels data | none
  let least ← optional? asSigned? least
  let most ← optional? asSigned? most
  some (.int ⟨least, most⟩)

/-- Reads the names of a choice. -/
def decodeChoice (levels : Nat) (data : Json) : Option Outline := do
  let [names, exact] ← fields? ["values", "exact"] levels data | none
  let names ← required (asTexts? (levels - 1)) names
  let exact ← required asBool? exact
  some (.choice names exact)

/-- Reads a repetition, given how to read what it contains. -/
def decodeMany (inside : Json → Option Outline) (levels : Nat) (data : Json) :
    Option Outline := do
  let [item, least, most, delimiter] ← fields? ["spec", "min", "max", "delim"] levels data | none
  let item ← required inside item
  let least ← optional? asUnsigned? least
  let most ← optional? asUnsigned? most
  let delimiter ← optional? inside delimiter
  some (.many item ⟨least, most⟩ delimiter)

/-- Reads a documented outline, given how to read what it contains. -/
def decodeDoc (inside : Json → Option Outline) (levels : Nat) (data : Json) :
    Option Outline := do
  let [name, about, inner] ← fields? ["name", "desc", "spec"] levels data | none
  let name ← required asText? name
  let about ← optional? asText? about
  let inner ← required inside inner
  some (.doc name about inner)

/-- Reads an array, given how to read its items. -/
def decodeAll (inside : Json → Option Outline) (levels : Nat) (data : Json) :
    Option (List Outline) :=
  asList? (fun _ => inside) levels data

/-- Reads a node without data. -/
def decodeBare : String → Option Outline
  | "Player" => some .player
  | "Space" => some .space
  | _ => none

/-- Reads an outline. Inside a node's object there is one level less, and inside the object or
array of its data two. -/
def decode : Decoder Outline
  | 0, j =>
    match case? j with
    | some (name, none) => decodeBare name
    | _ => none
  | levels + 1, j =>
    let inside : Json → Option Outline :=
      match levels with
      | 0 => fun _ => none
      | fewer + 1 => decode fewer
    match case? j with
    | some (name, none) => decodeBare name
    | some (name, some data) =>
      match name with
      | "Int" => decodeInt levels data
      | "Token" => (asText? data).map .token
      | "Enum" => decodeChoice levels data
      | "OneOf" => (decodeAll inside levels data).map .oneOf
      | "Chain" => (decodeAll inside levels data).map .chain
      | "Many" => decodeMany inside levels data
      | "Opt" => (decode levels data).map .opt
      | "Doc" => decodeDoc inside levels data
      | other => if data matches .null then decodeBare other else none
    | none => none

def codec : Codec Outline :=
  ⟨encode, decode⟩

end Tabletop.Outline
