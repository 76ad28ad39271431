import Tabletop.Json.Basic
import Tabletop.Word

/-!
# Reading data out of JSON

The wire forms of the library's types are made of a few pieces. A type with named
fields may be written as an object with its fields in any order, or as an array of
them in declared order, from which optional fields at the end may be missing. In an
object unknown fields are passed over, and a known field that occurs twice is an
error. `null` stands for a missing optional field.

Readers carry the number of levels that arrays and objects may still nest, which is
`nestingLimit` at the outside. What is passed over is not counted.
-/

namespace Tabletop.Json

/-- The number of levels that arrays and objects may nest in a message. -/
def nestingLimit : Nat :=
  127

/-- A reader of a type's wire form inside a given number of remaining levels. -/
abbrev Decoder (α : Type) := Nat → Json → Option α

def asText? : Json → Option String
  | .string content => content
  | _ => none

def asBool? : Json → Option Bool
  | .bool b => some b
  | _ => none

/-- An integer that fits a signed 64-bit word. -/
def asSigned? : Json → Option Int
  | .int n => if Word.fitsSigned n then some n else none
  | _ => none

/-- An integer that fits an unsigned 64-bit word. -/
def asUnsigned? : Json → Option Nat
  | .int n => if Word.fitsUnsigned n then some n.toNat else none
  | _ => none

/-- An array, each of whose items can be read. -/
def asList? {α : Type} (item : Decoder α) : Decoder (List α)
  | levels + 1, .array items => items.mapM (item levels)
  | _, _ => none

def asTexts? : Decoder (List String) :=
  asList? fun _ => asText?

def asUnsignedList? : Decoder (List Nat) :=
  asList? fun _ => asUnsigned?

/-- The only member with a name, `some none` if there is none. -/
def member? (name : String) (members : List (Option String × Json)) : Option (Option Json) :=
  match members.filter (·.1 = some name) with
  | [] => some none
  | [(_, value)] => some (some value)
  | _ => none

/-- The values of the named fields. All names of members must be texts. -/
def objectFields? (names : List String) (members : List (Option String × Json)) :
    Option (List (Option Json)) :=
  if members.all (·.1.isSome) then names.mapM (member? · members) else none

/-- The values of fields written in order. -/
def arrayFields? (names : List String) (items : List Json) : Option (List (Option Json)) :=
  if items.length ≤ names.length then
    some (items.map some ++ List.replicate (names.length - items.length) none)
  else none

/-- The values of the named fields of an object or an array. -/
def fields? (names : List String) : Decoder (List (Option Json))
  | _ + 1, .object members => objectFields? names members
  | _ + 1, .array items => arrayFields? names items
  | _, _ => none

/-- A field that has to be there. -/
def required {α : Type} (read : Json → Option α) : Option Json → Option α
  | none => none
  | some value => read value

/-- A field that may be missing or `null`. -/
def optional? {α : Type} (read : Json → Option α) : Option Json → Option (Option α)
  | none => some none
  | some .null => some none
  | some value => (read value).map some

/-- A case of a type by its name: alone, or as the only member of an object with its data. -/
def case? : Json → Option (String × Option Json)
  | .string (some name) => some (name, none)
  | .object [(some name, value)] => some (name, some value)
  | _ => none

/-- Values that can be held as data until their meaning is known: they nest no deeper than the
remaining levels, their strings are texts and their numbers are finite. -/
def holdable : Nat → Json → Bool
  | levels + 1, .array items => items.all (holdable levels)
  | levels + 1, .object members =>
    members.all fun (name, value) => name.isSome && holdable levels value
  | 0, .array _ => false
  | 0, .object _ => false
  | _, .string content => content.isSome
  | _, .int n => (Magnitude.ofNat n.natAbs).isFinite
  | _, .real _ magnitude => magnitude.isFinite
  | _, _ => true

end Tabletop.Json
