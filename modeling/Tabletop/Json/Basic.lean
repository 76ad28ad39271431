import Tabletop.Json.Magnitude

/-!
# JSON

JSON texts as trees. Two things are kept that a careless reader would lose. A number
written with a fraction or an exponent, or as minus zero, is a `real`, never an
integer, whatever its value; all that is kept of it is its sign and its magnitude.
And a string whose escapes leave a surrogate unpaired is well-formed JSON but no
Unicode text; it is kept as `none`, so that it can be passed over where strings are
ignored and refused where they are read.

`depth` counts how deep arrays and objects nest.
-/

namespace Tabletop

inductive Json where
  | null
  | bool (b : Bool)
  | int (n : Int)
  /-- A number that is not written as an integer. -/
  | real (negative : Bool) (magnitude : Json.Magnitude)
  | string (content : Option String)
  | array (items : List Json)
  | object (members : List (Option String × Json))
deriving Inhabited

namespace Json

/-- The string with a text. -/
def text (content : String) : Json :=
  .string (some content)

def nat (n : Nat) : Json :=
  .int n

/-- The array of some texts. -/
def texts (contents : List String) : Json :=
  .array (contents.map text)

/-- The array of some natural numbers. -/
def nats (numbers : List Nat) : Json :=
  .array (numbers.map nat)

/-- The object with some fields. -/
def record (fields : List (String × Json)) : Json :=
  .object (fields.map fun (name, value) => (some name, value))

/-- A field that is left out when there is nothing in it. -/
def optional {α : Type} (encode : α → Json) (name : String) : Option α → List (String × Json)
  | none => []
  | some a => [(name, encode a)]

mutual

/-- How deep arrays and objects nest. -/
def depth : Json → Nat
  | .null | .bool _ | .int _ | .real _ _ | .string _ => 0
  | .array items => depthItems items + 1
  | .object members => depthMembers members + 1

def depthItems : List Json → Nat
  | [] => 0
  | item :: rest => max item.depth (depthItems rest)

def depthMembers : List (Option String × Json) → Nat
  | [] => 0
  | (_, value) :: rest => max value.depth (depthMembers rest)

end

end Json

end Tabletop
