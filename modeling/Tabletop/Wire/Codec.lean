import Tabletop.Json.Fields
import Tabletop.Json.Reader
import Tabletop.Json.Writer

/-!
# Wire forms

A codec says how values of a type are written as JSON and read back. Reading is more
liberal than writing: it accepts several forms of the same value, of which writing
picks one.
-/

namespace Tabletop

structure Codec (α : Type) where
  encode : α → Json
  decode : Json.Decoder α

namespace Codec

variable {α : Type}

/-- The wire text of a value. -/
def write (codec : Codec α) (a : α) : String :=
  (codec.encode a).compact

/-- The wire text of a value, laid out for people. -/
def writePretty (codec : Codec α) (a : α) : String :=
  (codec.encode a).pretty

/-- The value that a wire text holds. -/
def read? (codec : Codec α) (text : String) : Option α :=
  (Json.parse? text).bind (codec.decode Json.nestingLimit)

/-- The form in which the value of a wire text would be written. -/
def normalForm? (codec : Codec α) (text : String) : Option String :=
  (codec.read? text).map codec.write

/-- Lists of values, as arrays. -/
def list (codec : Codec α) : Codec (List α) where
  encode as := .array (as.map codec.encode)
  decode := Json.asList? codec.decode

end Codec

end Tabletop
