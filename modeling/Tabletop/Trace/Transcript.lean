import Tabletop.Text.Decimal
import Tabletop.Text.Quoted
import Tabletop.Trace.Event

/-!
# Transcripts

Records written for people: one line each, indented by depth. An attempt is marked
`>`, a match `+` with the consumed text in quotes, a failure `-` with the place
where it happened, its explanation and what was expected.
-/

namespace Tabletop.Trace.Transcript

open Text.Decimal (natText)

/-- A kind and where its node started. -/
def place (kind : NodeKind) (position : Nat) : String :=
  kind.name ++ " @" ++ natText position

def describe : Event → String
  | .attempt kind position => "> " ++ place kind position
  | .matched kind position consumed =>
    "+ " ++ place kind position ++ " " ++ .ofList (Text.Quoted.quote consumed.toList)
  | .failed kind position why =>
    "- " ++ place kind position ++ "+" ++ natText why.offset ++
      (match why.message with
        | none => ""
        | some message => " " ++ message) ++
      (if why.expected = [] then ""
        else " (expected " ++ String.intercalate ", " why.expected ++ ")")

/-- The number of a record, with at least six digits. -/
def label (id : Nat) : String :=
  "[" ++ Text.Decimal.padded 6 id ++ "] "

/-- A record, with its number if wanted. -/
def line (numbered : Bool) (record : Record) : String :=
  (if numbered then label record.id else "") ++
    String.join (List.replicate record.depth "  ") ++ describe record.event

/-- Some records, each on a line of its own. -/
def lines (numbered : Bool) (records : List Record) : String :=
  String.intercalate "\n" (records.map (line numbered))

end Tabletop.Trace.Transcript
