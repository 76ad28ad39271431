import Tabletop.Proofs.Wire.Messages

/-!
# Records and messages survive the wire

Whatever is said in a record, a list of records or a message, what is written for it
says the same to whoever reads it, be it compact or laid out for people. All that is
asked is that its numbers fit unsigned words; texts may hold any characters, and what
may be missing may be missing.

A list of records can be read in two ways: as a list, or as an array from which its
items are taken one by one.
-/

namespace Tabletop

namespace Codec

variable {α : Type} {codec : Codec α} {Fits : α → Prop}

theorem plain_list (h : ∀ a, (codec.encode a).Plain) (as : List α) :
    (codec.list.encode as).Plain := by
  rw [list, Json.plain_array]
  exact List.forall_mem_map.mpr fun a _ => h a

/-- Lists round-trip if their items are decoded inside an array. -/
theorem list_roundTrips (hplain : ∀ a, (codec.encode a).Plain)
    (hdecode : ∀ a, Fits a → codec.decode (Json.nestingLimit - 1) (codec.encode a) = some a) :
    codec.list.RoundTrips (∀ a ∈ ·, Fits a) :=
  roundTrips_of_decode (plain_list hplain) fun _ has =>
    Json.asList?_map fun a ha => hdecode a (has a ha)

/-- A text is that of an array, and its items are read as some values, in order. -/
def Lists (codec : Codec α) (text : String) (as : List α) : Prop :=
  ∃ items, Json.parse? text = some (.array items) ∧
    items.map (codec.decode Json.nestingLimit) = as.map some

/-- What is written for a list of values that satisfy a condition lists these values, in either
form. -/
structure ListsBack (codec : Codec α) (Fits : α → Prop) : Prop where
  compact : ∀ as, (∀ a ∈ as, Fits a) → codec.Lists (codec.list.write as) as
  pretty : ∀ as, (∀ a ∈ as, Fits a) → codec.Lists (codec.list.writePretty as) as

theorem listsBack_of_decode (hplain : ∀ a, (codec.encode a).Plain)
    (hdecode : ∀ a, Fits a → codec.decode Json.nestingLimit (codec.encode a) = some a) :
    codec.ListsBack Fits := by
  have hitems : ∀ as : List α, (∀ a ∈ as, Fits a) →
      (as.map codec.encode).map (codec.decode Json.nestingLimit) = as.map some := by
    intro as has
    rw [List.map_map]
    exact List.map_congr_left fun a ha => hdecode a (has a ha)
  constructor
  · intro as has
    exact ⟨_, Json.parse?_compact (plain_list hplain as), hitems as has⟩
  · intro as has
    exact ⟨_, Json.parse?_pretty (plain_list hplain as), hitems as has⟩

end Codec

namespace Trace.Record

theorem list_roundTrips : codec.list.RoundTrips (∀ record ∈ ·, record.Fits) :=
  Codec.list_roundTrips plain_encode fun _ h => decode_encode h 124

theorem listsBack : codec.ListsBack Fits :=
  Codec.listsBack_of_decode plain_encode fun _ h => decode_encode h 125

end Trace.Record

/-- Records, lists of them and all messages whose numbers fit words are read from what is written
for them, in either form; and what is written for a list of records is an array from whose items
the records are read. -/
theorem messages_roundTrip :
    Trace.Record.codec.RoundTrips Trace.Record.Fits ∧
      Trace.Record.codec.list.RoundTrips (∀ record ∈ ·, record.Fits) ∧
      Trace.Record.codec.ListsBack Trace.Record.Fits ∧
      Trace.Event.codec.RoundTrips Trace.Event.Fits ∧
      Status.codec.RoundTrips Status.Fits ∧
      Notice.codec.RoundTrips Notice.Fits ∧
      Reply.codec.RoundTrips Reply.Fits ∧
      NodeKind.codec.RoundTrips fun _ => True :=
  ⟨Trace.Record.roundTrips, Trace.Record.list_roundTrips, Trace.Record.listsBack,
    Trace.Event.roundTrips, Status.roundTrips, Notice.roundTrips, Reply.roundTrips,
    NodeKind.roundTrips⟩

/-- The last record that can be numbered, with characters of each kind that is escaped. -/
def awkwardRecord : Trace.Record :=
  ⟨18446744073709551615, 1, .failed .many 18446744073709551615
    ⟨some "\"\\\n\x01", ["é", ""], 0⟩⟩

/-- A record without a message. -/
def quietRecord : Trace.Record :=
  ⟨0, 0, .failed .int 0 ⟨none, [], 0⟩⟩

theorem messages_roundTrip_of_awkward :
    Trace.Record.codec.write awkwardRecord =
        "\x7b\"id\":18446744073709551615,\"depth\":1,\"event\":\"failed\",\"kind\":\"Many\"," ++
          "\"at\":18446744073709551615,\"offset\":0,\"message\":\"\\\"\\\\\\n\\u0001\"," ++
          "\"expected\":[\"é\",\"\"]\x7d" ∧
      Trace.Record.codec.read? (Trace.Record.codec.write awkwardRecord) = some awkwardRecord ∧
      Trace.Record.codec.list.writePretty [quietRecord] =
        "[\n  \x7b\n    \"id\": 0,\n    \"depth\": 0,\n    \"event\": \"failed\",\n" ++
          "    \"kind\": \"Int\",\n    \"at\": 0,\n    \"offset\": 0,\n" ++
          "    \"expected\": []\n  \x7d\n]" ∧
      Trace.Record.codec.Lists
        (Trace.Record.codec.list.writePretty [quietRecord, awkwardRecord])
        [quietRecord, awkwardRecord] := by
  obtain ⟨hrecord, -, hlist, -⟩ := messages_roundTrip
  have hawkward : awkwardRecord.Fits := ⟨by decide, by decide, by decide, by decide⟩
  have hquiet : quietRecord.Fits := ⟨by decide, by decide, by decide, by decide⟩
  have hboth : ∀ record ∈ [quietRecord, awkwardRecord], record.Fits :=
    List.forall_mem_cons.mpr ⟨hquiet, List.forall_mem_singleton.mpr hawkward⟩
  exact ⟨by decide +kernel, hrecord.compact _ hawkward, by decide +kernel, hlist.pretty _ hboth⟩

end Tabletop
