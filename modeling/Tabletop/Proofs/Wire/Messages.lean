import Tabletop.Proofs.Wire.Outline
import Tabletop.Wire.Game
import Tabletop.Wire.Trace

/-!
# Messages settle

Each type of message has a condition, that its numbers fit unsigned words, which holds
of everything that can be read and suffices for what is written to be read back. So
whatever form a message was received in, writing and reading it again changes nothing
any more.
-/

namespace Tabletop

open Json

/-! ## Status -/

namespace Status

def Fits : Status → Prop
  | .active turn eliminated => (∀ n ∈ turn, n < Word.count) ∧ ∀ n ∈ eliminated, n < Word.count
  | .finished placings => ∀ n ∈ placings, n < Word.count

theorem plain_encode (status : Status) : status.encode.Plain := by
  cases status with
  | active turn eliminated =>
    rw [encode, plain_tagged, plain_record]
    simp
  | finished placings =>
    rw [encode, plain_tagged, plain_record]
    simp

theorem decodeActive_given {turn eliminated : List Nat} (hturn : ∀ n ∈ turn, n < Word.count)
    (heliminated : ∀ n ∈ eliminated, n < Word.count) (levels : Nat) :
    decodeActive (levels + 2)
      (record (given ["whose_turn", "eliminated"]
        [some (.nats turn), some (.nats eliminated)])) = some (.active turn eliminated) := by
  have hlevels : 0 < levels + 2 - 1 := Nat.succ_pos levels
  rw [decodeActive, fields?_given _ _ (by decide) rfl]
  dsimp only [Option.bind_eq_bind, Option.bind_some, required]
  rw [asUnsignedList?_nats hlevels hturn,
    asUnsignedList?_nats hlevels heliminated]
  rfl

theorem decodeFinished_given {placings : List Nat} (h : ∀ n ∈ placings, n < Word.count)
    (levels : Nat) :
    decodeFinished (levels + 2) (record (given ["placings"] [some (.nats placings)])) =
      some (.finished placings) := by
  have hlevels : 0 < levels + 2 - 1 := Nat.succ_pos levels
  rw [decodeFinished, fields?_given _ _ (by decide) rfl]
  dsimp only [Option.bind_eq_bind, Option.bind_some, required]
  rw [asUnsignedList?_nats hlevels h]
  rfl

theorem decode_encode {status : Status} (h : status.Fits) (levels : Nat) :
    decode (levels + 3) status.encode = some status := by
  cases status with
  | active turn eliminated => exact decodeActive_given h.1 h.2 levels
  | finished placings => exact decodeFinished_given h levels

theorem yields_decode (levels : Nat) : Yields (decode levels) Fits := by
  intro j status h
  unfold decode at h
  split at h
  · split at h
    · unfold decodeActive at h
      obtain ⟨values, -, h⟩ := Option.bind_eq_some_iff.mp h
      split at h
      · obtain ⟨turn, hturn, h⟩ := Option.bind_eq_some_iff.mp h
        obtain ⟨eliminated, heliminated, h⟩ := Option.bind_eq_some_iff.mp h
        cases h
        exact ⟨(yields_asUnsignedList? _).required hturn,
          (yields_asUnsignedList? _).required heliminated⟩
      · cases h
    · unfold decodeFinished at h
      obtain ⟨values, -, h⟩ := Option.bind_eq_some_iff.mp h
      split at h
      · obtain ⟨placings, hplacings, h⟩ := Option.bind_eq_some_iff.mp h
        cases h
        exact (yields_asUnsignedList? _).required hplacings
      · cases h
    · cases h
  · cases h

theorem roundTrips : codec.RoundTrips Fits :=
  Codec.roundTrips_of_decode plain_encode fun _ h => decode_encode h 124

theorem settles : codec.Settles :=
  roundTrips.settles (yields_decode nestingLimit)

end Status

/-! ## Notices and replies -/

namespace Notice

def Fits (notice : Notice) : Prop :=
  ∀ n ∈ notice.recipients, n < Word.count

theorem plain_encode (notice : Notice) : notice.encode.Plain := by
  rw [encode, plain_record]
  simp

theorem decode_encode {notice : Notice} (h : notice.Fits) (levels : Nat) :
    decode (levels + 2) notice.encode = some notice := by
  have hfields := fields?_given ["content", "public", "to"]
    [some (.text notice.content), some (.bool notice.isPublic), some (.nats notice.recipients)]
    (by decide) rfl (levels + 1)
  have hencode : notice.encode = record (given ["content", "public", "to"]
    [some (.text notice.content), some (.bool notice.isPublic),
      some (.nats notice.recipients)]) := rfl
  have hlevels : 0 < levels + 2 - 1 := Nat.succ_pos levels
  rw [decode, hencode, hfields]
  dsimp only [Option.bind_eq_bind, Option.bind_some, required, asText?, text, asBool?]
  rw [asUnsignedList?_nats hlevels h]
  rfl

theorem yields_decode (levels : Nat) : Yields (decode levels) Fits := by
  intro j notice h
  unfold decode at h
  obtain ⟨values, -, h⟩ := Option.bind_eq_some_iff.mp h
  split at h
  · obtain ⟨content, -, h⟩ := Option.bind_eq_some_iff.mp h
    obtain ⟨isPublic, -, h⟩ := Option.bind_eq_some_iff.mp h
    obtain ⟨recipients, hrecipients, h⟩ := Option.bind_eq_some_iff.mp h
    cases h
    exact (yields_asUnsignedList? _).required hrecipients
  · cases h

theorem roundTrips : codec.RoundTrips Fits :=
  Codec.roundTrips_of_decode plain_encode fun _ h => decode_encode h 125

theorem settles : codec.Settles :=
  roundTrips.settles (yields_decode nestingLimit)

end Notice

namespace Reply

def Fits (reply : Reply) : Prop :=
  ∀ notice ∈ reply.notices, notice.Fits

theorem plain_encode (reply : Reply) : reply.encode.Plain := by
  rw [encode, plain_record]
  simp [plain_array, Notice.plain_encode]

theorem decode_encode {reply : Reply} (h : reply.Fits) (levels : Nat) :
    decode (levels + 4) reply.encode = some reply := by
  have hencode : reply.encode = record (given ["logs", "can_undo", "remaining_input"]
    [some (.array (reply.notices.map Notice.encode)), some (.bool reply.canUndo),
      some (.text reply.remaining)]) := rfl
  have hnotices : asList? Notice.decode (levels + 4 - 1)
      (.array (reply.notices.map Notice.encode)) = some reply.notices :=
    asList?_map fun notice hnotice => Notice.decode_encode (h notice hnotice) levels
  rw [decode, hencode, fields?_given _ _ (by decide) rfl]
  dsimp only [Option.bind_eq_bind, Option.bind_some, required, asText?, text, asBool?]
  rw [hnotices]
  rfl

theorem yields_decode (levels : Nat) : Yields (decode levels) Fits := by
  intro j reply h
  unfold decode at h
  obtain ⟨values, -, h⟩ := Option.bind_eq_some_iff.mp h
  split at h
  · obtain ⟨notices, hnotices, h⟩ := Option.bind_eq_some_iff.mp h
    obtain ⟨canUndo, -, h⟩ := Option.bind_eq_some_iff.mp h
    obtain ⟨remaining, -, h⟩ := Option.bind_eq_some_iff.mp h
    cases h
    exact ((Yields.asList Notice.yields_decode _).required hnotices).2
  · cases h

theorem roundTrips : codec.RoundTrips Fits :=
  Codec.roundTrips_of_decode plain_encode fun _ h => decode_encode h 123

theorem settles : codec.Settles :=
  roundTrips.settles (yields_decode nestingLimit)

end Reply

/-! ## Kinds -/

namespace NodeKind

theorem ofName?_name (kind : NodeKind) : ofName? kind.name = some kind := by
  cases kind <;> rfl

theorem roundTrips : codec.RoundTrips fun _ => True :=
  Codec.roundTrips_of_decode (fun kind => plain_text kind.name) fun kind _ => ofName?_name kind

theorem settles : codec.Settles :=
  roundTrips.settles fun _ _ _ => trivial

end NodeKind

/-! ## Events and records -/

namespace Trace

namespace Event

def Fits : Event → Prop
  | .attempt _ position => position < Word.count
  | .matched _ position _ => position < Word.count
  | .failed _ position why => position < Word.count ∧ why.offset < Word.count

/-- The values of an event's fields, in declared order. -/
def fieldValues : Event → List (Option Json)
  | .attempt kind position => [some kind.encode, some (.nat position)]
  | .matched kind position consumed =>
    [some kind.encode, some (.nat position), some (.text consumed)]
  | .failed kind position why =>
    [some kind.encode, some (.nat position), some (.nat why.offset), why.message.map text,
      some (.texts why.expected)]

/-- An event is written as its type and, of the fields declared for this type, those that it has.
None of them has a name that is used beside them. -/
theorem exists_fieldNames (event : Event) :
    ∃ names, fieldNames event.typeName = some names ∧ names.Nodup ∧
      (∀ name ∈ ["event", "id", "depth"], name ∉ names) ∧
      names.length = event.fieldValues.length ∧
      event.encodeFields =
        given ("event" :: names) (some (.text event.typeName) :: event.fieldValues) := by
  cases event with
  | attempt kind position => exact ⟨_, rfl, by decide, by decide, rfl, rfl⟩
  | matched kind position consumed => exact ⟨_, rfl, by decide, by decide, rfl, rfl⟩
  | failed kind position why =>
    refine ⟨_, rfl, by decide, by decide, rfl, ?_⟩
    cases hmessage : why.message <;>
      simp [encodeFields, fieldValues, given, Json.optional, hmessage, typeName]

theorem ofFields?_fieldValues {event : Event} (h : event.Fits) :
    ofFields? event.typeName event.fieldValues = some event := by
  have hkind (kind : NodeKind) : required NodeKind.decodeHeld (some kind.encode) = some kind :=
    NodeKind.ofName?_name kind
  cases event with
  | attempt kind position =>
    rw [Fits] at h
    rw [typeName, fieldValues, ofFields?, hkind, required_nat h]
    rfl
  | matched kind position consumed =>
    rw [Fits] at h
    rw [typeName, fieldValues, ofFields?, hkind, required_nat h]
    rfl
  | failed kind position why =>
    rw [Fits] at h
    have hmessage : optional? asText? (why.message.map text) = some why.message :=
      optional?_map (fun _ h => by cases h) fun _ _ => rfl
    have hexpected : required (asTexts? nestingLimit) (some (.texts why.expected)) =
        some why.expected := asTexts?_texts (by decide) why.expected
    rw [typeName, fieldValues, ofFields?, hkind, required_nat h.1, required_nat h.2, hmessage,
      hexpected]
    rfl

theorem fits_of_ofFields? {type : String} {values : List (Option Json)} {event : Event}
    (h : ofFields? type values = some event) : event.Fits := by
  unfold ofFields? at h
  split at h
  · obtain ⟨kind, -, h⟩ := Option.bind_eq_some_iff.mp h
    obtain ⟨position, hposition, h⟩ := Option.bind_eq_some_iff.mp h
    cases h
    exact yields_asUnsigned?.required hposition
  · obtain ⟨kind, -, h⟩ := Option.bind_eq_some_iff.mp h
    obtain ⟨position, hposition, h⟩ := Option.bind_eq_some_iff.mp h
    obtain ⟨consumed, -, h⟩ := Option.bind_eq_some_iff.mp h
    cases h
    exact yields_asUnsigned?.required hposition
  · obtain ⟨kind, -, h⟩ := Option.bind_eq_some_iff.mp h
    obtain ⟨position, hposition, h⟩ := Option.bind_eq_some_iff.mp h
    obtain ⟨offset, hoffset, h⟩ := Option.bind_eq_some_iff.mp h
    obtain ⟨message, -, h⟩ := Option.bind_eq_some_iff.mp h
    obtain ⟨expected, -, h⟩ := Option.bind_eq_some_iff.mp h
    cases h
    exact ⟨yields_asUnsigned?.required hposition, yields_asUnsigned?.required hoffset⟩
  · cases h

/-- An event is read from its written fields, however its type is read. -/
theorem ofMembers?_encodeFields {typeOf : Json → Option String}
    (htypeOf : ∀ name, typeOf (.text name) = some name) {event : Event} (h : event.Fits) :
    ofMembers? typeOf (membersOf event.encodeFields) = some event := by
  obtain ⟨names, hnames, hnodup, hother, hlength, hfields⟩ := exists_fieldNames event
  have hevent : "event" ∉ names := hother "event" (by simp)
  have hfirst : ∀ field ∈ ([] : List (String × Json)), field.1 ≠ "event" := by simp
  have hothers : ∀ field ∈ [("event", Json.text event.typeName)], field.1 ∉ names := by
    simpa using hevent
  have htype : member? "event" (membersOf event.encodeFields) =
      some (some (.text event.typeName)) := by
    rw [hfields]
    exact member?_given hfirst hevent (some (.text event.typeName)) event.fieldValues
  have hvalues : objectFields? names (membersOf event.encodeFields) = some event.fieldValues := by
    rw [hfields]
    exact objectFields?_given hnodup hlength hothers
  rw [ofMembers?, htype]
  dsimp only [Option.bind_eq_bind, Option.bind_some, required]
  rw [htypeOf]
  dsimp only [Option.bind_some]
  rw [hnames]
  dsimp only [Option.bind_some]
  rw [hvalues]
  exact ofFields?_fieldValues h

theorem plain_encode (event : Event) : event.encode.Plain := by
  obtain ⟨names, -, -, -, -, hfields⟩ := exists_fieldNames event
  rw [encode, hfields]
  refine plain_given ?_
  cases event <;> simp [fieldValues, NodeKind.encode]

/-- Nothing in the written form of an event has to be passed over. -/
theorem holdable_encodeFields {event : Event} (h : event.Fits) (levels : Nat) :
    holdable (levels + 2) (record event.encodeFields) = true := by
  obtain ⟨names, -, -, -, -, hfields⟩ := exists_fieldNames event
  rw [hfields]
  refine holdable_given ?_
  cases event with
  | attempt kind position =>
    rw [Fits] at h
    simp [fieldValues, NodeKind.encode, holdable_nat h]
  | matched kind position consumed =>
    rw [Fits] at h
    simp [fieldValues, NodeKind.encode, holdable_nat h]
  | failed kind position why =>
    rw [Fits] at h
    simp [fieldValues, NodeKind.encode, holdable_nat h.1, holdable_nat h.2]

theorem decode_encode {event : Event} (h : event.Fits) (levels : Nat) :
    decode (levels + 2) event.encode = some event := by
  have hhold := holdable_encodeFields h levels
  rw [encode, record, decode]
  rw [record] at hhold
  rw [if_pos hhold]
  exact ofMembers?_encodeFields (fun _ => rfl) h

theorem fits_of_ofMembers? {typeOf : Json → Option String}
    {members : List (Option String × Json)} {event : Event}
    (h : ofMembers? typeOf members = some event) : event.Fits := by
  unfold ofMembers? at h
  obtain ⟨type, -, h⟩ := Option.bind_eq_some_iff.mp h
  obtain ⟨name, -, h⟩ := Option.bind_eq_some_iff.mp h
  obtain ⟨names, -, h⟩ := Option.bind_eq_some_iff.mp h
  obtain ⟨values, -, h⟩ := Option.bind_eq_some_iff.mp h
  exact fits_of_ofFields? h

theorem yields_decode (levels : Nat) : Yields (decode levels) Fits := by
  intro j event h
  unfold decode at h
  split at h
  · split at h
    · exact fits_of_ofMembers? h
    · cases h
  · split at h
    · obtain ⟨names, -, h⟩ := Option.bind_eq_some_iff.mp h
      obtain ⟨values, -, h⟩ := Option.bind_eq_some_iff.mp h
      exact fits_of_ofFields? h
    · cases h
  · cases h

theorem roundTrips : codec.RoundTrips Fits :=
  Codec.roundTrips_of_decode plain_encode fun _ h => decode_encode h 125

theorem settles : codec.Settles :=
  roundTrips.settles (yields_decode nestingLimit)

end Event

namespace Record

structure Fits (record : Record) : Prop where
  id : record.id < Word.count
  depth : record.depth < Word.count
  event : record.event.Fits

theorem plain_encode (record : Record) : record.encode.Plain := by
  have hevent := plain_record.mp record.event.plain_encode
  rw [encode, plain_record]
  simpa using hevent

/-- What is left of a record without its number and depth is its event. -/
theorem filter_membersOf (event : Event) (id depth : Json) :
    (membersOf (("id", id) :: ("depth", depth) :: event.encodeFields)).filter
      (fun (name, _) => name ≠ some "id" && name ≠ some "depth") =
      membersOf event.encodeFields := by
  obtain ⟨names, -, -, hother, -, hfields⟩ := Event.exists_fieldNames event
  have hid : "id" ∉ "event" :: names := by simpa using hother "id" (by simp)
  have hdepth : "depth" ∉ "event" :: names := by simpa using hother "depth" (by simp)
  have hpass : ∀ member ∈ membersOf event.encodeFields,
      (member.1 ≠ some "id" && member.1 ≠ some "depth") = true := by
    intro member hmember
    obtain ⟨field, hfield, rfl⟩ := List.mem_map.mp hmember
    rw [hfields] at hfield
    have hname := name_of_mem_given hfield
    simp only [Bool.and_eq_true, decide_eq_true_eq, ne_eq, Option.some.injEq]
    exact ⟨fun heq => hid (heq ▸ hname), fun heq => hdepth (heq ▸ hname)⟩
  have hsplit : membersOf (("id", id) :: ("depth", depth) :: event.encodeFields) =
      (some "id", id) :: (some "depth", depth) :: membersOf event.encodeFields := rfl
  rw [hsplit, List.filter_cons_of_neg (by simp), List.filter_cons_of_neg (by simp)]
  exact List.filter_eq_self.mpr hpass

theorem member?_id (event : Event) (id depth : Json) :
    member? "id" (membersOf (("id", id) :: ("depth", depth) :: event.encodeFields)) =
      some (some id) := by
  obtain ⟨names, -, -, hother, -, hfields⟩ := Event.exists_fieldNames event
  have hfront : ∀ field ∈ ([] : List (String × Json)), field.1 ≠ "id" := by simp
  have hid : "id" ∉ "depth" :: "event" :: names := by simpa using hother "id" (by simp)
  rw [hfields]
  exact member?_given hfront hid (some id)
    (some depth :: some (.text event.typeName) :: event.fieldValues)

theorem member?_depth (event : Event) (id depth : Json) :
    member? "depth" (membersOf (("id", id) :: ("depth", depth) :: event.encodeFields)) =
      some (some depth) := by
  obtain ⟨names, -, -, hother, -, hfields⟩ := Event.exists_fieldNames event
  have hfront : ∀ field ∈ [("id", id)], field.1 ≠ "depth" := by simp
  have hdepth : "depth" ∉ "event" :: names := by simpa using hother "depth" (by simp)
  rw [hfields]
  exact member?_given hfront hdepth (some depth)
    (some (.text event.typeName) :: event.fieldValues)

theorem decode_encode {record : Record} (h : record.Fits) (levels : Nat) :
    decode (levels + 2) record.encode = some record := by
  have hhold : holdable (levels + 1 + 1) (.object (membersOf record.event.encodeFields)) = true :=
    Event.holdable_encodeFields h.event levels
  have hevent : Event.ofMembers? typeOf? (membersOf record.event.encodeFields) =
      some record.event := Event.ofMembers?_encodeFields (fun _ => rfl) h.event
  have hencode : record.encode = .object (membersOf (("id", .nat record.id) ::
      ("depth", .nat record.depth) :: record.event.encodeFields)) := rfl
  rw [hencode, decode]
  dsimp only
  rw [filter_membersOf, if_pos hhold, member?_id, member?_depth, hevent, Option.bind_eq_bind,
    Option.bind_some, required_nat h.id, Option.bind_eq_bind, Option.bind_some,
    Option.bind_eq_bind, Option.bind_some, required_nat h.depth]
  rfl

theorem yields_decode (levels : Nat) : Yields (decode levels) Fits := by
  intro j record h
  unfold decode at h
  split at h
  · dsimp only at h
    split at h
    · obtain ⟨idValue, -, h⟩ := Option.bind_eq_some_iff.mp h
      obtain ⟨id, hid, h⟩ := Option.bind_eq_some_iff.mp h
      obtain ⟨depthValue, -, h⟩ := Option.bind_eq_some_iff.mp h
      obtain ⟨depth, hdepth, h⟩ := Option.bind_eq_some_iff.mp h
      obtain ⟨event, hevent, h⟩ := Option.bind_eq_some_iff.mp h
      cases h
      exact ⟨yields_asUnsigned?.required hid, yields_asUnsigned?.required hdepth,
        Event.fits_of_ofMembers? hevent⟩
    · cases h
  · cases h

theorem roundTrips : codec.RoundTrips Fits :=
  Codec.roundTrips_of_decode plain_encode fun _ h => decode_encode h 125

theorem settles : codec.Settles :=
  roundTrips.settles (yields_decode nestingLimit)

end Record

end Trace

/-! ## All messages -/

/-- Whatever text a message was read from, it is read again from the text that is written for it,
and this text is its own normal form. -/
theorem messages_settle :
    Outline.codec.Settles ∧ Status.codec.Settles ∧ Notice.codec.Settles ∧ Reply.codec.Settles ∧
      Trace.Event.codec.Settles ∧ Trace.Record.codec.Settles ∧ NodeKind.codec.Settles :=
  ⟨Outline.settles, Status.settles, Notice.settles, Reply.settles, Trace.Event.settles,
    Trace.Record.settles, NodeKind.settles⟩

/-- A repetition given as an array. -/
def looseMany : String :=
  "\x7b\"Many\": [\"Player\", null, 2]\x7d"

/-- A record that gives the type of its event last and by its index, and has a field that nobody
knows. -/
def looseRecord : String :=
  "\x7b\"kind\":\x7b\"Int\":null\x7d,\"at\":3,\"id\":7,\"new\":[],\"depth\":1,\"event\":0\x7d"

theorem messages_settle_of_loose :
    Outline.codec.normalForm? looseMany =
        some "\x7b\"Many\":\x7b\"spec\":\"Player\",\"max\":2\x7d\x7d" ∧
      Outline.codec.normalForm? "\x7b\"Many\":\x7b\"spec\":\"Player\",\"max\":2\x7d\x7d" =
        some "\x7b\"Many\":\x7b\"spec\":\"Player\",\"max\":2\x7d\x7d" ∧
      Trace.Record.codec.read? looseRecord = some ⟨7, 1, .attempt .int 3⟩ ∧
      Trace.Record.codec.read? (Trace.Record.codec.write ⟨7, 1, .attempt .int 3⟩) =
        some ⟨7, 1, .attempt .int 3⟩ := by
  obtain ⟨houtline, -, -, -, -, hrecord, -⟩ := messages_settle
  have hform : Outline.codec.normalForm? looseMany =
      some "\x7b\"Many\":\x7b\"spec\":\"Player\",\"max\":2\x7d\x7d" := by decide +kernel
  have hread : Trace.Record.codec.read? looseRecord = some ⟨7, 1, .attempt .int 3⟩ := by
    decide +kernel
  exact ⟨hform, houtline.normal _ _ hform, hread, hrecord.reread _ _ hread⟩

end Tabletop
