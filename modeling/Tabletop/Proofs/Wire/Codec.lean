import Tabletop.Proofs.Json.RoundTrip
import Tabletop.Wire.Codec

/-!
# Written forms read back

What the codecs of all types share. A record is written with the fields that are
there, in declared order, and reading it gives every field back, those that are not
there as missing. Numbers that fit words, texts and lists of them are read back from
their forms; and in the other direction, every number that was read fits a word,
which is all that the written form needs in order to be accepted again.

A codec round-trips for the values that fit if each of them is read from the text that
is written for it. It settles if a value that was read from any text at all is read again
from the text that is written for it.
-/

namespace Tabletop.Json

variable {α β : Type}

/-! ## Plain forms -/

theorem plainItems_iff {items : List Json} : PlainItems items ↔ ∀ item ∈ items, item.Plain := by
  induction items with
  | nil => simp [PlainItems]
  | cons item rest ih => simp [PlainItems, ih]

theorem plain_array {items : List Json} : Plain (.array items) ↔ ∀ item ∈ items, item.Plain :=
  plainItems_iff

@[simp]
theorem plain_text (content : String) : (text content).Plain :=
  rfl

@[simp]
theorem plain_nat (n : Nat) : (nat n).Plain :=
  trivial

@[simp]
theorem plain_int (n : Int) : Plain (.int n) :=
  trivial

@[simp]
theorem plain_bool (b : Bool) : Plain (.bool b) :=
  trivial

@[simp]
theorem plain_texts (contents : List String) : (texts contents).Plain := by
  simp [texts, plain_array]

@[simp]
theorem plain_nats (numbers : List Nat) : (nats numbers).Plain := by
  simp [nats, plain_array]

@[simp]
theorem plain_record {fields : List (String × Json)} :
    (record fields).Plain ↔ ∀ field ∈ fields, field.2.Plain := by
  induction fields with
  | nil => simp [record, Plain, PlainMembers]
  | cons field rest ih =>
    rw [record, Plain] at ih
    rw [record, Plain, List.map_cons, PlainMembers, ih, List.forall_mem_cons]
    exact and_iff_right rfl

theorem plain_tagged {name : String} {data : Json} :
    (record [(name, data)]).Plain ↔ data.Plain :=
  plain_record.trans List.forall_mem_singleton

/-! ## Fields -/

/-- The fields that are there, with their names. -/
def given : List String → List (Option Json) → List (String × Json)
  | name :: names, some value :: values => (name, value) :: given names values
  | _ :: names, none :: values => given names values
  | _, _ => []

/-- The members of an object with some fields. -/
def membersOf (fields : List (String × Json)) : List (Option String × Json) :=
  fields.map fun (name, value) => (some name, value)

theorem given_optional (encode : α → Json) (name : String) (o : Option α) (names : List String)
    (values : List (Option Json)) :
    given (name :: names) (o.map encode :: values) =
      optional encode name o ++ given names values := by
  cases o <;> rfl

theorem mem_zip_of_mem_given {names : List String} {values : List (Option Json)} :
    ∀ field ∈ given names values, (field.1, some field.2) ∈ names.zip values := by
  fun_induction given names values with
  | case1 name names value values ih =>
    exact List.forall_mem_cons.mpr
      ⟨List.mem_cons_self, fun field hfield => List.mem_cons_of_mem _ (ih field hfield)⟩
  | case2 name names values ih =>
    exact fun field hfield => List.mem_cons_of_mem _ (ih field hfield)
  | case3 => exact fun field hfield => absurd hfield List.not_mem_nil

theorem name_of_mem_given {names : List String} {values : List (Option Json)}
    {field : String × Json} (h : field ∈ given names values) : field.1 ∈ names :=
  (List.of_mem_zip (mem_zip_of_mem_given field h)).1

theorem value_of_mem_given {names : List String} {values : List (Option Json)}
    {field : String × Json} (h : field ∈ given names values) : some field.2 ∈ values :=
  (List.of_mem_zip (mem_zip_of_mem_given field h)).2

theorem plain_given {names : List String} {values : List (Option Json)}
    (h : ∀ value ∈ values, ∀ j ∈ value, j.Plain) : (record (given names values)).Plain :=
  plain_record.mpr fun field hfield => h _ (value_of_mem_given hfield) field.2 rfl

theorem filter_membersOf_eq_nil {name : String} {fields : List (String × Json)}
    (h : ∀ field ∈ fields, field.1 ≠ name) :
    (membersOf fields).filter (·.1 = some name) = [] := by
  rw [List.filter_eq_nil_iff]
  intro member hmember
  obtain ⟨field, hfield, rfl⟩ := List.mem_map.mp hmember
  simpa using h field hfield

/-- A field that is declared once is found as it was given, whatever stands in front. -/
theorem member?_given {name : String} {names : List String} {front : List (String × Json)}
    (hfront : ∀ field ∈ front, field.1 ≠ name) (hname : name ∉ names) (value : Option Json)
    (values : List (Option Json)) :
    member? name (membersOf (front ++ given (name :: names) (value :: values))) = some value := by
  have hbefore := filter_membersOf_eq_nil hfront
  have hafter : (membersOf (given names values)).filter (·.1 = some name) = [] :=
    filter_membersOf_eq_nil fun field hfield heq => hname (heq ▸ name_of_mem_given hfield)
  unfold member?
  cases value with
  | none =>
    rw [given, membersOf, List.map_append, List.filter_append]
    rw [membersOf] at hbefore hafter
    rw [hbefore, hafter]
    rfl
  | some value =>
    rw [given, membersOf, List.map_append, List.map_cons, List.filter_append,
      List.filter_cons_of_pos (by simp)]
    rw [membersOf] at hbefore hafter
    rw [hbefore, hafter]
    rfl

/-- Fields are found as they were given, behind other ones. -/
theorem mapM_member?_given {names : List String} {values : List (Option Json)}
    {front : List (String × Json)} (hnames : names.Nodup) (hlength : names.length = values.length)
    (hfront : ∀ field ∈ front, field.1 ∉ names) :
    names.mapM (member? · (membersOf (front ++ given names values))) = some values := by
  induction names generalizing values front with
  | nil =>
    obtain rfl : values = [] := List.length_eq_zero_iff.mp hlength.symm
    rfl
  | cons name names ih =>
    obtain ⟨hname, hnames⟩ := List.nodup_cons.mp hnames
    cases values with
    | nil => cases hlength
    | cons value values =>
      have hfirst := member?_given (fun field hfield heq => hfront field hfield (by simp [heq]))
        hname value values
      -- The first field joins those in front of the others.
      have hsplit : front ++ given (name :: names) (value :: values) =
          (front ++ given [name] [value]) ++ given names values := by
        cases value <;> simp [given]
      have hnext : ∀ field ∈ front ++ given [name] [value], field.1 ∉ names := by
        intro field hfield
        rcases List.mem_append.mp hfield with hfield | hfield
        · exact fun hmem => hfront field hfield (List.mem_cons_of_mem _ hmem)
        · have heq := List.mem_singleton.mp (name_of_mem_given hfield)
          exact heq ▸ hname
      have hrest := ih hnames (Nat.succ.inj hlength) hnext
      rw [List.mapM_cons, hfirst, hsplit, hrest]
      rfl

theorem objectFields?_given {names : List String} {values : List (Option Json)}
    {front : List (String × Json)} (hnames : names.Nodup) (hlength : names.length = values.length)
    (hfront : ∀ field ∈ front, field.1 ∉ names) :
    objectFields? names (membersOf (front ++ given names values)) = some values := by
  have htexts : (membersOf (front ++ given names values)).all (·.1.isSome) = true := by
    simp [membersOf]
  rw [objectFields?, if_pos htexts]
  exact mapM_member?_given hnames hlength hfront

/-- All the fields of a record are read from its written form. -/
theorem fields?_given (names : List String) (values : List (Option Json)) (hnames : names.Nodup)
    (hlength : names.length = values.length) (levels : Nat) :
    fields? names (levels + 1) (record (given names values)) = some values :=
  have hfront : ∀ field ∈ ([] : List (String × Json)), field.1 ∉ names := by simp
  objectFields?_given hnames hlength hfront

/-- How deep a field nests; nothing if it is missing. -/
def fieldDepth : Option Json → Nat
  | none => 0
  | some value => value.depth

theorem fieldDepth_map {encode : α → Json} (h : ∀ a, (encode a).depth = 0) (o : Option α) :
    fieldDepth (o.map encode) = 0 := by
  cases o with
  | none => rfl
  | some a => exact h a

@[simp]
theorem fieldDepth_int (o : Option Int) : fieldDepth (o.map .int) = 0 :=
  fieldDepth_map (fun _ => rfl) o

@[simp]
theorem fieldDepth_nat (o : Option Nat) : fieldDepth (o.map nat) = 0 :=
  fieldDepth_map (fun _ => rfl) o

@[simp]
theorem fieldDepth_text (o : Option String) : fieldDepth (o.map text) = 0 :=
  fieldDepth_map (fun _ => rfl) o

@[simp]
theorem fieldDepth_some (value : Json) : fieldDepth (some value) = value.depth :=
  rfl

@[simp]
theorem fieldDepth_none : fieldDepth none = 0 :=
  rfl

/-- Texts nest no deeper than the array that holds them. -/
theorem depth_texts (contents : List String) : (texts contents).depth = 1 := by
  rw [texts, depth]
  induction contents with
  | nil => rfl
  | cons content rest ih =>
    rw [List.map_cons, depthItems, Nat.add_right_cancel ih]
    rfl

theorem depthMembers_given {names : List String} {values : List (Option Json)}
    (hlength : names.length = values.length) :
    depthMembers (membersOf (given names values)) = (values.map fieldDepth).foldr max 0 := by
  fun_induction given names values with
  | case1 name names value values ih =>
    rw [membersOf, List.map_cons, depthMembers, List.map_cons, List.foldr_cons,
      ← ih (Nat.succ.inj hlength)]
    rfl
  | case2 name names values ih =>
    rw [List.map_cons, List.foldr_cons, ih (Nat.succ.inj hlength)]
    exact (Nat.zero_max _).symm
  | case3 names values hsome hnone =>
    cases values with
    | nil => rfl
    | cons value values =>
      cases names with
      | nil => cases hlength
      | cons name names =>
        cases value with
        | none => exact absurd rfl (hnone name names values rfl)
        | some value => exact absurd rfl (hsome name names value values rfl)

theorem depth_given {names : List String} {values : List (Option Json)}
    (hlength : names.length = values.length) :
    (record (given names values)).depth = (values.map fieldDepth).foldr max 0 + 1 :=
  congrArg (· + 1) (depthMembers_given hlength)

/-- A tag costs a level. -/
theorem depth_tagged (name : String) (data : Json) :
    (record [(name, data)]).depth = data.depth + 1 :=
  congrArg (· + 1) (Nat.max_zero data.depth)

theorem optional?_some {value : Json} (h : value ≠ .null) (read : Json → Option α) :
    optional? read (some value) = (read value).map some := by
  rw [optional?]
  exact h

/-- An optional field is read from its form if that is not taken for a missing one. -/
theorem optional?_map {read : Json → Option α} {encode : α → Json} {o : Option α}
    (hnull : ∀ a, encode a ≠ .null) (h : ∀ a ∈ o, read (encode a) = some a) :
    optional? read (o.map encode) = some o := by
  cases o with
  | none => rfl
  | some a =>
    rw [Option.map_some, optional?_some (hnull a), h a rfl, Option.map_some]

/-! ## Numbers and lists -/

theorem asSigned?_int {n : Int} (h : Word.fitsSigned n = true) : asSigned? (.int n) = some n :=
  if_pos h

theorem asUnsigned?_nat {n : Nat} (h : n < Word.count) : asUnsigned? (nat n) = some n := by
  have hfits : Word.fitsUnsigned n = true := by simpa [Word.fitsUnsigned] using h
  rw [nat, asUnsigned?, if_pos hfits, Int.toNat_natCast]

theorem required_nat {n : Nat} (h : n < Word.count) :
    required asUnsigned? (some (nat n)) = some n := by
  rw [required, asUnsigned?_nat h]

theorem mapM_map {read : β → Option α} {encode : α → β} {as : List α}
    (h : ∀ a ∈ as, read (encode a) = some a) : (as.map encode).mapM read = some as := by
  induction as with
  | nil => rfl
  | cons a rest ih =>
    obtain ⟨hfirst, hrest⟩ := List.forall_mem_cons.mp h
    rw [List.map_cons, List.mapM_cons, hfirst, ih hrest]
    rfl

theorem asList?_map {item : Decoder α} {encode : α → Json} {levels : Nat} {as : List α}
    (h : ∀ a ∈ as, item levels (encode a) = some a) :
    asList? item (levels + 1) (.array (as.map encode)) = some as :=
  mapM_map h

theorem asTexts?_texts {levels : Nat} (hlevels : 0 < levels) (contents : List String) :
    asTexts? levels (texts contents) = some contents := by
  cases levels with
  | zero => exact absurd hlevels (Nat.lt_irrefl 0)
  | succ levels => exact asList?_map fun _ _ => rfl

theorem asUnsignedList?_nats {levels : Nat} (hlevels : 0 < levels) {numbers : List Nat}
    (h : ∀ n ∈ numbers, n < Word.count) :
    asUnsignedList? levels (nats numbers) = some numbers := by
  cases levels with
  | zero => exact absurd hlevels (Nat.lt_irrefl 0)
  | succ levels => exact asList?_map fun n hn => asUnsigned?_nat (h n hn)

/-! ## What readers yield -/

/-- Whatever is read satisfies a condition. -/
def Yields (read : Json → Option α) (P : α → Prop) : Prop :=
  ∀ j a, read j = some a → P a

theorem yields_asSigned? : Yields asSigned? (Word.fitsSigned · = true) := by
  intro j n h
  cases j with
  | int m =>
    obtain ⟨hfits, heq⟩ := Option.ite_none_right_eq_some.mp h
    cases heq
    exact hfits
  | _ => cases h

theorem yields_asUnsigned? : Yields asUnsigned? (· < Word.count) := by
  intro j n h
  cases j with
  | int m =>
    obtain ⟨hfits, heq⟩ := Option.ite_none_right_eq_some.mp h
    simp only [Word.fitsUnsigned, Bool.and_eq_true, decide_eq_true_eq] at hfits
    cases heq
    omega
  | _ => cases h

section

variable {read : Json → Option α} {P : α → Prop}

theorem Yields.required (h : Yields read P) {value : Option Json} {a : α}
    (hread : required read value = some a) : P a := by
  cases value with
  | none => cases hread
  | some j => exact h j a hread

theorem Yields.optional (h : Yields read P) {value : Option Json} {o : Option α}
    (hread : optional? read value = some o) : ∀ a ∈ o, P a := by
  rintro a rfl
  unfold optional? at hread
  split at hread
  · cases hread
  · cases hread
  · rename_i j _
    obtain ⟨b, hb, heq⟩ := Option.map_eq_some_iff.mp hread
    cases heq
    exact h j a hb

theorem Yields.mapM (h : Yields read P) {items : List Json} {as : List α}
    (hread : items.mapM read = some as) : ∀ a ∈ as, P a := by
  induction items generalizing as with
  | nil =>
    cases hread
    exact fun a ha => absurd ha List.not_mem_nil
  | cons item rest ih =>
    simp only [List.mapM_cons, Option.bind_eq_bind, Option.bind_eq_some_iff, Option.pure_def,
      Option.some.injEq] at hread
    obtain ⟨first, hfirst, others, hothers, rfl⟩ := hread
    exact List.forall_mem_cons.mpr ⟨h item first hfirst, ih hothers⟩

end

/-- Lists are read inside an array. -/
theorem Yields.asList {item : Decoder α} {P : α → Prop} (h : ∀ levels, Yields (item levels) P)
    (levels : Nat) : Yields (asList? item levels) fun as => 0 < levels ∧ ∀ a ∈ as, P a := by
  intro j as hread
  cases levels with
  | zero => cases j <;> cases hread
  | succ levels =>
    cases j with
    | array items => exact ⟨Nat.succ_pos levels, (h levels).mapM hread⟩
    | _ => cases hread

theorem yields_asUnsignedList? (levels : Nat) :
    Yields (asUnsignedList? levels) (∀ n ∈ ·, n < Word.count) :=
  fun j numbers hread => (Yields.asList (fun _ => yields_asUnsigned?) levels j numbers hread).2

/-- Fields are read inside an object or an array. -/
theorem yields_fields? (names : List String) (levels : Nat) :
    Yields (fields? names levels) fun _ => 0 < levels := by
  intro data values hread
  cases levels with
  | zero => cases data <;> cases hread
  | succ levels => exact Nat.succ_pos levels

/-! ## Holdable data -/

@[simp]
theorem holdable_text (levels : Nat) (content : String) :
    holdable levels (text content) = true := by
  cases levels <;> rfl

theorem holdable_nat {n : Nat} (h : n < Word.count) (levels : Nat) :
    holdable levels (nat n) = true := by
  have hfinite := Magnitude.isFinite_ofNat h
  cases levels <;> exact hfinite

@[simp]
theorem holdable_texts (levels : Nat) (contents : List String) :
    holdable (levels + 1) (texts contents) = true := by
  simp [texts, holdable]

theorem holdable_given {names : List String} {values : List (Option Json)} {levels : Nat}
    (h : ∀ value ∈ values, ∀ j ∈ value, holdable levels j = true) :
    holdable (levels + 1) (record (given names values)) = true := by
  rw [record, holdable, List.all_eq_true]
  intro member hmember
  obtain ⟨field, hfield, rfl⟩ := List.mem_map.mp hmember
  exact h _ (value_of_mem_given hfield) field.2 rfl

end Tabletop.Json

/-! ## Codecs -/

namespace Tabletop.Codec

variable {α : Type} {codec : Codec α}

/-- Reading what is written for a value is decoding its encoded form. -/
theorem read?_write {a : α} (h : (codec.encode a).Plain) :
    codec.read? (codec.write a) = codec.decode Json.nestingLimit (codec.encode a) := by
  rw [read?, write, Json.parse?_compact h, Option.bind_some]

/-- The same for what is laid out for people. -/
theorem read?_writePretty {a : α} (h : (codec.encode a).Plain) :
    codec.read? (codec.writePretty a) = codec.decode Json.nestingLimit (codec.encode a) := by
  rw [read?, writePretty, Json.parse?_pretty h, Option.bind_some]

/-- What is written for a value that satisfies a condition is read as this value, in either form. -/
structure RoundTrips (codec : Codec α) (Fits : α → Prop) : Prop where
  compact : ∀ a, Fits a → codec.read? (codec.write a) = some a
  pretty : ∀ a, Fits a → codec.read? (codec.writePretty a) = some a

theorem roundTrips_of_decode {Fits : α → Prop} (hplain : ∀ a, (codec.encode a).Plain)
    (hdecode : ∀ a, Fits a → codec.decode Json.nestingLimit (codec.encode a) = some a) :
    codec.RoundTrips Fits where
  compact a ha := (read?_write (hplain a)).trans (hdecode a ha)
  pretty a ha := (read?_writePretty (hplain a)).trans (hdecode a ha)

/-- What is written for a value that was read is read as this value again, and is its own normal
form. -/
structure Settles (codec : Codec α) : Prop where
  reread : ∀ text a, codec.read? text = some a → codec.read? (codec.write a) = some a
  normal : ∀ text form, codec.normalForm? text = some form → codec.normalForm? form = some form

/-- A codec settles if everything that it decodes survives being written. -/
theorem RoundTrips.settles {Fits : α → Prop} (h : codec.RoundTrips Fits)
    (hfits : Json.Yields (codec.decode Json.nestingLimit) Fits) : codec.Settles := by
  have hreread : ∀ text a, codec.read? text = some a → codec.read? (codec.write a) = some a := by
    intro text a hread
    obtain ⟨j, -, hj⟩ := Option.bind_eq_some_iff.mp hread
    exact h.compact a (hfits j a hj)
  refine ⟨hreread, fun text form hform => ?_⟩
  obtain ⟨a, ha, rfl⟩ := Option.map_eq_some_iff.mp hform
  rw [normalForm?, hreread text a ha, Option.map_some]

end Tabletop.Codec
