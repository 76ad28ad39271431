import Tabletop.Proofs.Wire.Codec
import Tabletop.Wire.Outline

/-!
# Outlines and the limit on nesting

An outline whose numbers fit their words can always be written, but what is written
can be read only as long as it nests no deeper than messages may. Every kind of node
has its price in levels: an option costs one, a choice all three that it can ever
need, and the nodes that hold others in an array or among fields cost two. So the
depth of the written form is known from the outline alone, and the reader, which
spends its levels at the same prices, gives the outline back exactly if they suffice.

In the other direction, whatever is read fits its words and costs no more levels than
the text it was read from had at its disposal, though the text may have been laid out
in any of the forms that the reader accepts.
-/

namespace Tabletop

/-- Both limits, where they are given, satisfy a condition. -/
def Bounds.All {α : Type} (P : α → Prop) (bounds : Bounds α) : Prop :=
  (∀ n ∈ bounds.least, P n) ∧ ∀ n ∈ bounds.most, P n

namespace Outline

open Json

mutual

/-- The limits of integers are signed words and those of repetitions unsigned ones. -/
def Fits : Outline → Prop
  | .int bounds => bounds.All (Word.fitsSigned · = true)
  | .oneOf alternatives => FitsAll alternatives
  | .chain parts => FitsAll parts
  | .many item count none => item.Fits ∧ count.All (· < Word.count)
  | .many item count (some delimiter) =>
    item.Fits ∧ count.All (· < Word.count) ∧ delimiter.Fits
  | .opt inner => inner.Fits
  | .doc _ _ inner => inner.Fits
  | .token _ | .choice _ _ | .player | .space => True

def FitsAll : List Outline → Prop
  | [] => True
  | o :: rest => o.Fits ∧ FitsAll rest

end

mutual

/-- The number of levels that the written form of an outline takes. -/
def depth : Outline → Nat
  | .player | .space => 0
  | .token _ => 1
  | .int _ => 2
  | .choice _ _ => 3
  | .oneOf alternatives => depthAll alternatives + 2
  | .chain parts => depthAll parts + 2
  | .many item _ none => item.depth + 2
  | .many item _ (some delimiter) => max item.depth delimiter.depth + 2
  | .opt inner => inner.depth + 1
  | .doc _ _ inner => inner.depth + 2

def depthAll : List Outline → Nat
  | [] => 0
  | o :: rest => max o.depth (depthAll rest)

end

/-! ## Written forms -/

theorem encode_int (bounds : Bounds Int) :
    encode (.int bounds) =
      record [("Int", record (given ["min", "max"]
        [bounds.least.map .int, bounds.most.map .int]))] := by
  rw [encode, given_optional, given_optional, given, List.append_nil]
  · intro name names value values hnames
    cases hnames
  · intro name names values hnames
    cases hnames

theorem encode_many (item : Outline) (count : Bounds Nat) (delimiter : Option Outline) :
    encode (.many item count delimiter) =
      record [("Many", record (given ["spec", "min", "max", "delim"]
        [some item.encode, count.least.map nat, count.most.map nat, delimiter.map encode]))] := by
  rw [given, given_optional, given_optional]
  cases delimiter with
  | none => simp [encode, given]
  | some delimiter => simp [encode, given]

theorem encode_doc (name : String) (about : Option String) (inner : Outline) :
    encode (.doc name about inner) =
      record [("Doc", record (given ["name", "desc", "spec"]
        [some (.text name), about.map text, some inner.encode]))] := by
  rw [given, given_optional]
  simp [encode, given]

mutual

/-- Outlines are written without anything but texts, integers and truth values. -/
theorem plain_encode : (o : Outline) → o.encode.Plain
  | .int bounds => by
    rw [encode_int, plain_tagged]
    exact plain_given (by simp)
  | .token word => by
    rw [encode, plain_tagged]
    exact plain_text word
  | .choice names exact => by
    rw [encode, plain_tagged, plain_record]
    simp
  | .oneOf alternatives => by
    rw [encode, plain_tagged]
    exact plain_encodeAll alternatives
  | .chain parts => by
    rw [encode, plain_tagged]
    exact plain_encodeAll parts
  | .many item count none => by
    have hitem := plain_encode item
    rw [encode_many, plain_tagged]
    exact plain_given (by simp [hitem])
  | .many item count (some delimiter) => by
    have hitem := plain_encode item
    have hdelimiter := plain_encode delimiter
    rw [encode_many, plain_tagged]
    exact plain_given (by simp [hitem, hdelimiter])
  | .opt inner => by
    rw [encode, plain_tagged]
    exact plain_encode inner
  | .doc name about inner => by
    have hinner := plain_encode inner
    rw [encode_doc, plain_tagged]
    exact plain_given (by simp [hinner])
  | .player => plain_text _
  | .space => plain_text _

theorem plain_encodeAll : (os : List Outline) → Plain (.array (encodeAll os))
  | [] => trivial
  | o :: rest => ⟨plain_encode o, plain_encodeAll rest⟩

end

mutual

/-- The written form nests as deep as the prices of its nodes say. -/
theorem depth_encode : (o : Outline) → o.encode.depth = o.depth
  | .int bounds => by
    rw [encode_int, depth_tagged, depth_given rfl]
    simp [depth]
  | .token word => rfl
  | .choice names exact => by
    have hnames := depth_texts names
    rw [encode, depth_tagged]
    simp [record, Json.depth, depthMembers, hnames, depth]
  | .oneOf alternatives => by
    rw [encode, depth_tagged, Json.depth, depth_encodeAll alternatives, depth]
  | .chain parts => by
    rw [encode, depth_tagged, Json.depth, depth_encodeAll parts, depth]
  | .many item count none => by
    rw [encode_many, depth_tagged, depth_given rfl]
    simp [depth, depth_encode item]
  | .many item count (some delimiter) => by
    rw [encode_many, depth_tagged, depth_given rfl]
    simp [depth, depth_encode item, depth_encode delimiter]
  | .opt inner => by
    rw [encode, depth_tagged, depth_encode inner, depth]
  | .doc name about inner => by
    rw [encode_doc, depth_tagged, depth_given rfl]
    simp [text, Json.depth, depth, depth_encode inner]
  | .player => rfl
  | .space => rfl

theorem depth_encodeAll : (os : List Outline) → depthItems (encodeAll os) = depthAll os
  | [] => rfl
  | o :: rest => by
    rw [encodeAll, depthItems, depthAll, depth_encode o, depth_encodeAll rest]

end

/-! ## Reading what is written -/

theorem encode_ne_null (o : Outline) : o.encode ≠ .null := by
  fun_cases encode o <;> exact nofun

theorem decodeInt_given {bounds : Bounds Int} (h : bounds.All (Word.fitsSigned · = true))
    (levels : Nat) :
    decodeInt (levels + 1)
      (record (given ["min", "max"] [bounds.least.map .int, bounds.most.map .int])) =
      some (.int bounds) := by
  have hleast : optional? asSigned? (bounds.least.map .int) = some bounds.least :=
    optional?_map (fun _ => nofun) fun n hn => asSigned?_int (h.1 n hn)
  have hmost : optional? asSigned? (bounds.most.map .int) = some bounds.most :=
    optional?_map (fun _ => nofun) fun n hn => asSigned?_int (h.2 n hn)
  rw [decodeInt, fields?_given _ _ (by decide) rfl]
  dsimp only [Option.bind_eq_bind, Option.bind_some]
  rw [hleast, hmost]
  rfl

theorem decodeChoice_given (names : List String) (exact : Bool) (levels : Nat) :
    decodeChoice (levels + 2)
      (record (given ["values", "exact"] [some (.texts names), some (.bool exact)])) =
      some (.choice names exact) := by
  have hlevels : 0 < levels + 2 - 1 := Nat.succ_pos levels
  rw [decodeChoice, fields?_given _ _ (by decide) rfl]
  dsimp only [Option.bind_eq_bind, Option.bind_some, required]
  rw [asTexts?_texts hlevels]
  rfl

theorem decodeMany_given {count : Bounds Nat} (h : count.All (· < Word.count))
    (inside : Json → Option Outline) (item : Json) (delimiter : Option Json) (levels : Nat) :
    decodeMany inside (levels + 1)
      (record (given ["spec", "min", "max", "delim"]
        [some item, count.least.map nat, count.most.map nat, delimiter])) =
      (inside item).bind fun item =>
        (optional? inside delimiter).map fun delimiter => .many item count delimiter := by
  have hleast : optional? asUnsigned? (count.least.map nat) = some count.least :=
    optional?_map (fun _ => nofun) fun n hn => asUnsigned?_nat (h.1 n hn)
  have hmost : optional? asUnsigned? (count.most.map nat) = some count.most :=
    optional?_map (fun _ => nofun) fun n hn => asUnsigned?_nat (h.2 n hn)
  rw [decodeMany, fields?_given _ _ (by decide) rfl]
  dsimp only [Option.bind_eq_bind, Option.bind_some, required]
  rw [hleast, hmost]
  cases inside item with
  | none => rfl
  | some item => cases optional? inside delimiter <;> rfl

theorem decodeDoc_given (inside : Json → Option Outline) (name : String) (about : Option String)
    (inner : Json) (levels : Nat) :
    decodeDoc inside (levels + 1)
      (record (given ["name", "desc", "spec"]
        [some (.text name), about.map text, some inner])) =
      (inside inner).map (.doc name about) := by
  have habout : optional? asText? (about.map text) = some about :=
    optional?_map (fun _ => nofun) fun _ _ => rfl
  rw [decodeDoc, fields?_given _ _ (by decide) rfl]
  dsimp only [Option.bind_eq_bind, Option.bind_some, required, asText?, text]
  rw [habout]
  cases inside inner <;> rfl

theorem decode_int (levels : Nat) (data : Json) :
    decode (levels + 1) (record [("Int", data)]) = decodeInt levels data := by
  cases levels <;> rfl

theorem decode_choice (levels : Nat) (data : Json) :
    decode (levels + 1) (record [("Enum", data)]) = decodeChoice levels data := by
  cases levels <;> rfl

theorem decode_oneOf (levels : Nat) (items : List Json) :
    decode (levels + 2) (record [("OneOf", .array items)]) =
      (items.mapM (decode levels)).map .oneOf :=
  rfl

theorem decode_chain (levels : Nat) (items : List Json) :
    decode (levels + 2) (record [("Chain", .array items)]) =
      (items.mapM (decode levels)).map .chain :=
  rfl

theorem decode_many (levels : Nat) (data : Json) :
    decode (levels + 2) (record [("Many", data)]) =
      decodeMany (decode levels) (levels + 1) data :=
  rfl

theorem decode_opt (levels : Nat) (data : Json) :
    decode (levels + 1) (record [("Opt", data)]) = (decode levels data).map .opt := by
  cases levels <;> rfl

theorem decode_doc (levels : Nat) (data : Json) :
    decode (levels + 2) (record [("Doc", data)]) =
      decodeDoc (decode levels) (levels + 1) data :=
  rfl

/-- What holds others can be read at some more levels, which are its price, than they can. -/
theorem map_within {α β : Type} (f : α → β) (a : α) (depth levels price : Nat) :
    (if depth ≤ levels then some a else none).map f =
      if depth + price ≤ levels + price then some (f a) else none := by
  simp only [Nat.add_le_add_iff_right]
  split <;> rfl

mutual

/-- An outline whose numbers fit is read back exactly if there are as many levels as it takes. -/
theorem decode_encode : (o : Outline) → o.Fits → (levels : Nat) →
    decode levels o.encode = if o.depth ≤ levels then some o else none
  | .int bounds, hfits, levels => by
    rw [encode_int, depth]
    match levels with
    | 0 | 1 => rfl
    | levels + 2 =>
      rw [decode_int, decodeInt_given hfits, if_pos (Nat.le_add_left 2 levels)]
  | .token word, _, levels => by
    match levels with
    | 0 | 1 | _ + 2 => rfl
  | .choice names exact, _, levels => by
    rw [depth]
    match levels with
    | 0 | 1 | 2 => rfl
    | levels + 3 =>
      have hdata := decodeChoice_given names exact levels
      rw [encode, decode_choice, if_pos (Nat.le_add_left 3 levels)]
      exact hdata
  | .oneOf alternatives, hfits, levels => by
    rw [encode, depth]
    -- with less than its price in levels, the data of a node is out of reach
    match levels with
    | 0 | 1 => rfl
    | levels + 2 =>
      rw [decode_oneOf, mapM_encodeAll alternatives hfits levels]
      exact map_within ..
  | .chain parts, hfits, levels => by
    rw [encode, depth]
    match levels with
    | 0 | 1 => rfl
    | levels + 2 =>
      rw [decode_chain, mapM_encodeAll parts hfits levels]
      exact map_within ..
  | .many item count none, hfits, levels => by
    rw [encode_many, depth]
    match levels with
    | 0 | 1 => rfl
    | levels + 2 =>
      rw [decode_many, decodeMany_given hfits.2, decode_encode item hfits.1 levels]
      simp only [Nat.add_le_add_iff_right]
      split <;> rfl
  | .many item count (some delimiter), hfits, levels => by
    rw [encode_many, depth]
    match levels with
    | 0 | 1 => rfl
    | levels + 2 =>
      rw [decode_many, decodeMany_given hfits.2.1, decode_encode item hfits.1 levels,
        Option.map_some, optional?_some delimiter.encode_ne_null,
        decode_encode delimiter hfits.2.2 levels]
      simp only [Nat.add_le_add_iff_right, Nat.max_le]
      by_cases hitem : item.depth ≤ levels <;>
        by_cases hdelimiter : delimiter.depth ≤ levels <;> simp [hitem, hdelimiter]
  | .opt inner, hfits, levels => by
    rw [encode, depth]
    match levels with
    | 0 => rfl
    | levels + 1 =>
      rw [decode_opt, decode_encode inner hfits levels]
      exact map_within ..
  | .doc name about inner, hfits, levels => by
    rw [encode_doc, depth]
    match levels with
    | 0 | 1 => rfl
    | levels + 2 =>
      rw [decode_doc, decodeDoc_given, decode_encode inner hfits levels]
      exact map_within ..
  | .player, _, levels => by
    match levels with
    | 0 | 1 | _ + 2 => rfl
  | .space, _, levels => by
    match levels with
    | 0 | 1 | _ + 2 => rfl

theorem mapM_encodeAll : (os : List Outline) → FitsAll os → (levels : Nat) →
    (encodeAll os).mapM (decode levels) = if depthAll os ≤ levels then some os else none
  | [], _, _ => rfl
  | o :: rest, hfits, levels => by
    rw [encodeAll, List.mapM_cons, decode_encode o hfits.1 levels,
      mapM_encodeAll rest hfits.2 levels, depthAll]
    simp only [Nat.max_le]
    by_cases ho : o.depth ≤ levels <;> by_cases hrest : depthAll rest ≤ levels <;>
      simp [ho, hrest]

end

/-! ## What can be read -/

/-- The numbers of an outline fit and it takes no more than some levels. -/
def FitsIn (levels : Nat) (o : Outline) : Prop :=
  o.Fits ∧ o.depth ≤ levels

theorem fitsIn_of_decodeBare {name : String} {o : Outline} (h : decodeBare name = some o)
    (levels : Nat) : o.FitsIn levels := by
  unfold decodeBare at h
  split at h
  · cases h
    exact ⟨trivial, Nat.zero_le levels⟩
  · cases h
    exact ⟨trivial, Nat.zero_le levels⟩
  · cases h

theorem yields_decodeInt (levels : Nat) : Yields (decodeInt levels) (FitsIn (levels + 1)) := by
  intro data o h
  unfold decodeInt at h
  obtain ⟨values, hvalues, h⟩ := Option.bind_eq_some_iff.mp h
  have hlevels := yields_fields? _ levels data values hvalues
  split at h
  · obtain ⟨least, hleast, h⟩ := Option.bind_eq_some_iff.mp h
    obtain ⟨most, hmost, h⟩ := Option.bind_eq_some_iff.mp h
    cases h
    exact ⟨⟨yields_asSigned?.optional hleast, yields_asSigned?.optional hmost⟩,
      Nat.succ_le_succ hlevels⟩
  · cases h

theorem yields_decodeChoice (levels : Nat) :
    Yields (decodeChoice levels) (FitsIn (levels + 1)) := by
  intro data o h
  unfold decodeChoice at h
  obtain ⟨values, -, h⟩ := Option.bind_eq_some_iff.mp h
  split at h
  · obtain ⟨names, hnames, h⟩ := Option.bind_eq_some_iff.mp h
    obtain ⟨exact, -, h⟩ := Option.bind_eq_some_iff.mp h
    cases h
    have htexts : Yields (asTexts? (levels - 1)) fun _ => 0 < levels - 1 :=
      fun j names hread => (Yields.asList (fun _ _ _ _ => trivial) (levels - 1) j names hread).1
    have hlevels := htexts.required hnames
    refine ⟨trivial, ?_⟩
    rw [depth]
    omega
  · cases h

section

variable {levels : Nat} {inside : Json → Option Outline}

theorem yields_decodeAll (hinside : Yields inside fun o => o.Fits ∧ o.depth < levels) :
    Yields (decodeAll inside levels) fun os => FitsAll os ∧ depthAll os < levels := by
  intro data os h
  obtain ⟨hlevels, hitems⟩ := Yields.asList (fun _ => hinside) levels data os h
  clear h
  induction os with
  | nil => exact ⟨trivial, hlevels⟩
  | cons o rest ih =>
    obtain ⟨⟨hfits, hdepth⟩, hrest⟩ := List.forall_mem_cons.mp hitems
    obtain ⟨hfitsRest, hdepthRest⟩ := ih hrest
    exact ⟨⟨hfits, hfitsRest⟩, Nat.max_lt.mpr ⟨hdepth, hdepthRest⟩⟩

theorem yields_decodeMany (hinside : Yields inside fun o => o.Fits ∧ o.depth < levels) :
    Yields (decodeMany inside levels) (FitsIn (levels + 1)) := by
  intro data o h
  unfold decodeMany at h
  obtain ⟨values, -, h⟩ := Option.bind_eq_some_iff.mp h
  split at h
  · obtain ⟨item, hitem, h⟩ := Option.bind_eq_some_iff.mp h
    obtain ⟨least, hleast, h⟩ := Option.bind_eq_some_iff.mp h
    obtain ⟨most, hmost, h⟩ := Option.bind_eq_some_iff.mp h
    obtain ⟨delimiter, hdelimiter, h⟩ := Option.bind_eq_some_iff.mp h
    cases h
    obtain ⟨hitemFits, hitemDepth⟩ := hinside.required hitem
    have hcount : (⟨least, most⟩ : Bounds Nat).All (· < Word.count) :=
      ⟨yields_asUnsigned?.optional hleast, yields_asUnsigned?.optional hmost⟩
    cases delimiter with
    | none =>
      refine ⟨⟨hitemFits, hcount⟩, ?_⟩
      rw [depth]
      omega
    | some delimiter =>
      obtain ⟨hfits, hdepth⟩ := hinside.optional hdelimiter delimiter rfl
      refine ⟨⟨hitemFits, hcount, hfits⟩, ?_⟩
      rw [depth]
      omega
  · cases h

theorem yields_decodeDoc (hinside : Yields inside fun o => o.Fits ∧ o.depth < levels) :
    Yields (decodeDoc inside levels) (FitsIn (levels + 1)) := by
  intro data o h
  unfold decodeDoc at h
  obtain ⟨values, -, h⟩ := Option.bind_eq_some_iff.mp h
  split at h
  · obtain ⟨name, -, h⟩ := Option.bind_eq_some_iff.mp h
    obtain ⟨about, -, h⟩ := Option.bind_eq_some_iff.mp h
    obtain ⟨inner, hinner, h⟩ := Option.bind_eq_some_iff.mp h
    cases h
    obtain ⟨hfits, hdepth⟩ := hinside.required hinner
    exact ⟨hfits, Nat.succ_le_succ hdepth⟩
  · cases h

end

/-- How a node reads what it holds. -/
def inside : Nat → Json → Option Outline
  | 0 => fun _ => none
  | fewer + 1 => decode fewer

theorem yields_inside {levels : Nat} (h : ∀ fewer < levels, Yields (decode fewer) (FitsIn fewer)) :
    Yields (inside levels) fun o => o.Fits ∧ o.depth < levels := by
  intro j o hread
  cases levels with
  | zero => cases hread
  | succ fewer =>
    obtain ⟨hfits, hdepth⟩ := h fewer (Nat.lt_succ_self fewer) j o hread
    exact ⟨hfits, Nat.lt_succ_of_le hdepth⟩

/-- Whatever is read takes no more levels than there were for its text. -/
theorem yields_decode (levels : Nat) : Yields (decode levels) (FitsIn levels) := by
  induction levels using Nat.strongRecOn with
  | ind levels ih =>
    intro j o h
    cases levels with
    | zero =>
      unfold decode at h
      split at h
      · exact fitsIn_of_decodeBare h 0
      · cases h
    | succ levels =>
      have hinside := yields_inside fun fewer hfewer => ih fewer (Nat.lt_succ_of_lt hfewer)
      unfold decode at h
      dsimp only at h
      split at h
      · exact fitsIn_of_decodeBare h _
      · -- one case for each tag, in the order in which they are tried
        split at h
        · exact yields_decodeInt levels _ o h
        · obtain ⟨word, -, rfl⟩ := Option.map_eq_some_iff.mp h
          exact ⟨trivial, Nat.succ_le_succ (Nat.zero_le levels)⟩
        · exact yields_decodeChoice levels _ o h
        · obtain ⟨alternatives, halternatives, rfl⟩ := Option.map_eq_some_iff.mp h
          obtain ⟨hfits, hdepth⟩ := yields_decodeAll hinside _ alternatives halternatives
          exact ⟨hfits, Nat.succ_le_succ hdepth⟩
        · obtain ⟨parts, hparts, rfl⟩ := Option.map_eq_some_iff.mp h
          obtain ⟨hfits, hdepth⟩ := yields_decodeAll hinside _ parts hparts
          exact ⟨hfits, Nat.succ_le_succ hdepth⟩
        · exact yields_decodeMany hinside _ o h
        · obtain ⟨inner, hinner, rfl⟩ := Option.map_eq_some_iff.mp h
          obtain ⟨hfits, hdepth⟩ := ih levels (Nat.lt_succ_self levels) _ inner hinner
          exact ⟨hfits, Nat.succ_le_succ hdepth⟩
        · exact yields_decodeDoc hinside _ o h
        · split at h
          · exact fitsIn_of_decodeBare h _
          · cases h
      · cases h

theorem roundTrips : codec.RoundTrips (FitsIn nestingLimit) :=
  Codec.roundTrips_of_decode plain_encode fun o h =>
    (decode_encode o h.1 nestingLimit).trans (if_pos h.2)

theorem settles : codec.Settles :=
  roundTrips.settles (yields_decode nestingLimit)

/-! ## Texts -/

/-- The text that is written for an outline holds its encoded form, which nests as deep as the
prices of its nodes say, and is read back as the outline up to a depth of 127 and refused beyond. -/
theorem read?_write_of_fits {o : Outline} (h : o.Fits) :
    parse? (codec.write o) = some o.encode ∧ o.encode.depth = o.depth ∧
      codec.read? (codec.write o) = if o.encode.depth ≤ 127 then some o else none := by
  have hplain : (codec.encode o).Plain := plain_encode o
  have hdepth := depth_encode o
  refine ⟨parse?_compact hplain, hdepth, ?_⟩
  rw [Codec.read?_write hplain, hdepth]
  exact decode_encode o h nestingLimit

/-- A choice of awkward names inside as many options. -/
def tower : Nat → Outline
  | 0 => .choice ["\"", "\\", "\n\x01"] true
  | n + 1 => .opt (tower n)

theorem fits_tower (n : Nat) : (tower n).Fits := by
  induction n with
  | zero => trivial
  | succ n ih => exact ih

theorem depth_tower (n : Nat) : (tower n).depth = n + 3 := by
  induction n with
  | zero => rfl
  | succ n ih => rw [tower, depth, ih, Nat.add_right_comm]

/-- Inside 124 options a choice can still be read back, and inside one more it cannot. -/
theorem read?_write_of_tower :
    (tower 124).Fits ∧ codec.read? (codec.write (tower 124)) = some (tower 124) ∧
      codec.read? (codec.write (tower 125)) = none := by
  refine ⟨fits_tower 124, ?_, ?_⟩
  · obtain ⟨-, hdepth, hread⟩ := read?_write_of_fits (fits_tower 124)
    rw [hread, hdepth, depth_tower]
    rfl
  · obtain ⟨-, hdepth, hread⟩ := read?_write_of_fits (fits_tower 125)
    rw [hread, hdepth, depth_tower]
    rfl

end Outline

end Tabletop
