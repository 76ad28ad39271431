import Tabletop.Grammar.Run
import Tabletop.Proofs.Text.Cut

/-!
# Reading with byte counts

A second reading of a grammar, in which the text is only ever divided by cutting it
at a byte position. Leaves say how many bytes they take; sequences and repetitions
keep one text and a byte count into it, and cut it anew for each of their parts. A
cut that the text does not have ends the whole reading with `none`, whatever would
have become of the part that asked for it. No count is checked before it is used.

The rounds of a repetition are not bounded in advance. They end by their own tests:
a round that is neither the first nor the last has read at least one byte.
-/

namespace Tabletop

universe u

variable {C : Type u}

/-- A value with the number of bytes that it was read from, or a rejection. -/
abbrev Measured (C : Type u) := Except Rejection (Value C × Nat)

/-- A matcher that gives no answer when it has asked for a cut that its text does not have. -/
abbrev ByteMatcher (C : Type u) := List Char → Option (Outcome C)

/-- The outcome for a text that is split after the measured bytes. -/
def Measured.split? (measured : Measured C) (input : List Char) : Option (Outcome C) :=
  match measured with
  | .error why => some (.error why)
  | .ok (value, bytes) =>
    (Text.cut? input bytes).map fun (consumed, remaining) => .ok ⟨value, consumed, remaining⟩

/-- How many characters of the input agree with the target, and how many bytes of the input
they take. -/
def Text.agreementSize : List Char → List Char → Nat × Nat
  | c :: input, t :: target =>
    if sameLetter c t then
      let (characters, bytes) := agreementSize input target
      (characters + 1, bytes + c.utf8Size)
    else (0, 0)
  | _, _ => (0, 0)

namespace Leaf

open Text Text.Decimal

def integerBytes (bounds : Bounds Int) (input : List Char) : Measured C :=
  let refused := Rejection.expecting [bounds.describeInt]
  match literal? input with
  | none => .error refused
  | some (literal, _) =>
    let n := toInt literal
    if !Word.fitsSigned n then .error (refused.because (.ofList literal ++ " is out of range"))
    else if bounds.least.any (n < ·) then .error (refused.because (intText n ++ " is too low"))
    else if bounds.most.any (· < n) then .error (refused.because (intText n ++ " is too high"))
    else .ok (.int n, width literal)

def wordBytes (target : String) (input : List Char) : Measured C :=
  let (characters, bytes) := agreementSize input target.toList
  if characters < target.toList.length then .error (.expecting [target])
  else .ok (.text target, bytes)

def blanksBytes (input : List Char) : Measured C :=
  match input.takeWhile isBlank with
  | [] => .error ((Rejection.expecting ["whitespace"]).because "expected whitespace")
  | found => .ok (.text (.ofList found), width found)

end Leaf

/-- A shortlist that also keeps the bytes of the input that its candidates agree with. -/
structure MeasuredShortlist (C : Type u) extends Shortlist C where
  bytes : Nat

namespace MeasuredShortlist

def empty : MeasuredShortlist C :=
  ⟨.empty, 0⟩

def consider (exact : Bool) (input : List Char) (list : MeasuredShortlist C)
    (candidate : Candidate C) : MeasuredShortlist C :=
  let (shared, bytes) := Text.agreementSize input candidate.name.toList
  let full := shared == candidate.name.toList.length
  if exact && !full then list
  else if shared == 0 || shared < list.length then list
  else
    let list :=
      if list.length < shared || (full && !list.full) then ⟨⟨[], shared, full⟩, bytes⟩ else list
    if full || !list.full then { list with listed := list.listed ++ [candidate] } else list

def ofCandidates (candidates : List (Candidate C)) (exact : Bool) (input : List Char) :
    MeasuredShortlist C :=
  candidates.foldl (consider exact input) empty

end MeasuredShortlist

def Candidate.readBytes (candidates : List (Candidate C)) (exact : Bool) (input : List Char) :
    Measured C :=
  let shortlist := MeasuredShortlist.ofCandidates candidates exact input
  let refused := Rejection.expecting (candidates.map (·.name))
  match shortlist.listed with
  | [] => .error refused
  | [only] => .ok (only.value, shortlist.bytes)
  | several => .error (refused.because ("matched " ++ Text.phraseAnd (several.map (·.name)) ++
      ", more input is required to uniquely match one"))

namespace Repetition

/-- Where the next item starts: at the offset, or behind the delimiter that has to come first.
The inner `none` says that the delimiter is missing. -/
def startBytes (delimiter : Option (ByteMatcher C)) (input : List Char) (offset : Nat)
    (first : Bool) : Option (Option Nat) :=
  match delimiter, first with
  | some delimiter, false =>
    match Text.cut? input offset with
    | none => none
    | some (_, rest) =>
      match delimiter rest with
      | none => none
      | some (.error _) => some none
      | some (.ok mark) => some (some (offset + Text.width mark.consumed))
  | _, _ => some (some offset)

/-- One round from an offset: the value of its item and where it ends. The inner `none` says that
the round fails. -/
def roundBytes (item : ByteMatcher C) (delimiter : Option (ByteMatcher C)) (input : List Char)
    (offset : Nat) (first : Bool) : Option (Option (Value C × Nat)) :=
  match startBytes delimiter input offset first with
  | none => none
  | some none => some none
  | some (some start) =>
    match Text.cut? input start with
    | none => none
    | some (_, rest) =>
      match item rest with
      | none => none
      | some (.error _) => some none
      | some (.ok next) => some (some (next.value, start + Text.width next.consumed))

theorem le_of_startBytes {delimiter : Option (ByteMatcher C)} {input : List Char}
    {offset start : Nat} {first : Bool}
    (h : startBytes delimiter input offset first = some (some start)) : offset ≤ start := by
  unfold startBytes at h
  split at h
  · split at h
    · cases h
    · split at h
      · cases h
      · cases h
      · obtain rfl := Option.some.inj (Option.some.inj h)
        exact Nat.le_add_right _ _
  · exact Nat.le_of_eq (Option.some.inj (Option.some.inj h))

/-- A round goes forward, from an offset inside the text. -/
theorem le_of_roundBytes {item : ByteMatcher C} {delimiter : Option (ByteMatcher C)}
    {input : List Char} {offset stop : Nat} {first : Bool} {value : Value C}
    (h : roundBytes item delimiter input offset first = some (some (value, stop))) :
    offset ≤ stop ∧ offset ≤ Text.width input := by
  unfold roundBytes at h
  split at h
  · cases h
  · cases h
  · rename_i start hstart
    have hle := le_of_startBytes hstart
    split at h
    · cases h
    · rename_i front rest hcut
      obtain ⟨rfl, rfl⟩ := Text.cut?_eq_some hcut
      rw [Text.width_append]
      split at h
      · cases h
      · cases h
      · obtain ⟨-, rfl⟩ := Prod.mk.inj (Option.some.inj (Option.some.inj h))
        omega

/-- Whether a round has read nothing and is the last for that reason. The first one may be empty if
a delimiter can follow it. -/
def stalledBytes (delimiter : Option (ByteMatcher C)) (offset stop : Nat) (first : Bool) : Bool :=
  stop == offset && (delimiter.isNone || !first)

/-- The rounds from an offset, up to which the values have been read: all values, and the offset
behind the last of them. -/
def roundsBytes (item : ByteMatcher C) (delimiter : Option (ByteMatcher C)) (count : Bounds Nat)
    (input : List Char) (offset : Nat) (values : List (Value C)) :
    Option (List (Value C) × Nat) :=
  match _hround : roundBytes item delimiter input offset values.isEmpty with
  | none => none
  | some none => some (values, offset)
  | some (some (value, stop)) =>
    if stalledBytes delimiter offset stop values.isEmpty || count.isReached (values.length + 1) then
      some (values ++ [value], stop)
    else roundsBytes item delimiter count input stop (values ++ [value])
-- A round that reads nothing goes on only if it is the first.
termination_by 2 * (Text.width input + 1 - offset) + if values.isEmpty then 1 else 0
decreasing_by
  rename_i hgo
  have hle := le_of_roundBytes _hround
  have hnew : (values ++ [value]).isEmpty = false := by cases values <;> rfl
  rw [hnew]
  cases hempty : values.isEmpty with
  | true =>
    simp only [Bool.false_eq_true, ↓reduceIte]
    omega
  | false =>
    have hne : stop ≠ offset := by
      rintro rfl
      simp [stalledBytes, hempty] at hgo
    omega

/-- A round that fails ends the repetition where it started. -/
theorem roundsBytes_of_none {item : ByteMatcher C} {delimiter : Option (ByteMatcher C)}
    {count : Bounds Nat} {input : List Char} {offset : Nat} {values : List (Value C)}
    (h : roundBytes item delimiter input offset values.isEmpty = some none) :
    roundsBytes item delimiter count input offset values = some (values, offset) := by
  rw [roundsBytes]
  split
  · rename_i hnone
    rw [h] at hnone
    cases hnone
  · rfl
  · rename_i hsome
    rw [h] at hsome
    cases hsome

/-- A round that reads an item ends the repetition or is followed by the next. -/
theorem roundsBytes_of_some {item : ByteMatcher C} {delimiter : Option (ByteMatcher C)}
    {count : Bounds Nat} {input : List Char} {offset stop : Nat} {values : List (Value C)}
    {value : Value C}
    (h : roundBytes item delimiter input offset values.isEmpty = some (some (value, stop))) :
    roundsBytes item delimiter count input offset values =
      if stalledBytes delimiter offset stop values.isEmpty || count.isReached (values.length + 1) then
        some (values ++ [value], stop)
      else roundsBytes item delimiter count input stop (values ++ [value]) := by
  rw [roundsBytes]
  split
  · rename_i hnone
    rw [h] at hnone
    cases hnone
  · rename_i hnone
    rw [h] at hnone
    cases hnone
  · rename_i hsome
    rw [h] at hsome
    obtain ⟨rfl, rfl⟩ := Prod.mk.inj (Option.some.inj (Option.some.inj hsome))
    rfl

/-- Reads a repetition. -/
def readBytes (item : ByteMatcher C) (delimiter : Option (ByteMatcher C)) (count : Bounds Nat)
    (input : List Char) : Option (Measured C) :=
  if count.isVoid then some (.ok (.list [], 0))
  else (roundsBytes item delimiter count input 0 []).map fun (values, offset) =>
    match count.least with
    | none => .ok (.list values, offset)
    | some least =>
      if values.length < least then
        .error ((Rejection.explaining ("expected at least " ++ Text.Decimal.natText least ++
          " items but could only parse " ++ Text.Decimal.natText values.length)).placed offset)
      else .ok (.list values, offset)

end Repetition

namespace Grammar

mutual

/-- Reads the beginning of a text, cutting it at byte positions only. -/
def runBytes (names : List String) : Grammar C → ByteMatcher C
  | .int bounds, input => (Leaf.integerBytes bounds input).split? input
  | .token word, input => (Leaf.wordBytes word input).split? input
  | .choice candidates exact, input => (Candidate.readBytes candidates exact input).split? input
  | .oneOf alternatives, input => runFirstBytes names alternatives .empty input
  | .chain parts, input => (runAllBytes names parts input 0 []).bind (·.split? input)
  | .many item count none, input =>
    (Repetition.readBytes (item.runBytes names) none count input).bind (·.split? input)
  | .many item count (some delimiter), input =>
    (Repetition.readBytes (item.runBytes names) (some (delimiter.runBytes names)) count
      input).bind (·.split? input)
  | .opt inner, input =>
    match inner.runBytes names input with
    | none => none
    | some (.ok parsed) => some (.ok parsed)
    | some (.error _) => Measured.split? (.ok (.absent, 0)) input
  | .doc _ _ inner, input => inner.runBytes names input
  | .player, input => (Candidate.readBytes (Candidate.ofPlayers names) false input).split? input
  | .space, input => (Leaf.blanksBytes input).split? input
  | .map f inner, input => (inner.runBytes names input).map (mapValue f)

/-- The first alternative to succeed, or the failures that got furthest. -/
def runFirstBytes (names : List String) : List (Grammar C) → Deepest → ByteMatcher C
  | [], deepest, _ => some (.error deepest.merged)
  | g :: rest, deepest, input =>
    match g.runBytes names input with
    | none => none
    | some (.ok parsed) => some (.ok parsed)
    | some (.error why) => runFirstBytes names rest (deepest.add why) input

/-- All parts in turn, from an offset up to which the values have been read. -/
def runAllBytes (names : List String) : List (Grammar C) → List Char → Nat → List (Value C) →
    Option (Measured C)
  | [], _, offset, values => some (.ok (.list values, offset))
  | g :: rest, input, offset, values =>
    match Text.cut? input offset with
    | none => none
    | some (_, tail) =>
      match g.runBytes names tail with
      | none => none
      | some (.error why) => some (.error (why.shifted offset))
      | some (.ok first) =>
        runAllBytes names rest input (offset + Text.width first.consumed)
          (values ++ [first.value])

end

/-- Reads the beginning of a player's text with byte counts. -/
def parseBytes (g : Grammar C) (input : String) (names : List String) : Option (Outcome C) :=
  g.runBytes names input.toList

end Grammar

end Tabletop
