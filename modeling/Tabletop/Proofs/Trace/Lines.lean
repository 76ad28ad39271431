import Mathlib.Tactic.SplitIfs
import Tabletop.Proofs.Grammar.Nodes
import Tabletop.Proofs.Grammar.Survivors
import Tabletop.Proofs.Outline.Verdict
import Tabletop.Proofs.Text.Lines
import Tabletop.Proofs.Trace.CallTree

/-!
# Transcripts and their lines

A transcript consists of the lines of its records, one after the other. Attempts and
matches are one line each: consumed text is in quotes, and everything else is numbers
and the names of kinds. A failure shows its explanation and what was expected as they
are, so its line is torn where one of these has a line break. They are put together
from fixed phrases, numbers, words of the grammar and players' names. Where neither the
words nor the names have line breaks, every record is a line, whatever was typed.
-/

namespace Tabletop

universe u

open Trace

variable {C : Type u}

/-! ## Rejections -/

namespace Rejection

/-- Neither the explanation nor any expectation has a line break. -/
structure OneLine (why : Rejection) : Prop where
  message : ∀ message ∈ why.message, Text.OneLine message
  expected : ∀ description ∈ why.expected, Text.OneLine description

theorem oneLine_unexplained {expected : List String} {offset : Nat}
    (hexpected : ∀ description ∈ expected, Text.OneLine description) :
    OneLine ⟨none, expected, offset⟩ :=
  ⟨fun _ hnone => absurd hnone (Option.not_mem_none _), hexpected⟩

theorem oneLine_explained {message : String} {expected : List String} {offset : Nat}
    (hmessage : Text.OneLine message)
    (hexpected : ∀ description ∈ expected, Text.OneLine description) :
    OneLine ⟨some message, expected, offset⟩ :=
  ⟨fun _ hmem => Option.mem_some.mp hmem ▸ hmessage, hexpected⟩

theorem oneLine_jointly {said : List String} (h : ∀ message ∈ said, Text.OneLine message) :
    ∀ message ∈ jointly said, Text.OneLine message := by
  cases said with
  | nil => exact fun _ hnone => absurd hnone (Option.not_mem_none _)
  | cons first rest =>
    rintro _ ⟨rfl⟩
    exact Text.oneLine_joined (by decide) h

/-- Alternations put no line breaks between what they put together. -/
theorem oneLine_summary {failures : List Rejection} (h : ∀ why ∈ failures, why.OneLine) :
    (summary failures).OneLine where
  message := by
    refine oneLine_jointly (fun message hmem => ?_)
    obtain ⟨why, hleads, hmessage⟩ := List.mem_filterMap.mp (List.mem_of_mem_filter hmem)
    exact (h why (List.mem_of_mem_filter hleads)).message message hmessage
  expected := by
    intro description hmem
    obtain ⟨why, hleads, hlisted⟩ := List.mem_flatMap.mp hmem
    exact (h why (List.mem_of_mem_filter hleads)).expected description hlisted

end Rejection

theorem Bounds.oneLine_describeInt (bounds : Bounds Int) : Text.OneLine bounds.describeInt := by
  obtain ⟨least, most⟩ := bounds
  cases least <;> cases most <;>
    simp only [describeInt, Text.oneLine_append_iff, Text.oneLine_intText] <;> decide

/-- What is out of range is named, and a literal has no line breaks. -/
theorem Leaf.oneLine_of_integer {bounds : Bounds Int} {input : List Char} {why : Rejection}
    (h : (integer bounds input : Outcome C) = .error why) : why.OneLine := by
  have hexpected : ∀ description ∈ [bounds.describeInt], Text.OneLine description :=
    List.forall_mem_singleton.mpr bounds.oneLine_describeInt
  unfold integer at h
  cases hliteral : Text.Decimal.literal? input with
  | none =>
    rw [hliteral] at h
    cases h
    exact Rejection.oneLine_unexplained hexpected
  | some found =>
    obtain ⟨literal, rest⟩ := found
    rw [hliteral] at h
    dsimp only at h
    have hdigits := (Text.Decimal.isLiteral_of_literal? hliteral).not_mem
    split_ifs at h <;> cases h <;> refine Rejection.oneLine_explained ?_ hexpected
    · exact Text.oneLine_append_iff.mpr ⟨Text.oneLine_ofList hdigits, by decide⟩
    · exact Text.oneLine_append_iff.mpr ⟨Text.oneLine_intText _, by decide⟩
    · exact Text.oneLine_append_iff.mpr ⟨Text.oneLine_intText _, by decide⟩

/-- A choice names its candidates, those in the running among them. -/
theorem Candidate.oneLine_of_read {candidates : List (Candidate C)} {exact : Bool}
    {input : List Char} {why : Rejection}
    (hnames : ∀ name ∈ candidates.map (·.name), Text.OneLine name)
    (h : read candidates exact input = .error why) : why.OneLine := by
  rw [read_eq] at h
  split at h
  · cases h
    exact Rejection.oneLine_unexplained hnames
  · cases h
  · cases h
    refine Rejection.oneLine_explained ?_ hnames
    rw [Text.oneLine_append_iff, Text.oneLine_append_iff]
    refine ⟨⟨by decide, Text.oneLine_joined (by decide) (fun name hname => ?_)⟩, by decide⟩
    obtain ⟨candidate, hcandidate, rfl⟩ := List.mem_map.mp hname
    have hleads := List.mem_of_mem_filter (mem_of_mem_preferFull hcandidate)
    exact hnames _ (List.mem_map_of_mem (List.mem_of_mem_filter hleads))

namespace Grammar

/-- The words that a node brings into descriptions and explanations. -/
def ownWords : Grammar C → List String
  | .token word => [word]
  | .choice candidates _ => candidates.map (·.name)
  | _ => []

/-- No word of the grammar has a line break. -/
def OneLine (g : Grammar C) : Prop :=
  g.Throughout fun node => ∀ word ∈ node.ownWords, Text.OneLine word

variable {names : List String}

theorem oneLine_of_leaf (hnames : ∀ name ∈ names, Text.OneLine name) {g : Grammar C}
    {input : List Char} {why : Rejection} (hleaf : g.kind ∈ NodeKind.leaves)
    (hwords : ∀ word ∈ g.ownWords, Text.OneLine word) (hrun : g.run names input = .error why) :
    why.OneLine := by
  cases g with
  | int bounds =>
    rw [run] at hrun
    exact Leaf.oneLine_of_integer hrun
  | token word =>
    rw [run, Leaf.word] at hrun
    split_ifs at hrun
    cases hrun
    exact Rejection.oneLine_unexplained hwords
  | choice candidates exact =>
    rw [run] at hrun
    exact Candidate.oneLine_of_read hwords hrun
  | player =>
    rw [run] at hrun
    refine Candidate.oneLine_of_read ?_ hrun
    rwa [Candidate.map_name_ofPlayers]
  | space =>
    rw [run, Leaf.blanks] at hrun
    split at hrun <;> cases hrun
    exact Rejection.oneLine_explained (by decide) (List.forall_mem_singleton.mpr (by decide))
  | _ => simp [kind, NodeKind.leaves] at hleaf

theorem pervades_oneLine (hnames : ∀ name ∈ names, Text.OneLine name) :
    Pervades names (fun node : Grammar C => ∀ word ∈ node.ownWords, Text.OneLine word)
      Rejection.OneLine where
  leaf := oneLine_of_leaf hnames
  repetition := by
    intro count items why houtcome
    obtain ⟨least, rfl⟩ := Items.rejection_of_outcome houtcome
    refine Rejection.oneLine_explained ?_ (List.forall_mem_nil _)
    simp only [Text.oneLine_append_iff, Text.oneLine_natText]
    decide
  alternation := fun _ _ => Rejection.oneLine_summary
  moved := fun _ hwhy => ⟨hwhy.message, hwhy.expected⟩

end Grammar

/-! ## Events and records -/

namespace Trace

/-- A failure whose explanation and expectations have no line breaks, or any other event. -/
def Event.OneLine : Event → Prop
  | .failed _ _ why => why.OneLine
  | _ => True

namespace Transcript

open Text.Decimal (natText)

theorem oneLine_place (kind : NodeKind) (position : Nat) : Text.OneLine (place kind position) := by
  have hname : Text.OneLine kind.name := by cases kind <;> decide
  simp only [place, Text.oneLine_append_iff, Text.oneLine_natText, hname]
  decide

theorem oneLine_describe_iff {event : Event} :
    Text.OneLine (describe event) ↔ event.OneLine := by
  cases event with
  | attempt kind position =>
    simp only [describe, Text.oneLine_append_iff, oneLine_place, Event.OneLine]
    decide
  | matched kind position consumed =>
    simp only [describe, Text.oneLine_append_iff, oneLine_place, Text.oneLine_quote, Event.OneLine]
    decide
  | failed kind position why =>
    obtain ⟨message, expected, offset⟩ := why
    have hstart : Text.OneLine ("- " ++ place kind position ++ "+" ++ natText offset) := by
      simp only [Text.oneLine_append_iff, oneLine_place, Text.oneLine_natText]
      decide
    have hend : Text.OneLine (if expected = [] then ""
        else " (expected " ++ String.intercalate ", " expected ++ ")") ↔
        ∀ description ∈ expected, Text.OneLine description := by
      split_ifs with hnone
      · rw [hnone]
        exact iff_of_true (by decide) (List.forall_mem_nil _)
      · rw [Text.oneLine_append_iff, Text.oneLine_append_iff,
          Text.oneLine_intercalate_iff (by decide)]
        exact ⟨fun h => h.1.2, fun h => ⟨⟨by decide, h⟩, by decide⟩⟩
    cases message with
    | none =>
      change Text.OneLine (_ ++ "" ++ _) ↔ _
      rw [Text.oneLine_append_iff, Text.oneLine_append_iff, hend]
      exact ⟨fun h => Rejection.oneLine_unexplained h.2,
        fun h => ⟨⟨hstart, by decide⟩, h.expected⟩⟩
    | some message =>
      have hsaid : Text.OneLine (" " ++ message) ↔ Text.OneLine message := by
        rw [Text.oneLine_append_iff, and_iff_right (by decide)]
      change Text.OneLine (_ ++ (" " ++ message) ++ _) ↔ _
      rw [Text.oneLine_append_iff, Text.oneLine_append_iff, hsaid, hend]
      exact ⟨fun h => Rejection.oneLine_explained h.1.2 h.2,
        fun h => ⟨⟨hstart, h.message message rfl⟩, h.expected⟩⟩

/-- Numbers and indentation are one line, so it all depends on the event. -/
theorem oneLine_line_iff {numbered : Bool} {record : Record} :
    Text.OneLine (line numbered record) ↔ record.event.OneLine := by
  have hlabel : Text.OneLine (if numbered then label record.id else "") := by
    cases numbered with
    | false =>
      show Text.OneLine ""
      decide
    | true =>
      simp only [label, Text.oneLine_append_iff, Text.oneLine_padded, if_true]
      decide
  have hindent : Text.OneLine (String.join (List.replicate record.depth "  ")) :=
    Text.oneLine_join_replicate (by decide) record.depth
  rw [line, Text.oneLine_append_iff, Text.oneLine_append_iff, oneLine_describe_iff,
    and_iff_right ⟨hlabel, hindent⟩]

end Transcript

/-! ## Traces -/

variable {names : List String} {text : List Char}

/-- A run whose rejections have no line breaks ends with an event that has none. -/
theorem Event.oneLine_ofOutcome {kind : NodeKind} {position : Nat} {outcome : Outcome C}
    (h : ∀ why, outcome = .error why → why.OneLine) :
    (ofOutcome kind position outcome).OneLine := by
  cases outcome with
  | ok parsed => trivial
  | error why => exact h why rfl

mutual

/-- Every event of a node's tree is one line: its attempt, its end, and what the trees of its
children add. -/
theorem CallTree.oneLine (hnames : ∀ name ∈ names, Text.OneLine name) {g : Grammar C}
    {depth position : Nat} {input : List Char} {entries : List Entry} (hg : g.OneLine)
    (h : CallTree names text g depth position input entries) :
    ∀ entry ∈ entries, entry.2.OneLine := by
  match h with
  | .node ends calls =>
    rw [ends.outcome, List.forall_mem_cons, List.forall_mem_append, List.forall_mem_singleton]
    exact ⟨trivial, calls.oneLine hnames (Grammar.Throughout.children hg),
      Event.oneLine_ofOutcome fun why => (Grammar.pervades_oneLine hnames).of_run hg⟩

theorem CallForest.oneLine (hnames : ∀ name ∈ names, Text.OneLine name) {parent : Grammar C}
    {depth position : Nat} {requests : List (Request C)} {entries : List Entry}
    (hchildren : ∀ child ∈ parent.children, child.OneLine)
    (h : CallForest names text parent depth position requests entries) :
    ∀ entry ∈ entries, entry.2.OneLine := by
  match h with
  | .none => exact List.forall_mem_nil _
  | .next isChild _ call calls =>
    rw [List.forall_mem_append]
    exact ⟨call.oneLine hnames (hchildren _ isChild), calls.oneLine hnames hchildren⟩

end

/-- A reading without line breaks in words and names adds no records with line breaks, whatever
the text that is read and whatever the recorder wants and keeps. -/
theorem oneLine_of_mem_parseTraced {g : Grammar C} {input : String} {recorder : Recorder}
    (hg : g.OneLine) (hnames : ∀ name ∈ names, Text.OneLine name)
    (hbefore : ∀ record ∈ recorder.journal.records, record.event.OneLine) :
    ∀ record ∈ (g.parseTraced input names recorder).2.journal.records, record.event.OneLine := by
  obtain ⟨entries, hafter, htree⟩ := Grammar.parseTraced_appendsTree names g input recorder
  rw [hafter]
  intro record hrecord
  rcases Recorder.mem_records_recordAll hrecord with hold | hnew
  · exact hbefore record hold
  · exact htree.oneLine hnames hg record.entry hnew

namespace Transcript

/-- A transcript has as many lines as records, one for each, only if no record has a line break.
Records of a reading have none unless the words of the grammar or the names of the players do. -/
theorem linesOf_lines (numbered : Bool) {records : List Record} (hsome : records ≠ []) :
    Text.linesOf (lines numbered records) =
        records.flatMap (fun record => Text.linesOf (line numbered record)) ∧
      (Text.linesOf (lines numbered records) = records.map (line numbered) ↔
        ∀ record ∈ records, record.event.OneLine) ∧
      ((Text.linesOf (lines numbered records)).length = records.length ↔
        ∀ record ∈ records, record.event.OneLine) ∧
      ∀ (g : Grammar C) (input : String) (names : List String) (recorder : Recorder), g.OneLine →
        (∀ name ∈ names, Text.OneLine name) →
        (∀ record ∈ recorder.journal.records, record.event.OneLine) →
        records ⊆ (g.parseTraced input names recorder).2.journal.records →
          Text.linesOf (lines numbered records) = records.map (line numbered) := by
  have hlines : Text.linesOf (lines numbered records) =
      (records.map (line numbered)).flatMap Text.linesOf :=
    Text.linesOf_intercalate (mt List.map_eq_nil_iff.mp hsome)
  have hevents : (∀ text ∈ records.map (line numbered), Text.OneLine text) ↔
      ∀ record ∈ records, record.event.OneLine := by
    simp only [List.forall_mem_map, oneLine_line_iff]
  have heach : Text.linesOf (lines numbered records) = records.map (line numbered) ↔
      ∀ record ∈ records, record.event.OneLine := by
    rw [hlines, Text.flatMap_linesOf_eq_iff, hevents]
  refine ⟨?_, heach, ?_, ?_⟩
  · rw [hlines, List.flatMap_map]
  · rw [hlines, ← hevents, ← Text.length_flatMap_linesOf_iff, List.length_map]
  · intro g input names recorder hg hnames hbefore hfrom
    exact heach.mpr fun record hrecord =>
      oneLine_of_mem_parseTraced hg hnames hbefore record (hfrom hrecord)

/-- The records of a reading that asked for a player's name and found none. -/
def asked (names : List String) : List Record :=
  ((Grammar.player : Grammar Empty).parseTraced "x" names
    (.ofSettings { enabled := true })).2.journal.records

theorem linesOf_lines_of_asked :
    asked ["Ann", "Bob"] ≠ [] ∧ (Grammar.player : Grammar Empty).OneLine ∧
      (∀ name ∈ ["Ann", "Bob"], Text.OneLine name) ∧
      Text.linesOf (lines true (asked ["Ann", "Bob"])) =
        ["[000000] > Player @0", "[000001] - Player @0+0 (expected Ann, Bob)"] := by
  have hsome : asked ["Ann", "Bob"] ≠ [] := by decide
  have hplayer : (Grammar.player : Grammar Empty).OneLine :=
    .node (List.forall_mem_nil _) (List.forall_mem_nil _)
  have hnames : ∀ name ∈ ["Ann", "Bob"], Text.OneLine name := by decide
  have hlines := (linesOf_lines true hsome).2.2.2 .player "x" ["Ann", "Bob"] _ hplayer hnames
    (List.forall_mem_nil _) (List.Subset.refl _)
  exact ⟨hsome, hplayer, hnames, hlines.trans rfl⟩

/-- A name with a line break makes three lines of two records. -/
theorem linesOf_lines_of_broken_name :
    (asked ["Ann\nBob"]).length = 2 ∧ Text.linesOf (lines false (asked ["Ann\nBob"])) =
      ["> Player @0", "- Player @0+0 (expected Ann", "Bob)"] ∧
      Text.linesOf (lines false (asked ["Ann\nBob"])) ≠
        (asked ["Ann\nBob"]).map (line false) := by
  have hlines : Text.linesOf (lines false (asked ["Ann\nBob"])) =
      ["> Player @0", "- Player @0+0 (expected Ann", "Bob)"] := rfl
  refine ⟨rfl, hlines, ?_⟩
  rw [hlines]
  exact fun h => absurd (congrArg List.length h) (by decide)

end Transcript

end Trace

end Tabletop
