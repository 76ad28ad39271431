import Mathlib.Data.List.Forall2
import Mathlib.Data.List.Induction
import Mathlib.Tactic.SplitIfs
import Tabletop.Grammar.Run
import Tabletop.Proofs.Grammar.Leaders
import Tabletop.Proofs.Text.Phrases

/-!
# The report of an alternation

An alternation reads what its first successful alternative reads. If there is none, it
reports the failures that got furthest. `Rejection.summary` says what the report of a
list of failures is, and does not mention the order in which they come in except as the
order of what is reported. So an alternation can be taken apart: a part of it may be
replaced by an alternation of its own, since the summary of some failures stands for
all of them in any longer list. Only the wording of an explanation shows the difference.
-/

namespace Tabletop

universe u

variable {C : Type u}

namespace Rejection

/-- The explanations of some failures, in order. An empty one says nothing. -/
def explanations (failures : List Rejection) : List String :=
  (failures.filterMap (·.message)).filter (· ≠ "")

/-- The explanation that some explanations make together, if there are any. -/
def jointly (said : List String) : Option String :=
  match said with
  | [] => none
  | said => some (Text.joined "or" said)

/-- What is reported of some failures: how far they got, and what those that got there had to
say. -/
def summary (failures : List Rejection) : Rejection where
  offset := greatest (·.offset) failures
  expected := (leaders (·.offset) failures).flatMap (·.expected)
  message := jointly (explanations (leaders (·.offset) failures))

theorem jointly_eq_none_iff {said : List String} : jointly said = none ↔ said = [] := by
  cases said <;> simp [jointly]

end Rejection

namespace Deepest

/-- The failures kept are those that lead among the ones that came in. -/
theorem foldl_add (failures : List Rejection) :
    failures.foldl add empty = ⟨greatest (·.offset) failures, leaders (·.offset) failures⟩ := by
  induction failures using List.reverseRecOn with
  | nil => rfl
  | append_singleton before failure ih =>
    rw [List.foldl_append, ih, List.foldl_cons, List.foldl_nil, greatest_append,
      greatest_singleton]
    unfold add
    dsimp only
    rcases Nat.lt_trichotomy failure.offset (greatest (·.offset) before) with hlt | heq | hgt
    · rw [if_neg (Nat.lt_asymm hlt), if_neg (Nat.ne_of_lt hlt), leaders_concat_of_lt hlt,
        Nat.max_eq_left (Nat.le_of_lt hlt)]
    · rw [if_neg (Nat.not_lt.mpr (Nat.le_of_eq heq)), if_pos heq, leaders_concat_of_eq heq, heq,
        Nat.max_self]
    · rw [if_pos hgt, leaders_concat_of_gt hgt, Nat.max_eq_right (Nat.le_of_lt hgt)]

/-- The report of the failures that came in is their summary. -/
theorem merged_foldl_add (failures : List Rejection) :
    (failures.foldl add empty).merged = Rejection.summary failures := by
  rw [foldl_add]
  unfold merged messages Rejection.summary Rejection.explanations Rejection.jointly Text.phraseOr
  simp only [Text.phrase_eq_joined]
  congr 1
  cases ((leaders (·.offset) failures).filterMap (·.message)).filter (· ≠ "") with
  | nil => rfl
  | cons first rest => rfl

end Deepest

namespace Grammar

variable {names : List String} {input : List Char}

/-- All of some grammars fail on a text, each with its failure. -/
abbrev AllFail (names : List String) (input : List Char) :
    List (Grammar C) → List Rejection → Prop :=
  List.Forall₂ fun g why => g.run names input = .error why

theorem AllFail.rejected {gs : List (Grammar C)} {failures : List Rejection}
    (h : AllFail names input gs failures) : ∀ g ∈ gs, ∃ why, g.run names input = .error why := by
  induction h with
  | nil => exact nofun
  | cons hg _ ih => exact List.forall_mem_cons.mpr ⟨⟨_, hg⟩, ih⟩

/-- What the first of some grammars that does not fail reads. -/
def FirstReads (names : List String) (input : List Char) (gs : List (Grammar C))
    (parsed : Parsed C) : Prop :=
  ∃ tried g rest failures, gs = tried ++ g :: rest ∧ AllFail names input tried failures ∧
    g.run names input = .ok parsed

/-- Some grammar is the first to read the text, or they all fail. -/
theorem firstReads_or_allFail (names : List String) (input : List Char) (gs : List (Grammar C)) :
    (∃ parsed, FirstReads names input gs parsed) ∨ ∃ failures, AllFail names input gs failures := by
  induction gs with
  | nil => exact .inr ⟨[], .nil⟩
  | cons g rest ih =>
    cases hrun : g.run names input with
    | ok parsed => exact .inl ⟨parsed, [], g, rest, [], rfl, .nil, hrun⟩
    | error why =>
      rcases ih with ⟨parsed, tried, first, others, failures, rfl, hfail, hfirst⟩ |
        ⟨failures, hfail⟩
      · exact .inl ⟨parsed, g :: tried, first, others, why :: failures, rfl, .cons hrun hfail,
          hfirst⟩
      · exact .inr ⟨why :: failures, .cons hrun hfail⟩

/-- Alternatives that fail leave the rest to decide. -/
theorem runFirst_of_allFail {gs : List (Grammar C)} {failures : List Rejection}
    (h : AllFail names input gs failures) (rest : List (Grammar C)) (deepest : Deepest) :
    runFirst names (gs ++ rest) deepest input =
      runFirst names rest (failures.foldl Deepest.add deepest) input := by
  induction h generalizing deepest with
  | nil => rfl
  | cons hg _ ih =>
    rw [List.cons_append, runFirst, hg]
    exact ih _

theorem FirstReads.run_oneOf {gs : List (Grammar C)} {parsed : Parsed C}
    (h : FirstReads names input gs parsed) : (oneOf gs).run names input = .ok parsed := by
  obtain ⟨tried, g, rest, failures, rfl, hfail, hfirst⟩ := h
  rw [run, runFirst_of_allFail hfail, runFirst, hfirst]

theorem run_oneOf_of_allFail {gs : List (Grammar C)} {failures : List Rejection}
    (hfail : AllFail names input gs failures) :
    (oneOf gs).run names input = .error (Rejection.summary failures) := by
  have hnone := runFirst_of_allFail hfail [] .empty
  rw [List.append_nil, runFirst, Deepest.merged_foldl_add] at hnone
  rw [run, hnone]

/-- An alternation reads what the first alternative to succeed reads, and otherwise reports the
deepest failures of all of them. -/
theorem parse_oneOf (gs : List (Grammar C)) (input : String) (names : List String) :
    (∃ tried g rest parsed, gs = tried ++ g :: rest ∧
      (∀ other ∈ tried, ∃ why, other.parse input names = .error why) ∧
      g.parse input names = .ok parsed ∧ (oneOf gs).parse input names = .ok parsed) ∨
    ∃ failures, List.Forall₂ (fun g why => g.parse input names = .error why) gs failures ∧
      (oneOf gs).parse input names = .error (Rejection.summary failures) := by
  rcases firstReads_or_allFail names input.toList gs with ⟨parsed, hreads⟩ | ⟨failures, hfail⟩
  · have hrun := hreads.run_oneOf
    obtain ⟨tried, g, rest, failures, hsplit, hfail, hfirst⟩ := hreads
    exact .inl ⟨tried, g, rest, parsed, hsplit, hfail.rejected, hfirst, hrun⟩
  · exact .inr ⟨failures, hfail, run_oneOf_of_allFail hfail⟩

end Grammar

/-! ## Taking alternations apart -/

namespace Rejection

theorem explanations_append (front back : List Rejection) :
    explanations (front ++ back) = explanations front ++ explanations back := by
  simp [explanations]

theorem explanations_singleton {why : Rejection} :
    explanations [why] = [] ↔ ∀ message ∈ why.message, message = "" := by
  cases hmessage : why.message <;> simp [explanations, hmessage]

/-- Lists of failures that come to the same in every alternation, up to the wording. -/
structure Interchangeable (failures others : List Rejection) : Prop where
  offset : greatest (·.offset) failures = greatest (·.offset) others
  expected : (leaders (·.offset) failures).flatMap (·.expected) =
    (leaders (·.offset) others).flatMap (·.expected)
  unexplained : explanations (leaders (·.offset) failures) = [] ↔
    explanations (leaders (·.offset) others) = []

namespace Interchangeable

variable {failures failures' others others' : List Rejection}

theorem refl (failures : List Rejection) : Interchangeable failures failures :=
  ⟨rfl, rfl, .rfl⟩

theorem append (h : Interchangeable failures failures') (h' : Interchangeable others others') :
    Interchangeable (failures ++ others) (failures' ++ others') := by
  refine ⟨?_, ?_, ?_⟩
  · rw [greatest_append, greatest_append, h.offset, h'.offset]
  · rw [leaders_append, leaders_append, h.offset, h'.offset, List.flatMap_append,
      List.flatMap_append]
    split_ifs
    · rw [h.expected, h'.expected]
    · rw [h.expected]
    · rw [h'.expected]
    · rfl
  · rw [leaders_append, leaders_append, h.offset, h'.offset, explanations_append,
      explanations_append, List.append_eq_nil_iff, List.append_eq_nil_iff]
    split_ifs
    · rw [h.unexplained, h'.unexplained]
    · rw [h.unexplained]
    · rw [h'.unexplained]
    · rfl

/-- The summary of some failures stands for all of them. -/
theorem summary (failures : List Rejection) :
    Interchangeable [Rejection.summary failures] failures := by
  refine ⟨rfl, by rw [leaders_singleton, List.flatMap_singleton]; rfl, ?_⟩
  rw [leaders_singleton, explanations_singleton]
  unfold Rejection.summary
  generalize hsaid : explanations (leaders (·.offset) failures) = said
  cases said with
  | nil => simp [jointly]
  | cons first rest =>
    have hsay : Text.joined "or" (first :: rest) ≠ "" := by
      apply Text.joined_ne_empty _ (List.cons_ne_nil first rest)
      intro item hitem
      rw [← hsaid] at hitem
      simpa using (List.mem_filter.mp hitem).2
    simp [jointly, hsay]

end Interchangeable

end Rejection

/-- The same is read, or nothing is, and the two rejections differ at most in the wording of their
explanation. -/
inductive SameReport : Outcome C → Outcome C → Prop
  | ok (parsed : Parsed C) : SameReport (.ok parsed) (.ok parsed)
  | error {why why' : Rejection} (offset : why.offset = why'.offset)
      (expected : why.expected = why'.expected)
      (explained : why.message.isSome ↔ why'.message.isSome) :
      SameReport (.error why) (.error why')

namespace Grammar

variable {names : List String} {input : List Char}

namespace FirstReads

variable {gs : List (Grammar C)} {parsed : Parsed C}

theorem append_right (h : FirstReads names input gs parsed) (after : List (Grammar C)) :
    FirstReads names input (gs ++ after) parsed := by
  obtain ⟨tried, g, rest, failures, rfl, hfail, hfirst⟩ := h
  exact ⟨tried, g, rest ++ after, failures, by simp, hfail, hfirst⟩

theorem append_left (h : FirstReads names input gs parsed) {before : List (Grammar C)}
    {failures : List Rejection} (hbefore : AllFail names input before failures) :
    FirstReads names input (before ++ gs) parsed := by
  obtain ⟨tried, g, rest, failures', rfl, hfail, hfirst⟩ := h
  exact ⟨before ++ tried, g, rest, failures ++ failures', by simp,
    List.rel_append hbefore hfail, hfirst⟩

theorem nested (h : FirstReads names input gs parsed) :
    FirstReads names input [oneOf gs] parsed :=
  ⟨[], oneOf gs, [], [], rfl, .nil, h.run_oneOf⟩

/-- Two alternations with the same first success. -/
theorem sameReport {others : List (Grammar C)} (h : FirstReads names input gs parsed)
    (h' : FirstReads names input others parsed) :
    SameReport ((oneOf gs).run names input) ((oneOf others).run names input) := by
  rw [h.run_oneOf, h'.run_oneOf]
  exact .ok parsed

end FirstReads

theorem AllFail.nested {gs : List (Grammar C)} {failures : List Rejection}
    (h : AllFail names input gs failures) :
    AllFail names input [oneOf gs] [Rejection.summary failures] :=
  .cons (run_oneOf_of_allFail h) .nil

/-- Two alternations that fail with interchangeable failures. -/
theorem AllFail.sameReport {gs others : List (Grammar C)} {failures failures' : List Rejection}
    (h : AllFail names input gs failures) (h' : AllFail names input others failures')
    (hsame : Rejection.Interchangeable failures failures') :
    SameReport ((oneOf gs).run names input) ((oneOf others).run names input) := by
  rw [run_oneOf_of_allFail h, run_oneOf_of_allFail h']
  refine .error hsame.offset hsame.expected ?_
  unfold Rejection.summary
  rw [Option.isSome_iff_ne_none, Option.isSome_iff_ne_none, ne_eq, ne_eq,
    Rejection.jointly_eq_none_iff, Rejection.jointly_eq_none_iff, hsame.unexplained]

/-- Alternatives may be gathered in an alternation of their own, wherever they stand. The same is
read or nothing is, and what is reported is the same except for the wording of an explanation. -/
theorem parse_oneOf_nested (before inside after : List (Grammar C)) (input : String)
    (names : List String) :
    SameReport ((oneOf (before ++ [oneOf inside] ++ after)).parse input names)
      ((oneOf (before ++ inside ++ after)).parse input names) := by
  unfold parse
  -- The first that reads the text stands before, inside or after, or all of them fail.
  rcases firstReads_or_allFail names input.toList before with ⟨parsed, hreads⟩ | ⟨failures, hbefore⟩
  · exact ((hreads.append_right _).append_right _).sameReport
      ((hreads.append_right _).append_right _)
  rcases firstReads_or_allFail names input.toList inside with
    ⟨parsed, hreads⟩ | ⟨failures', hinside⟩
  · exact ((hreads.nested.append_left hbefore).append_right _).sameReport
      ((hreads.append_left hbefore).append_right _)
  have hnested := List.rel_append hbefore hinside.nested
  have hflat := List.rel_append hbefore hinside
  rcases firstReads_or_allFail names input.toList after with
    ⟨parsed, hreads⟩ | ⟨failures'', hafter⟩
  · exact (hreads.append_left hnested).sameReport (hreads.append_left hflat)
  · exact AllFail.sameReport (List.rel_append hnested hafter) (List.rel_append hflat hafter)
      (((Rejection.Interchangeable.refl failures).append (.summary failures')).append
        (.refl failures''))

end Grammar

end Tabletop
