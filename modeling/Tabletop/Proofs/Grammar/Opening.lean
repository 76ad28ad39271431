import Mathlib.Tactic.SplitIfs
import Tabletop.Grammar.Expected
import Tabletop.Proofs.Grammar.Alternation
import Tabletop.Proofs.Grammar.Consuming
import Tabletop.Proofs.Outline.Verdict

/-!
# What a grammar asks for at the start

A grammar can say what it would accept before there is a text, and when it rejects a
text it says again what it would have accepted. The first description looks at the
beginning of every sequence and no further. It is complete all the same for texts that
fail at the very start: a later part of a sequence that failed there would have been
reached for nothing, and here it is asked that first parts of sequences do not succeed
on nothing. An alternation that fails at the start has failed there with all its
alternatives, and a repetition that fails lists nothing.
-/

namespace Tabletop

universe u

variable {C : Type u}

/-! ## Nodes that decide by themselves -/

namespace Leaf

variable {input : List Char} {why : Rejection}

theorem integer_rejects {bounds : Bounds Int}
    (h : (integer bounds input : Outcome C) = .error why) :
    why.expected = [bounds.describeInt] ∧ why.offset = 0 := by
  unfold integer at h
  split at h
  · cases h
    exact ⟨rfl, rfl⟩
  · dsimp only at h
    split_ifs at h <;> cases h <;> exact ⟨rfl, rfl⟩

theorem word_rejects {target : String} (h : (word target input : Outcome C) = .error why) :
    why.expected = [target] ∧ why.offset = 0 := by
  unfold word at h
  dsimp only at h
  split_ifs at h
  cases h
  exact ⟨rfl, rfl⟩

theorem blanks_rejects (h : (blanks input : Outcome C) = .error why) :
    why.expected = ["whitespace"] ∧ why.offset = 0 := by
  unfold blanks at h
  split at h <;> cases h
  exact ⟨rfl, rfl⟩

end Leaf

theorem Candidate.read_rejects {candidates : List (Candidate C)} {exact : Bool}
    {input : List Char} {why : Rejection} (h : read candidates exact input = .error why) :
    why.expected = candidates.map (·.name) ∧ why.offset = 0 :=
  (read_resolves candidates exact input).lists why h

/-- A repetition lists no descriptions when it fails. -/
theorem Repetition.expected_of_read {item : Matcher C} {delimiter : Option (Matcher C)}
    {count : Bounds Nat} {input : List Char} {why : Rejection}
    (h : read item delimiter count input = .error why) : why.expected = [] := by
  unfold read at h
  split_ifs at h
  unfold Items.outcome at h
  split at h
  · cases h
  · split_ifs at h
    cases h
    rfl

/-! ## Grammars -/

/-- If the failures that got furthest got nowhere, no failure got anywhere. -/
theorem Rejection.offset_of_summary {failures : List Rejection}
    (h : (summary failures).offset = 0) : ∀ why ∈ failures, why.offset = 0 := by
  intro why hmem
  have hle := le_greatest (·.offset) hmem
  have hzero : greatest (·.offset) failures = 0 := h
  omega

/-- The summary of some failures lists nothing that none of them does. -/
theorem Rejection.expected_of_summary (failures : List Rejection) :
    (summary failures).expected ⊆ failures.flatMap (·.expected) := by
  intro description hmem
  obtain ⟨why, hleads, hlisted⟩ := List.mem_flatMap.mp hmem
  exact List.mem_flatMap.mpr ⟨why, List.mem_of_mem_filter hleads, hlisted⟩

namespace Grammar

mutual

/-- In every sequence, the first part never succeeds without consuming anything. -/
def FirstsConsume (names : List String) : Grammar C → Prop
  | .chain [] => True
  | .chain (first :: rest) =>
    Matcher.Consuming (first.run names) ∧ first.FirstsConsume names ∧ AllFirstsConsume names rest
  | .oneOf alternatives => AllFirstsConsume names alternatives
  | .many item _ none => item.FirstsConsume names
  | .many item _ (some delimiter) => item.FirstsConsume names ∧ delimiter.FirstsConsume names
  | .opt inner => inner.FirstsConsume names
  | .doc _ _ inner => inner.FirstsConsume names
  | .map _ inner => inner.FirstsConsume names
  | .int _ | .token _ | .choice _ _ | .player | .space => True

def AllFirstsConsume (names : List String) : List (Grammar C) → Prop
  | [] => True
  | g :: rest => g.FirstsConsume names ∧ AllFirstsConsume names rest

end

variable {names : List String}

/-- A sequence whose first part consumes something fails at the start only if that part does. -/
theorem run_first_of_start {first : Grammar C} {rest : List (Grammar C)} {input : List Char}
    {why : Rejection} (hconsumes : Matcher.Consuming (first.run names))
    (h : runAll names (first :: rest) input = .error why) (hstart : why.offset = 0) :
    first.run names input = .error why := by
  rw [runAll] at h
  cases hfirst : first.run names input with
  | error early =>
    rw [hfirst] at h
    cases h
    rfl
  | ok parsed =>
    rw [hfirst] at h
    dsimp only at h
    have hforward := mt Text.width_eq_zero_iff.mp (hconsumes input parsed hfirst)
    cases hrest : runAll names rest parsed.remaining with
    | ok items =>
      rw [hrest] at h
      cases h
    | error late =>
      rw [hrest] at h
      cases h
      simp only [Rejection.shifted] at hstart
      omega

mutual

/-- What is asked for in a rejection at the start has been announced. -/
theorem expected_of_start : (g : Grammar C) → g.FirstsConsume names → (input : List Char) →
    (why : Rejection) → g.run names input = .error why → why.offset = 0 →
    why.expected ⊆ g.expected names
  | .int bounds, _, input, why, h, _ => by
    rw [run] at h
    rw [expected, (Leaf.integer_rejects h).1]
    exact List.Subset.refl _
  | .token word, _, input, why, h, _ => by
    rw [run] at h
    rw [expected, (Leaf.word_rejects h).1]
    exact List.Subset.refl _
  | .choice candidates exact, _, input, why, h, _ => by
    rw [run] at h
    rw [expected, (Candidate.read_rejects h).1]
    exact List.Subset.refl _
  | .oneOf alternatives, hfirsts, input, why, h, hstart => by
    rcases firstReads_or_allFail names input alternatives with
      ⟨parsed, hreads⟩ | ⟨failures, hfail⟩
    · rw [hreads.run_oneOf] at h
      cases h
    · rw [run_oneOf_of_allFail hfail] at h
      cases h
      rw [expected]
      exact List.Subset.trans (Rejection.expected_of_summary failures)
        (expectedAny_of_start alternatives hfirsts input failures hfail
          (Rejection.offset_of_summary hstart))
  | .chain [], _, input, why, h, _ => by
    rw [run, runAll] at h
    cases h
  | .chain (first :: rest), hfirsts, input, why, h, hstart => by
    obtain ⟨hconsumes, hfirst, -⟩ := hfirsts
    rw [run] at h
    cases hparts : runAll names (first :: rest) input with
    | ok items =>
      rw [hparts] at h
      cases h
    | error failure =>
      rw [hparts] at h
      cases h
      rw [expected]
      exact expected_of_start first hfirst input why (run_first_of_start hconsumes hparts hstart)
        hstart
  | .many item count none, _, input, why, h, _ => by
    rw [run] at h
    rw [Repetition.expected_of_read h]
    exact List.nil_subset _
  | .many item count (some delimiter), _, input, why, h, _ => by
    rw [run] at h
    rw [Repetition.expected_of_read h]
    exact List.nil_subset _
  | .opt inner, _, input, why, h, _ => by
    rw [run] at h
    cases hinner : inner.run names input <;> rw [hinner] at h <;> cases h
  | .doc _ _ inner, hfirsts, input, why, h, hstart => by
    rw [run] at h
    rw [expected]
    exact expected_of_start inner hfirsts input why h hstart
  | .player, _, input, why, h, _ => by
    rw [run] at h
    rw [expected, (Candidate.read_rejects h).1, Candidate.map_name_ofPlayers]
    exact List.Subset.refl _
  | .space, _, input, why, h, _ => by
    rw [run] at h
    rw [expected, (Leaf.blanks_rejects h).1]
    exact List.Subset.refl _
  | .map f inner, hfirsts, input, why, h, hstart => by
    rw [run] at h
    rw [expected]
    cases hinner : inner.run names input with
    | ok parsed =>
      rw [hinner] at h
      cases h
    | error failure =>
      rw [hinner] at h
      cases h
      exact expected_of_start inner hfirsts input why hinner hstart

theorem expectedAny_of_start : (gs : List (Grammar C)) → AllFirstsConsume names gs →
    (input : List Char) → (failures : List Rejection) → AllFail names input gs failures →
    (∀ why ∈ failures, why.offset = 0) →
    failures.flatMap (·.expected) ⊆ expectedAny names gs
  | [], _, input, failures, hfail, _ => by
    cases hfail
    exact List.nil_subset _
  | g :: rest, hfirsts, input, failures, hfail, hstart => by
    cases hfail with
    | @cons _ why _ others hg hrest =>
      obtain ⟨hwhy, hothers⟩ := List.forall_mem_cons.mp hstart
      rw [List.flatMap_cons, expectedAny]
      exact List.append_subset.mpr
        ⟨List.subset_append_of_subset_left _ (expected_of_start g hfirsts.1 input why hg hwhy),
          List.subset_append_of_subset_right _
            (expectedAny_of_start rest hfirsts.2 input others hrest hothers)⟩

end

/-- Where first parts of sequences consume something, whatever is asked for when a text fails at
the start is among what the grammar says that it would accept. -/
theorem announced_of_rejected {g : Grammar C} (hfirsts : g.FirstsConsume names) {input : String}
    {why : Rejection} (h : g.parse input names = .error why) (hstart : why.offset = 0) :
    ∀ description ∈ why.expected, description ∈ g.expected names :=
  fun _ hmem => expected_of_start g hfirsts input.toList why h hstart hmem

/-- A bid, a raid on somebody, or passing, perhaps more than once. -/
def turn : Grammar Empty :=
  .oneOf [.chain [.token "bid", .space, .int ⟨some 0, some 15⟩],
    .doc "raid" none (.chain [.chain [.oneOf [.token "raid", .token "storm"], .space], .player]),
    .many (.token "pass") ⟨some 1, none⟩ none]

theorem announced_of_rejected_turn :
    turn.FirstsConsume ["Mick", "Beth"] ∧
      turn.parse "build" ["Mick", "Beth"] =
        .error ⟨some "expected at least 1 items but could only parse 0", ["bid", "raid", "storm"],
          0⟩ ∧
      ∀ description ∈ ["bid", "raid", "storm"],
        description ∈ turn.expected ["Mick", "Beth"] := by
  have hfirsts : turn.FirstsConsume ["Mick", "Beth"] := by
    refine ⟨⟨run_consuming _ _ rfl, trivial, trivial, trivial, trivial⟩,
      ⟨run_consuming _ _ rfl,
        ⟨run_consuming _ _ rfl, ⟨trivial, trivial, trivial⟩, trivial, trivial⟩, trivial, trivial⟩,
      trivial, trivial⟩
  have h : turn.parse "build" ["Mick", "Beth"] =
      .error ⟨some "expected at least 1 items but could only parse 0", ["bid", "raid", "storm"],
        0⟩ := rfl
  exact ⟨hfirsts, h, announced_of_rejected hfirsts h rfl⟩

/-- Without the condition on first parts: a word is asked for behind an option, which was all that
had been announced. -/
example :
    let late : Grammar Empty := .chain [.opt (.token "please"), .token "pass"]
    late.parse "no" [] = .error (.expecting ["pass"]) ∧ late.expected [] = ["optional please"] := by
  cbv

end Grammar

end Tabletop
