import Tabletop.Outline.Equality
import Tabletop.Proofs.Outline.Verdict

/-!
# The outline determines the reading

A client that has only the outline of a grammar can rebuild a grammar from it. The
candidates of the rebuilt grammar stand for nothing and no value is transformed, and
yet it splits every text as the original does, rejects it for the same reason, and
expects the same. Documentation plays no part in that, so it may be taken off first.

Hence two grammars whose outlines agree but for documentation agree on every text,
also when they belong to different games. Nothing is said about their values.
-/

namespace Tabletop

universe u v

namespace Outline

mutual

/-- The outline with every documentation node replaced by what it documents. -/
def undocumented : Outline → Outline
  | .int bounds => .int bounds
  | .token word => .token word
  | .choice names exact => .choice names exact
  | .oneOf alternatives => .oneOf (undocumentedAll alternatives)
  | .chain parts => .chain (undocumentedAll parts)
  | .many item count none => .many item.undocumented count none
  | .many item count (some delimiter) =>
    .many item.undocumented count (some delimiter.undocumented)
  | .opt inner => .opt inner.undocumented
  | .doc _ _ inner => inner.undocumented
  | .player => .player
  | .space => .space

def undocumentedAll : List Outline → List Outline
  | [] => []
  | o :: rest => o.undocumented :: undocumentedAll rest

end

mutual

/-- The plainest grammar of an outline. It belongs to a game without commands. -/
def grammar : Outline → Grammar Empty
  | .int bounds => .int bounds
  | .token word => .token word
  | .choice names exact => .choice (names.map (⟨·, .absent⟩)) exact
  | .oneOf alternatives => .oneOf (grammars alternatives)
  | .chain parts => .chain (grammars parts)
  | .many item count none => .many item.grammar count none
  | .many item count (some delimiter) => .many item.grammar count (some delimiter.grammar)
  | .opt inner => .opt inner.grammar
  | .doc name about inner => .doc name about inner.grammar
  | .player => .player
  | .space => .space

def grammars : List Outline → List (Grammar Empty)
  | [] => []
  | o :: rest => o.grammar :: grammars rest

end

end Outline

namespace Grammar

variable {C : Type u} {D : Type v} (names : List String)

/-- The grammar that is left when documentation, transformations and values are taken away. -/
def plain (g : Grammar C) : Grammar Empty :=
  g.outline.undocumented.grammar

def plainAll (gs : List (Grammar C)) : List (Grammar Empty) :=
  Outline.grammars (Outline.undocumentedAll (outlines gs))

/-! The plain grammar node by node. -/

theorem plain_int (bounds : Bounds Int) : (.int bounds : Grammar C).plain = .int bounds := rfl

theorem plain_token (word : String) : (.token word : Grammar C).plain = .token word := rfl

theorem plain_choice (candidates : List (Candidate C)) (exact : Bool) :
    (.choice candidates exact : Grammar C).plain =
      .choice ((candidates.map (·.name)).map (⟨·, .absent⟩)) exact := rfl

theorem plain_oneOf (alternatives : List (Grammar C)) :
    (.oneOf alternatives : Grammar C).plain = .oneOf (plainAll alternatives) := rfl

theorem plain_chain (parts : List (Grammar C)) :
    (.chain parts : Grammar C).plain = .chain (plainAll parts) := rfl

theorem plain_many (item : Grammar C) (count : Bounds Nat) (delimiter : Option (Grammar C)) :
    (.many item count delimiter : Grammar C).plain =
      .many item.plain count (delimiter.map plain) := by
  cases delimiter <;> rfl

theorem plain_opt (inner : Grammar C) : (.opt inner : Grammar C).plain = .opt inner.plain := rfl

theorem plain_doc (name : String) (about : Option String) (inner : Grammar C) :
    (.doc name about inner : Grammar C).plain = inner.plain := rfl

theorem plain_player : (.player : Grammar C).plain = .player := rfl

theorem plain_space : (.space : Grammar C).plain = .space := rfl

theorem plain_map (f : Value C → Value C) (inner : Grammar C) :
    (.map f inner : Grammar C).plain = inner.plain := rfl

theorem plainAll_nil : plainAll ([] : List (Grammar C)) = [] := rfl

theorem plainAll_cons (g : Grammar C) (rest : List (Grammar C)) :
    plainAll (g :: rest) = g.plain :: plainAll rest := rfl

theorem map_name_plain (candidates : List (Candidate C)) :
    candidates.map (·.name) =
      ((candidates.map (·.name)).map fun name => (⟨name, .absent⟩ : Candidate Empty)).map
        (·.name) := by
  rw [List.map_map]
  exact (List.map_id' _).symm

theorem orAbsent_alike {input : List Char} {a : Outcome C} {b : Outcome D}
    (h : SameVerdict Parsed.Alike a b) :
    SameVerdict Parsed.Alike (orAbsent input a) (orAbsent input b) := by
  cases h with
  | ok h => exact .ok h
  | error why => exact .ok ⟨rfl, rfl⟩

theorem mapValue_alike {f : Value C → Value C} {a : Outcome C} {b : Outcome D}
    (h : SameVerdict Parsed.Alike a b) : SameVerdict Parsed.Alike (mapValue f a) b := by
  cases h with
  | ok h => exact .ok ⟨h.consumed, h.remaining⟩
  | error why => exact .error why

mutual

/-- A grammar reads like the plain one rebuilt from its outline. -/
theorem run_plain : (g : Grammar C) → Matcher.Alike (g.run names) (g.plain.run names)
  | .int bounds => by
    intro input
    rw [plain_int, run, run]
    exact Leaf.integer_alike bounds input
  | .token word => by
    intro input
    rw [plain_token, run, run]
    exact Leaf.word_alike word input
  | .choice candidates exact => by
    intro input
    rw [plain_choice, run, run]
    exact Candidate.read_alike (map_name_plain candidates) exact input
  | .oneOf alternatives => by
    intro input
    rw [plain_oneOf, run, run]
    exact runFirst_plain alternatives .empty input
  | .chain parts => by
    intro input
    rw [plain_chain, run, run]
    have hall := runAll_plain parts input
    generalize runAll names parts input = items, runAll names (plainAll parts) input = items' at hall
    cases hall with
    | ok h => exact .ok ⟨h.consumed, h.remaining⟩
    | error why => exact .error why
  | .many item count none => by
    intro input
    rw [plain_many, Option.map_none, run, run]
    exact Repetition.read_alike (run_plain item) .none count input
  | .many item count (some delimiter) => by
    intro input
    rw [plain_many, Option.map_some, run, run]
    exact Repetition.read_alike (run_plain item) (.some (run_plain delimiter)) count input
  | .opt inner => by
    intro input
    rw [plain_opt, run, run]
    exact orAbsent_alike (run_plain inner input)
  | .doc _ _ inner => by
    intro input
    rw [plain_doc, run]
    exact run_plain inner input
  | .player => by
    intro input
    rw [plain_player, run, run]
    exact Candidate.read_alike (by rw [Candidate.map_name_ofPlayers, Candidate.map_name_ofPlayers])
      false input
  | .space => by
    intro input
    rw [plain_space, run, run]
    exact Leaf.blanks_alike input
  | .map f inner => by
    intro input
    rw [plain_map, run]
    exact mapValue_alike (run_plain inner input)

theorem runFirst_plain : (gs : List (Grammar C)) → (deepest : Deepest) →
    Matcher.Alike (runFirst names gs deepest) (runFirst names (plainAll gs) deepest)
  | [], deepest => by
    intro input
    rw [plainAll_nil, runFirst, runFirst]
    exact .error _
  | g :: rest, deepest => by
    intro input
    rw [plainAll_cons, runFirst, runFirst]
    have hfirst := run_plain g input
    generalize g.run names input = a, g.plain.run names input = b at hfirst
    cases hfirst with
    | ok h => exact .ok h
    | error why => exact runFirst_plain rest _ input

theorem runAll_plain : (gs : List (Grammar C)) → (input : List Char) →
    SameVerdict Items.Alike (runAll names gs input) (runAll names (plainAll gs) input)
  | [], input => by
    rw [plainAll_nil, runAll, runAll]
    exact .ok ⟨rfl, rfl, rfl⟩
  | g :: rest, input => by
    rw [plainAll_cons, runAll, runAll]
    have hfirst := run_plain g input
    generalize g.run names input = a, g.plain.run names input = b at hfirst
    cases hfirst with
    | error why => exact .error why
    | @ok first first' h =>
      have hrest := runAll_plain rest first.remaining
      dsimp only
      rw [← h.remaining, ← h.consumed]
      generalize runAll names rest first.remaining = items,
        runAll names (plainAll rest) first.remaining = items' at hrest
      cases hrest with
      | error why => exact .error _
      | ok hitems => exact .ok (Repetition.before_alike h hitems)

end

mutual

/-- A grammar expects what the plain one rebuilt from its outline expects. -/
theorem expected_plain : (g : Grammar C) → g.expected names = g.plain.expected names
  | .int bounds => by rw [plain_int, expected, expected]
  | .token word => by rw [plain_token, expected, expected]
  | .choice candidates exact => by
    rw [plain_choice, expected, expected]
    exact map_name_plain candidates
  | .oneOf alternatives => by
    rw [plain_oneOf, expected, expected]
    exact expectedAny_plain alternatives
  | .chain [] => by rw [plain_chain, plainAll_nil, expected, expected]
  | .chain (first :: rest) => by
    rw [plain_chain, plainAll_cons, expected, expected]
    exact expected_plain first
  | .many item count delimiter => by
    rw [plain_many, expected, expected, expected_plain item]
  | .opt inner => by rw [plain_opt, expected, expected, expected_plain inner]
  | .doc _ _ inner => by
    rw [plain_doc, expected]
    exact expected_plain inner
  | .player => by rw [plain_player, expected, expected]
  | .space => by rw [plain_space, expected, expected]
  | .map _ inner => by
    rw [plain_map, expected]
    exact expected_plain inner

theorem expectedAny_plain : (gs : List (Grammar C)) →
    expectedAny names gs = expectedAny names (plainAll gs)
  | [] => by rw [plainAll_nil, expectedAny, expectedAny]
  | g :: rest => by
    rw [plainAll_cons, expectedAny, expectedAny, expected_plain g, expectedAny_plain rest]

end

/-- Grammars whose outlines agree but for documentation split every text alike, reject it alike,
and expect the same. -/
theorem verdict_of_undocumented_eq {p : Grammar C} {q : Grammar D}
    (h : p.outline.undocumented = q.outline.undocumented) (input : String) :
    SameVerdict Parsed.Alike (p.parse input names) (q.parse input names) ∧
      p.expected names = q.expected names := by
  have hplain : p.plain = q.plain := congrArg Outline.grammar h
  have hp := run_plain names p input.toList
  have hq := run_plain names q input.toList
  rw [← hplain] at hq
  refine ⟨hp.trans hq.symm, ?_⟩
  rw [expected_plain names p, expected_plain names q, hplain]

/-- Cards to play, with help for players and as a command. -/
def cardsToPlay : Grammar Bool :=
  .doc "cards" (some "which to play") (.map (fun _ => .custom true)
    (.many (.choice [⟨"ace", .int 1⟩, ⟨"king", .int 13⟩] false) (.atLeast 2) (some (.token ","))))

/-- The same cards without either. -/
def bareCards : Grammar Unit :=
  .many (.doc "card" none (.choice [⟨"ace", .absent⟩, ⟨"king", .text "K"⟩] false)) (.atLeast 2)
    (some (.map (·.child 0) (.token ",")))

theorem verdict_of_cards :
    cardsToPlay.outline.undocumented = bareCards.outline.undocumented ∧
      SameVerdict Parsed.Alike (cardsToPlay.parse "A, k" ["mick"]) (bareCards.parse "A, k" ["mick"]) ∧
      cardsToPlay.expected ["mick"] = bareCards.expected ["mick"] := by
  have h : cardsToPlay.outline.undocumented = bareCards.outline.undocumented := rfl
  exact ⟨h, verdict_of_undocumented_eq ["mick"] h "A, k"⟩

end Grammar

end Tabletop
