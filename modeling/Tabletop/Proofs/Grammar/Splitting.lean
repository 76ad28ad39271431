import Mathlib.Tactic.SplitIfs
import Tabletop.Grammar.Run
import Tabletop.Proofs.Text.Cut
import Tabletop.Proofs.Text.Literals

/-!
# What a reading does to its text

A successful reading splits its text in two, and a failed one points between two of
its characters. `Outcome.Fits` says both. Every leaf has the property at once; the
other nodes have it because the grammars below them do: a sequence and a repetition
move the boundaries of what they read later by the width of what they read before.
-/

namespace Tabletop

universe u

variable {C : Type u}

/-- Success splits the text, and failure lies at one of its boundaries. -/
def Outcome.Fits (outcome : Outcome C) (input : List Char) : Prop :=
  match outcome with
  | .ok parsed => parsed.consumed ++ parsed.remaining = input
  | .error why => Text.Boundary input why.offset

/-- A matcher whose outcome fits whatever it is given. -/
def Matcher.Fitting (matcher : Matcher C) : Prop :=
  ∀ input, Outcome.Fits (matcher input) input

namespace Outcome.Fits

theorem split {input : List Char} {parsed : Parsed C} (h : Outcome.Fits (.ok parsed) input) :
    parsed.consumed ++ parsed.remaining = input := h

theorem boundary {input : List Char} {why : Rejection}
    (h : Outcome.Fits (C := C) (.error why) input) : Text.Boundary input why.offset := h

/-- A rejection at the start fits every text. -/
theorem start {input : List Char} {why : Rejection} (h : why.offset = 0) :
    Outcome.Fits (C := C) (.error why) input := by
  show Text.Boundary input why.offset
  rw [h]
  exact Text.boundary_zero input

end Outcome.Fits

/-! ## Leaves -/

namespace Leaf

theorem integer_fits (bounds : Bounds Int) (input : List Char) :
    (integer bounds input : Outcome C).Fits input := by
  unfold integer
  split
  · exact .start rfl
  · rename_i literal rest h
    dsimp only
    split_ifs
    · exact .start rfl
    · exact .start rfl
    · exact .start rfl
    · exact Text.Decimal.append_of_literal? h

theorem word_fits (target : String) (input : List Char) :
    (word target input : Outcome C).Fits input := by
  unfold word
  dsimp only
  split_ifs
  · exact .start rfl
  · exact (List.prefix_iff_eq_append.mp (Text.agreement_isPrefix input target.toList))

theorem blanks_fits (input : List Char) : (blanks input : Outcome C).Fits input := by
  unfold blanks
  split
  · exact .start rfl
  · exact List.takeWhile_append_dropWhile

end Leaf

theorem Candidate.read_fits (candidates : List (Candidate C)) (exact : Bool) (input : List Char) :
    (read candidates exact input).Fits input := by
  unfold read
  dsimp only
  split
  · exact .start rfl
  · exact List.take_append_drop _ _
  · exact .start rfl

/-! ## Repetitions -/

namespace Repetition

variable {item : Matcher C} {delimiter : Option (Matcher C)}

theorem split_of_round (hitem : Matcher.Fitting item)
    (hdelimiter : ∀ d ∈ delimiter, Matcher.Fitting d) {input : List Char} {next : Parsed C}
    (h : round item delimiter input = some next) : next.consumed ++ next.remaining = input := by
  cases delimiter with
  | none =>
    have hfit := hitem input
    rw [ok_of_round_none h] at hfit
    exact hfit.split
  | some d =>
    obtain ⟨mark, found, hmark, hfound, rfl⟩ := exists_of_round_some h
    have hfirst := hdelimiter d rfl input
    have hsecond := hitem mark.remaining
    rw [hmark] at hfirst
    rw [hfound] at hsecond
    rw [List.append_assoc, hsecond.split, hfirst.split]

theorem more_split (hitem : Matcher.Fitting item)
    (hdelimiter : ∀ d ∈ delimiter, Matcher.Fitting d) (count : Bounds Nat) (done : Nat)
    (input : List Char) :
    (more item delimiter count done input).consumed ++
      (more item delimiter count done input).remaining = input := by
  fun_induction more item delimiter count done input with
  | case1 => rfl
  | case2 => rfl
  | case3 done input _ next hround _ ih =>
    have hsplit := split_of_round hitem hdelimiter hround
    simp only [Items.before]
    rw [List.append_assoc, ih, hsplit]
  | case4 done input _ next hround _ =>
    have hsplit := split_of_round hitem hdelimiter hround
    simp only [Items.before, Items.none, List.append_nil]
    exact hsplit

theorem items_split (hitem : Matcher.Fitting item)
    (hdelimiter : ∀ d ∈ delimiter, Matcher.Fitting d) (count : Bounds Nat) (input : List Char) :
    (items item delimiter count input).consumed ++
      (items item delimiter count input).remaining = input := by
  unfold items
  split
  · rfl
  · rename_i first hfirst
    have hfit := hitem input
    rw [hfirst] at hfit
    split_ifs
    · simp only [Items.before, Items.none, List.append_nil]
      exact hfit.split
    · simp only [Items.before]
      rw [List.append_assoc, more_split hitem hdelimiter, hfit.split]

/-- A repetition with too few items is refused where the last of them ended. -/
theorem outcome_fits (count : Bounds Nat) {items : Items C} {input : List Char}
    (h : items.consumed ++ items.remaining = input) : (items.outcome count).Fits input := by
  unfold Items.outcome
  split
  · exact h
  · split_ifs
    · exact ⟨items.consumed, items.remaining, h.symm, rfl⟩
    · exact h

theorem read_fits (hitem : Matcher.Fitting item)
    (hdelimiter : ∀ d ∈ delimiter, Matcher.Fitting d) (count : Bounds Nat) :
    Matcher.Fitting (read item delimiter count) := by
  intro input
  unfold read
  split_ifs
  · rfl
  · exact outcome_fits count (items_split hitem hdelimiter count input)

end Repetition

/-! ## Grammars -/

theorem Deepest.add_offset (deepest : Deepest) (why : Rejection) :
    (deepest.add why).offset = max deepest.offset why.offset := by
  unfold add
  split_ifs with hdeeper hsame
  · exact (Nat.max_eq_right (Nat.le_of_lt hdeeper)).symm
  · rw [hsame, Nat.max_self]
  · omega

/-- The depth of the deepest failure is a boundary as long as all failures lie at boundaries. -/
theorem Deepest.boundary_add {input : List Char} {deepest : Deepest} {why : Rejection}
    (hd : Text.Boundary input deepest.offset) (hw : Text.Boundary input why.offset) :
    Text.Boundary input (deepest.add why).offset := by
  rw [add_offset]
  rcases Nat.le_total deepest.offset why.offset with h | h
  · rwa [Nat.max_eq_right h]
  · rwa [Nat.max_eq_left h]

namespace Grammar

variable (names : List String)

mutual

/-- Every grammar splits the text it reads and fails at boundaries. -/
theorem run_fits : (g : Grammar C) → Matcher.Fitting (g.run names)
  | .int bounds => by
    intro input
    rw [run]
    exact Leaf.integer_fits bounds input
  | .token word => by
    intro input
    rw [run]
    exact Leaf.word_fits word input
  | .choice candidates exact => by
    intro input
    rw [run]
    exact Candidate.read_fits candidates exact input
  | .oneOf alternatives => by
    intro input
    rw [run]
    exact runFirst_fits alternatives .empty input (Text.boundary_zero input)
  | .chain parts => by
    intro input
    rw [run]
    have h := runAll_fits parts input
    cases hall : runAll names parts input with
    | error why => exact h.2 why hall
    | ok items => exact h.1 items hall
  | .many item count none => by
    intro input
    rw [run]
    exact Repetition.read_fits (run_fits item) (by simp) count input
  | .many item count (some delimiter) => by
    intro input
    rw [run]
    have hdelimiter := run_fits delimiter
    exact Repetition.read_fits (run_fits item) (by simpa using hdelimiter) count input
  | .opt inner => by
    intro input
    rw [run]
    have h := run_fits inner input
    cases hrun : inner.run names input with
    | error why => exact List.nil_append input
    | ok parsed => rw [hrun] at h; exact h
  | .doc _ _ inner => by
    intro input
    rw [run]
    exact run_fits inner input
  | .player => by
    intro input
    rw [run]
    exact Candidate.read_fits _ false input
  | .space => by
    intro input
    rw [run]
    exact Leaf.blanks_fits input
  | .map f inner => by
    intro input
    rw [run]
    have h := run_fits inner input
    cases hrun : inner.run names input with
    | error why => rw [hrun] at h; exact h
    | ok parsed => rw [hrun] at h; exact h

theorem runFirst_fits : (gs : List (Grammar C)) → (deepest : Deepest) → (input : List Char) →
    Text.Boundary input deepest.offset → (runFirst names gs deepest input).Fits input
  | [], deepest, input, hd => by rw [runFirst]; exact hd
  | g :: rest, deepest, input, hd => by
    rw [runFirst]
    have h := run_fits g input
    cases hrun : g.run names input with
    | ok parsed => rw [hrun] at h; exact h
    | error why =>
      rw [hrun] at h
      exact runFirst_fits rest _ input (Deepest.boundary_add hd h.boundary)

theorem runAll_fits : (gs : List (Grammar C)) → (input : List Char) →
    (∀ items, runAll names gs input = .ok items → items.consumed ++ items.remaining = input) ∧
    (∀ why, runAll names gs input = .error why → Text.Boundary input why.offset)
  | [], input => by
    rw [runAll]
    refine ⟨?_, nofun⟩
    rintro items ⟨⟩
    rfl
  | g :: rest, input => by
    rw [runAll]
    have h := run_fits g input
    cases hrun : g.run names input with
    | error first =>
      rw [hrun] at h
      refine ⟨nofun, ?_⟩
      rintro why ⟨⟩
      exact h.boundary
    | ok first =>
      rw [hrun] at h
      obtain ⟨hsplit, hboundary⟩ := runAll_fits rest first.remaining
      dsimp only
      cases hall : runAll names rest first.remaining with
      | error later =>
        refine ⟨nofun, ?_⟩
        rintro why ⟨⟩
        have hlater := (hboundary later hall).shift first.consumed
        rwa [h.split] at hlater
      | ok items =>
        refine ⟨?_, nofun⟩
        rintro _ ⟨⟩
        simp only [Items.before]
        rw [List.append_assoc, hsplit items hall, h.split]

end

end Grammar

end Tabletop
