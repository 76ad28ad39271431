import Mathlib.Tactic.SplitIfs
import Tabletop.Proofs.Grammar.Nodes
import Tabletop.Proofs.Grammar.Splitting
import Tabletop.Proofs.Trace.Appending
import Tabletop.Proofs.Trace.Transparency

/-!
# The tree of calls behind a trace

`Grammar.requests` lists the runs that a node asks its children for: which child, on
which rest of the text, in which order. `CallTree` reads a list of entries as the tree
that unfolds from there. It is an attempt, one tree for every request, one level
deeper, and one closing event, which is the outcome of the node on its rest of the
text. Where a node stands is known from the text in front of it, so that positions
are boundaries by construction, and what a closing event says about the text holds
in the whole of it.

Every recorder is told the entries of exactly this tree, whatever it wants of them. A
recorder of everything appends them all.
-/

namespace Tabletop

universe u

open Trace

variable {C : Type u}

/-! ## Requests -/

/-- A grammar to run and the text to run it on. -/
abbrev Request (C : Type u) := Grammar C × List Char

namespace Repetition

variable (names : List String) (item : Grammar C) (delimiter : Option (Grammar C))

/-- The runs of a round after the first. The item is asked for only behind a delimiter. -/
def roundRequests (input : List Char) : List (Request C) :=
  match delimiter with
  | none => [(item, input)]
  | some delimiter =>
    (delimiter, input) ::
      match delimiter.run names input with
      | .error _ => []
      | .ok mark => [(item, mark.remaining)]

/-- The runs after `done` items have been read. -/
def moreRequests (count : Bounds Nat) (done : Nat) (input : List Char) : List (Request C) :=
  if count.isReached done then []
  else
    roundRequests names item delimiter input ++
      match round (item.run names) (delimiter.map (·.run names)) input with
      | none => []
      | some next =>
        if next.remaining.length < input.length then
          moreRequests count (done + 1) next.remaining
        else []
termination_by input.length

/-- The runs of a whole repetition. -/
def requests (count : Bounds Nat) (input : List Char) : List (Request C) :=
  if count.isVoid then []
  else
    (item, input) ::
      match item.run names input with
      | .error _ => []
      | .ok first =>
        if delimiter.isNone && stalled input first then []
        else moreRequests names item delimiter count 1 first.remaining

end Repetition

namespace Grammar

variable (names : List String)

/-- The runs of an alternation, which ends with the first success. -/
def requestsFirst : List (Grammar C) → List Char → List (Request C)
  | [], _ => []
  | g :: rest, input =>
    (g, input) ::
      match g.run names input with
      | .ok _ => []
      | .error _ => requestsFirst rest input

/-- The runs of a sequence, which ends with the first failure. -/
def requestsAll : List (Grammar C) → List Char → List (Request C)
  | [], _ => []
  | g :: rest, input =>
    (g, input) ::
      match g.run names input with
      | .error _ => []
      | .ok first => requestsAll rest first.remaining

/-- The runs that a node asks its children for, in order. -/
def requests : Grammar C → List Char → List (Request C)
  | .oneOf alternatives, input => requestsFirst names alternatives input
  | .chain parts, input => requestsAll names parts input
  | .many item count delimiter, input => Repetition.requests names item delimiter count input
  | .opt inner, input => [(inner, input)]
  | .doc _ _ inner, input => [(inner, input)]
  | .map _ inner, input => [(inner, input)]
  | _, _ => []

/-- A node was run on the rest of a text from a position on, and this is the event that ended the
run. Consumed text is a slice of the whole, and a failure lies inside it. -/
structure EndsWith (text : List Char) (g : Grammar C) (position : Nat) (input : List Char)
    (closing : Event) : Prop where
  reached : ∃ front, text = front ++ input ∧ Text.width front = position
  boundary : Text.Boundary text position
  outcome : closing = .ofOutcome g.kind position (g.run names input)
  slice : ∀ consumed, closing = .matched g.kind position consumed →
    ∃ front back, text = front ++ consumed.toList ++ back ∧ Text.width front = position
  inside : ∀ why, closing = .failed g.kind position why →
    position + why.offset ≤ Text.width text

theorem endsWith_outcome (g : Grammar C) {text front input : List Char}
    (htext : text = front ++ input) :
    g.EndsWith names text (Text.width front) input
      (.ofOutcome g.kind (Text.width front) (g.run names input)) where
  reached := ⟨front, htext, rfl⟩
  boundary := ⟨front, input, htext, rfl⟩
  outcome := rfl
  slice := by
    intro consumed hmatched
    have hfits := run_fits names g input
    cases hrun : g.run names input with
    | error why =>
      rw [hrun] at hmatched
      cases hmatched
    | ok parsed =>
      rw [hrun] at hfits hmatched
      obtain ⟨rfl⟩ := hmatched
      refine ⟨front, parsed.remaining, ?_, rfl⟩
      rw [String.toList_ofList, List.append_assoc, hfits.split, htext]
  inside := by
    intro why hfailed
    have hfits := run_fits names g input
    cases hrun : g.run names input with
    | ok parsed =>
      rw [hrun] at hfailed
      cases hfailed
    | error found =>
      rw [hrun] at hfits hfailed
      obtain ⟨rfl⟩ := hfailed
      have hle := hfits.boundary.le_width
      rw [htext, Text.width_append]
      omega

end Grammar

/-! ## Trees of calls -/

namespace Trace

mutual

/-- The entries of a node's run at a depth, from a position of the text on. -/
inductive CallTree (names : List String) (text : List Char) :
    Grammar C → Nat → Nat → List Char → List Entry → Prop where
  | node {g : Grammar C} {depth position : Nat} {input : List Char} {closing : Event}
      {inner : List Entry} (ends : g.EndsWith names text position input closing)
      (calls : CallForest names text g (depth + 1) position (g.requests names input) inner) :
      CallTree names text g depth position input
        ((depth, .attempt g.kind position) :: (inner ++ [(depth, closing)]))

/-- The entries of the runs that a node at a position asks its children for. -/
inductive CallForest (names : List String) (text : List Char) :
    Grammar C → Nat → Nat → List (Request C) → List Entry → Prop where
  | none {parent : Grammar C} {depth position : Nat} :
      CallForest names text parent depth position [] []
  | next {parent child : Grammar C} {depth position childPosition : Nat} {input : List Char}
      {requests : List (Request C)} {first rest : List Entry} (isChild : child ∈ parent.children)
      (notBefore : position ≤ childPosition)
      (call : CallTree names text child depth childPosition input first)
      (calls : CallForest names text parent depth position requests rest) :
      CallForest names text parent depth position ((child, input) :: requests) (first ++ rest)

end

variable {names : List String} {text : List Char}

theorem CallForest.append {parent : Grammar C} {depth position : Nat}
    {requests more : List (Request C)} {entries later : List Entry}
    (h : CallForest names text parent depth position requests entries)
    (hlater : CallForest names text parent depth position more later) :
    CallForest names text parent depth position (requests ++ more) (entries ++ later) := by
  match h with
  | .none => exact hlater
  | .next isChild notBefore call calls =>
    rw [List.cons_append, List.append_assoc]
    exact .next isChild notBefore call (calls.append hlater)

/-- The tree of a node at the beginning of the text is closed by the node's outcome. -/
theorem CallTree.closed {g : Grammar C} {depth position : Nat} {input : List Char}
    {entries : List Entry} (h : CallTree names text g depth position input entries) :
    ∃ inner, entries = (depth, .attempt g.kind position) ::
      (inner ++ [(depth, .ofOutcome g.kind position (g.run names input))]) := by
  cases h with
  | node ends calls => exact ⟨_, by rw [ends.outcome]⟩

/-- A node stands where the rest of the text that it was given begins. -/
theorem CallTree.position_add {g : Grammar C} {depth position : Nat} {input : List Char}
    {entries : List Entry} (h : CallTree names text g depth position input entries) :
    position + Text.width input = Text.width text := by
  cases h with
  | node ends calls =>
    obtain ⟨front, htext, hposition⟩ := ends.reached
    rw [htext, Text.width_append, hposition]

mutual

/-- A node has only one tree at a depth, a position and a rest of the text. -/
theorem CallTree.unique {g : Grammar C} {depth position : Nat} {input : List Char}
    {entries others : List Entry} (h : CallTree names text g depth position input entries)
    (hothers : CallTree names text g depth position input others) : entries = others := by
  match h, hothers with
  | .node ends calls, .node ends' calls' =>
    rw [ends.outcome, ends'.outcome, calls.unique calls']

/-- The runs that are asked for determine their forest. -/
theorem CallForest.unique {parent : Grammar C} {depth position : Nat} {requests : List (Request C)}
    {entries others : List Entry}
    (h : CallForest names text parent depth position requests entries)
    (hothers : CallForest names text parent depth position requests others) :
    entries = others := by
  match h, hothers with
  | .none, .none => rfl
  | .next isChild notBefore call calls, .next isChild' notBefore' call' calls' =>
    have hposition := call.position_add
    have hposition' := call'.position_add
    have hsame := Nat.add_right_cancel (hposition.trans hposition'.symm)
    subst hsame
    rw [call.unique call', calls.unique calls']

end

variable (names text)

/-- What a recorder was told is the forest of some requests. -/
def Recorder.AppendsForest (before after : Recorder) (parent : Grammar C) (depth position : Nat)
    (requests : List (Request C)) : Prop :=
  ∃ entries, after = before.recordAll entries ∧
    CallForest names text parent depth position requests entries

/-- What a recorder was told is the tree of a node. -/
def Recorder.AppendsTree (before after : Recorder) (g : Grammar C) (depth position : Nat)
    (input : List Char) : Prop :=
  ∃ entries, after = before.recordAll entries ∧
    CallTree names text g depth position input entries

variable {names text}

namespace Recorder.AppendsForest

variable {before middle after : Recorder} {parent : Grammar C} {depth position : Nat}
  {requests more : List (Request C)}

theorem nothing (recorder : Recorder) (parent : Grammar C) (depth position : Nat) :
    recorder.AppendsForest names text recorder parent depth position [] :=
  ⟨[], rfl, .none⟩

theorem trans (h : before.AppendsForest names text middle parent depth position requests)
    (hlater : middle.AppendsForest names text after parent depth position more) :
    before.AppendsForest names text after parent depth position (requests ++ more) := by
  obtain ⟨entries, rfl, hentries⟩ := h
  obtain ⟨later, rfl, hlater⟩ := hlater
  exact ⟨entries ++ later, (recordAll_append _ _ _).symm, hentries.append hlater⟩

end Recorder.AppendsForest

/-- A child's tree is the forest of one request. -/
theorem Recorder.AppendsTree.forest {before after : Recorder} {parent child : Grammar C}
    {depth position childPosition : Nat} {input : List Char} (hchild : child ∈ parent.children)
    (hle : position ≤ childPosition)
    (h : before.AppendsTree names text after child depth childPosition input) :
    before.AppendsForest names text after parent depth position [(child, input)] := by
  obtain ⟨entries, hafter, htree⟩ := h
  refine ⟨entries, hafter, ?_⟩
  rw [← List.append_nil entries]
  exact .next hchild hle htree .none

/-- A node that appends the forest of its requests between its attempt and its end appends its
tree. -/
theorem Recorder.observe_appendsTree {g : Grammar C} {depth : Nat} {front input : List Char}
    {recorder : Recorder} {run : Recorder → Outcome C × Recorder} (htext : text = front ++ input)
    (hobserve : g.observe names (Text.width text) depth input recorder =
      recorder.around g.kind depth (Text.width text - Text.width input) run)
    (hforest : (recorder.record depth (.attempt g.kind (Text.width front))).AppendsForest names text
      (run (recorder.record depth (.attempt g.kind (Text.width front)))).2 g (depth + 1)
      (Text.width front) (g.requests names input)) :
    recorder.AppendsTree names text
      (g.observe names (Text.width text) depth input recorder).2 g depth (Text.width front)
      input := by
  have hposition : Text.width text - Text.width input = Text.width front := by
    rw [htext, Text.width_append, Nat.add_sub_cancel]
  have houtcome := Grammar.observe_reads names (Text.width text) g depth input recorder
  rw [hobserve, hposition] at houtcome ⊢
  rw [around_fst] at houtcome
  obtain ⟨inner, hafter, hinner⟩ := hforest
  refine ⟨_, ?_, .node (g.endsWith_outcome names htext) hinner⟩
  rw [recordAll_cons, recordAll_append, ← hafter, ← houtcome]
  rfl

end Trace

/-- Under observation at a depth, a grammar tells every recorder its tree, wherever in the text it
is run. -/
def Grammar.Traces (names : List String) (text : List Char) (depth : Nat) (g : Grammar C) : Prop :=
  ∀ (front input : List Char) (recorder : Recorder), text = front ++ input →
    recorder.AppendsTree names text (g.observe names (Text.width text) depth input recorder).2 g
      depth (Text.width front) input

/-- What becomes of a child's run at or behind a parent's position: its outcome, the recorder
afterwards, and, if it succeeds, where the text goes on. -/
structure ChildRun (names : List String) (text : List Char) (depth : Nat) (parent child : Grammar C)
    (position : Nat) (front input : List Char) (before : Recorder) (outcome : Outcome C)
    (after : Recorder) : Prop where
  observed : child.observe names (Text.width text) depth input before = (outcome, after)
  ran : child.run names input = outcome
  forest : before.AppendsForest names text after parent depth position [(child, input)]
  goesOn : ∀ parsed, outcome = .ok parsed →
    text = (front ++ parsed.consumed) ++ parsed.remaining ∧
      position ≤ Text.width (front ++ parsed.consumed)

theorem Grammar.Traces.child {names : List String} {text : List Char} {depth : Nat}
    {parent child : Grammar C} (h : child.Traces names text depth)
    (hchild : child ∈ parent.children) {front input : List Char} {position : Nat}
    {recorder : Recorder} (htext : text = front ++ input) (hle : position ≤ Text.width front) :
    ∃ outcome after, ChildRun names text depth parent child position front input recorder outcome
      after := by
  have hforest := (h front input recorder htext).forest hchild hle
  have hfits := Grammar.run_fits names child input
  refine ⟨child.run names input, _, ?_, rfl, hforest, ?_⟩
  · rw [← Grammar.observe_reads names (Text.width text) child depth input recorder]
  · intro parsed hparsed
    rw [hparsed] at hfits
    constructor
    · rw [List.append_assoc, hfits.split, htext]
    · rw [Text.width_append]
      exact Nat.le_add_right_of_le hle

/-! ## Repetitions -/

namespace Repetition

variable {names : List String} {text : List Char} {depth : Nat} {item : Grammar C}
  {count : Bounds Nat} {delimiter : Option (Grammar C)}

theorem observeRound_forest
    (hchildren : ∀ g ∈ (Grammar.many item count delimiter).children, g.Traces names text depth)
    {front input : List Char} {position : Nat} (htext : text = front ++ input)
    (hle : position ≤ Text.width front) (recorder : Recorder) :
    recorder.AppendsForest names text
      (observeRound (item.observe names (Text.width text) depth)
        (delimiter.map (·.observe names (Text.width text) depth)) input recorder).2
      (.many item count delimiter) depth position (roundRequests names item delimiter input) := by
  have hitem : item ∈ (Grammar.many item count delimiter).children := List.mem_cons_self
  cases delimiter with
  | none =>
    obtain ⟨outcome, after, hrun⟩ := (hchildren item hitem).child hitem htext hle
    simp only [observeRound, Option.map_none, roundRequests]
    rw [hrun.observed]
    exact hrun.forest
  | some delimiter =>
    have hmark : delimiter ∈ (Grammar.many item count (some delimiter)).children := by
      simp [Grammar.children]
    obtain ⟨mark, after, hrun⟩ := (hchildren delimiter hmark).child hmark htext hle
    simp only [observeRound, Option.map_some, roundRequests]
    rw [hrun.observed, hrun.ran]
    cases mark with
    | error why => exact hrun.forest
    | ok mark =>
      obtain ⟨hbehind, hlater⟩ := hrun.goesOn mark rfl
      obtain ⟨next, last, hnext⟩ :=
        (hchildren item hitem).child hitem hbehind hlater
      dsimp only
      rw [hnext.observed]
      cases next <;> exact hrun.forest.trans hnext.forest

/-- The outcome of a round under observation is that of the round by itself. -/
theorem observeRound_outcome (names : List String) (total depth : Nat) (item : Grammar C)
    (delimiter : Option (Grammar C)) (input : List Char) (recorder : Recorder) :
    (observeRound (item.observe names total depth)
        (delimiter.map (·.observe names total depth)) input recorder).1 =
      round (item.run names) (delimiter.map (·.run names)) input := by
  refine observeRound_fst (Grammar.observe_reads names _ item depth) ?_ input recorder
  cases delimiter with
  | none => exact .none
  | some delimiter => exact .some (Grammar.observe_reads names _ delimiter depth)

theorem split_behind_round {front input : List Char} {next : Parsed C} {position : Nat}
    (h : round (item.run names) (delimiter.map (·.run names)) input = some next)
    (htext : text = front ++ input) (hle : position ≤ Text.width front) :
    text = (front ++ next.consumed) ++ next.remaining ∧
      position ≤ Text.width (front ++ next.consumed) := by
  have hdelimiter : ∀ d ∈ delimiter.map (·.run names), Matcher.Fitting d := by
    intro d hd
    obtain ⟨delimiter, -, rfl⟩ := Option.map_eq_some_iff.mp hd
    exact Grammar.run_fits names delimiter
  have hsplit := split_of_round (Grammar.run_fits names item) hdelimiter h
  constructor
  · rw [List.append_assoc, hsplit, htext]
  · rw [Text.width_append]
    exact Nat.le_add_right_of_le hle

theorem observeMore_forest
    (hchildren : ∀ g ∈ (Grammar.many item count delimiter).children, g.Traces names text depth)
    (done : Nat) {front input : List Char} {position : Nat} {recorder : Recorder}
    (htext : text = front ++ input) (hle : position ≤ Text.width front) :
    recorder.AppendsForest names text
      (observeMore (item.observe names (Text.width text) depth)
        (delimiter.map (·.observe names (Text.width text) depth)) count done input recorder).2
      (.many item count delimiter) depth position
      (moreRequests names item delimiter count done input) := by
  fun_induction observeMore (item.observe names (Text.width text) depth)
    (delimiter.map (·.observe names (Text.width text) depth)) count done input recorder
    generalizing front with
  | case1 done input recorder hreached =>
    rw [moreRequests, if_pos hreached]
    exact .nothing _ _ _ _
  | case2 done input recorder hreached after hround =>
    have houtcome := observeRound_outcome names (Text.width text) depth item delimiter input
      recorder
    have hforest := observeRound_forest hchildren htext hle recorder
    rw [hround] at houtcome hforest
    rw [moreRequests, if_neg hreached, ← houtcome]
    simpa only [List.append_nil] using hforest
  | case3 done input recorder hreached next after hround hless rest last hrest ih =>
    have houtcome := observeRound_outcome names (Text.width text) depth item delimiter input
      recorder
    have hforest := observeRound_forest hchildren htext hle recorder
    rw [hround] at houtcome hforest
    obtain ⟨hbehind, hlater⟩ := split_behind_round houtcome.symm htext hle
    have hmore := ih hbehind hlater
    rw [hrest] at hmore
    rw [moreRequests, if_neg hreached, ← houtcome]
    dsimp only
    rw [if_pos hless]
    exact hforest.trans hmore
  | case4 done input recorder hreached next after hround hless =>
    have houtcome := observeRound_outcome names (Text.width text) depth item delimiter input
      recorder
    have hforest := observeRound_forest hchildren htext hle recorder
    rw [hround] at houtcome hforest
    rw [moreRequests, if_neg hreached, ← houtcome]
    dsimp only
    rw [if_neg hless, List.append_nil]
    exact hforest

/-- What a repetition tells about its children, its void bounds apart, is the forest of its
requests. -/
theorem observe_forest
    (hchildren : ∀ g ∈ (Grammar.many item count delimiter).children, g.Traces names text depth)
    {front input : List Char} {recorder : Recorder} (htext : text = front ++ input) :
    recorder.AppendsForest names text
      (observe (item.observe names (Text.width text) depth)
        (delimiter.map (·.observe names (Text.width text) depth)) count input recorder).2
      (.many item count delimiter) depth (Text.width front)
      (requests names item delimiter count input) := by
  have hitem : item ∈ (Grammar.many item count delimiter).children := List.mem_cons_self
  obtain ⟨first, after, hrun⟩ :=
    (hchildren item hitem).child hitem htext (Nat.le_refl _)
  unfold observe requests
  split_ifs with hvoid
  · exact .nothing _ _ _ _
  · simp only [observeItems, Option.isNone_map]
    rw [hrun.observed, hrun.ran]
    cases first with
    | error why => exact hrun.forest
    | ok first =>
      obtain ⟨hbehind, hlater⟩ := hrun.goesOn first rfl
      dsimp only
      split_ifs with hstalled
      · exact hrun.forest
      · exact hrun.forest.trans (observeMore_forest hchildren 1 hbehind hlater)

end Repetition

/-! ## Grammars -/

namespace Grammar

variable {names : List String} {text : List Char}

mutual

/-- At every depth and everywhere in the text a grammar tells every recorder its tree. -/
theorem observe_traces : (g : Grammar C) → (depth : Nat) → g.Traces names text depth
  | .int bounds, depth => by
    intro front input recorder htext
    exact Recorder.observe_appendsTree htext (by rw [observe]; rfl) (.nothing _ _ _ _)
  | .token word, depth => by
    intro front input recorder htext
    exact Recorder.observe_appendsTree htext (by rw [observe]; rfl) (.nothing _ _ _ _)
  | .choice candidates exact, depth => by
    intro front input recorder htext
    exact Recorder.observe_appendsTree htext (by rw [observe]; rfl) (.nothing _ _ _ _)
  | .oneOf alternatives, depth => by
    intro front input recorder htext
    refine Recorder.observe_appendsTree htext (by rw [observe]; rfl) ?_
    exact observeFirst_forest (.oneOf alternatives) alternatives (fun _ hg => hg) (depth + 1)
      .empty front input _ htext
  | .chain parts, depth => by
    intro front input recorder htext
    refine Recorder.observe_appendsTree htext (by rw [observe]; rfl) ?_
    exact observeAll_forest (.chain parts) parts (fun _ hg => hg) (depth + 1) front input _ _ htext
      (Nat.le_refl _)
  | .many item count none, depth => by
    intro front input recorder htext
    refine Recorder.observe_appendsTree htext (by rw [observe]; rfl) ?_
    have hitem := observe_traces item (depth + 1)
    have hchildren : ∀ g ∈ (many item count none).children, g.Traces names text (depth + 1) := by
      simpa [children] using hitem
    exact Repetition.observe_forest hchildren htext
  | .many item count (some delimiter), depth => by
    intro front input recorder htext
    refine Recorder.observe_appendsTree htext (by rw [observe]; rfl) ?_
    have hitem := observe_traces item (depth + 1)
    have hdelimiter := observe_traces delimiter (depth + 1)
    have hchildren : ∀ g ∈ (many item count (some delimiter)).children,
        g.Traces names text (depth + 1) := by
      simpa [children] using ⟨hitem, hdelimiter⟩
    exact Repetition.observe_forest hchildren htext
  | .opt inner, depth => by
    intro front input recorder htext
    refine Recorder.observe_appendsTree htext (by rw [observe]; rfl) ?_
    exact (observe_traces inner (depth + 1) front input _ htext).forest List.mem_cons_self
      (Nat.le_refl _)
  | .doc name about inner, depth => by
    intro front input recorder htext
    refine Recorder.observe_appendsTree htext (by rw [observe]; rfl) ?_
    exact (observe_traces inner (depth + 1) front input _ htext).forest List.mem_cons_self
      (Nat.le_refl _)
  | .player, depth => by
    intro front input recorder htext
    exact Recorder.observe_appendsTree htext (by rw [observe]; rfl) (.nothing _ _ _ _)
  | .space, depth => by
    intro front input recorder htext
    exact Recorder.observe_appendsTree htext (by rw [observe]; rfl) (.nothing _ _ _ _)
  | .map f inner, depth => by
    intro front input recorder htext
    refine Recorder.observe_appendsTree htext (by rw [observe]; rfl) ?_
    exact (observe_traces inner (depth + 1) front input _ htext).forest List.mem_cons_self
      (Nat.le_refl _)

theorem observeFirst_forest (parent : Grammar C) : (gs : List (Grammar C)) →
    (∀ g ∈ gs, g ∈ parent.children) → (depth : Nat) → (deepest : Deepest) →
    (front input : List Char) → (recorder : Recorder) → text = front ++ input →
      recorder.AppendsForest names text
        (observeFirst names (Text.width text) gs depth deepest input recorder).2 parent depth
        (Text.width front) (requestsFirst names gs input)
  | [], hgs, depth, deepest, front, input, recorder, htext => by
    rw [observeFirst, requestsFirst]
    exact .nothing _ _ _ _
  | g :: rest, hgs, depth, deepest, front, input, recorder, htext => by
    obtain ⟨outcome, after, hrun⟩ := (observe_traces g depth).child (hgs g List.mem_cons_self)
      htext (Nat.le_refl _)
    rw [observeFirst, requestsFirst, hrun.observed, hrun.ran]
    cases outcome with
    | ok parsed => exact hrun.forest
    | error why =>
      have hgs' : ∀ g ∈ rest, g ∈ parent.children := fun g hg => hgs g (List.mem_cons_of_mem _ hg)
      exact hrun.forest.trans (observeFirst_forest parent rest hgs' depth (deepest.add why) front
        input after htext)

theorem observeAll_forest (parent : Grammar C) : (gs : List (Grammar C)) →
    (∀ g ∈ gs, g ∈ parent.children) → (depth : Nat) →
    (front input : List Char) → (position : Nat) → (recorder : Recorder) → text = front ++ input →
      position ≤ Text.width front →
      recorder.AppendsForest names text
        (observeAll names (Text.width text) gs depth input recorder).2 parent depth position
        (requestsAll names gs input)
  | [], hgs, depth, front, input, position, recorder, htext, hle => by
    rw [observeAll, requestsAll]
    exact .nothing _ _ _ _
  | g :: rest, hgs, depth, front, input, position, recorder, htext, hle => by
    obtain ⟨outcome, after, hrun⟩ := (observe_traces g depth).child (hgs g List.mem_cons_self)
      htext hle
    rw [observeAll, requestsAll, hrun.observed, hrun.ran]
    cases outcome with
    | error why => exact hrun.forest
    | ok first =>
      obtain ⟨hbehind, hlater⟩ := hrun.goesOn first rfl
      have hgs' : ∀ g ∈ rest, g ∈ parent.children := fun g hg => hgs g (List.mem_cons_of_mem _ hg)
      have hrest := observeAll_forest parent rest hgs' depth (front ++ first.consumed)
        first.remaining position after hbehind hlater
      dsimp only
      generalize observeAll names (Text.width text) rest depth first.remaining after = result
        at hrest ⊢
      obtain ⟨items, last⟩ := result
      cases items <;> exact hrun.forest.trans hrest

end

/-- A reading tells every recorder its tree, at depth 0 and from the beginning of the text on. -/
theorem parseTraced_appendsTree (names : List String) (g : Grammar C) (input : String)
    (recorder : Recorder) :
    recorder.AppendsTree names input.toList (g.parseTraced input names recorder).2 g 0 0
      input.toList :=
  observe_traces g 0 [] input.toList recorder rfl

/-- A recorder of everything whose journal has room appends the whole tree of a reading. -/
theorem exists_records_callTree {names : List String} {g : Grammar C} {input : String}
    {recorder : Recorder} (hcomplete : recorder.Complete)
    (hkeeps : recorder.journal.KeepsAll (g.parseTraced input names recorder).2.journal) :
    ∃ written : List Record,
      (g.parseTraced input names recorder).2.journal.records =
        recorder.journal.records ++ written ∧
      CallTree names input.toList g 0 0 input.toList (written.map (·.entry)) := by
  obtain ⟨entries, hafter, htree⟩ := parseTraced_appendsTree names g input recorder
  rw [hafter] at hkeeps ⊢
  refine ⟨_, Recorder.records_recordAll_of_keepsAll hkeeps, ?_⟩
  rw [Journal.map_entry_numbered, hcomplete.wanted_eq]
  exact htree

/-- What a complete recorder appends for a reading, if its journal has room, is the tree of the
reading: at depth 0, from the beginning of the text on, and closed by the outcome. -/
theorem records_parseTraced (names : List String) (g : Grammar C) (input : String)
    (recorder : Recorder) (hcomplete : recorder.Complete)
    (hkeeps : recorder.journal.KeepsAll (g.parseTraced input names recorder).2.journal) :
    ∃ written : List Record,
      (g.parseTraced input names recorder).2.journal.records =
        recorder.journal.records ++ written ∧
      CallTree names input.toList g 0 0 input.toList (written.map (·.entry)) ∧
      ∃ inner, written.map (·.entry) = (0, .attempt g.kind 0) ::
        (inner ++ [(0, .ofOutcome g.kind 0 (g.parseTraced input names recorder).1)]) := by
  have houtcome := observe_reads names (Text.width input.toList) g 0 input.toList recorder
  obtain ⟨written, hrecords, htree⟩ := exists_records_callTree hcomplete hkeeps
  refine ⟨written, hrecords, htree, ?_⟩
  rw [parseTraced, houtcome]
  exact htree.closed

/-- A word, perhaps an article, and a number. -/
def roll : Grammar Unit :=
  .chain [.token "roll", .opt (.token "the"), .int .none]

/-- What happens on "roll5": the article is tried where the number stands. -/
def rollEntries : List Entry :=
  [(0, .attempt .chain 0), (1, .attempt .token 0), (1, .matched .token 0 "roll"),
    (1, .attempt .opt 4), (2, .attempt .token 4), (2, .failed .token 4 (.expecting ["the"])),
    (1, .matched .opt 4 ""), (1, .attempt .int 4), (1, .matched .int 4 "5"),
    (0, .matched .chain 0 "roll5")]

theorem records_parseTraced_of_roll :
    (Recorder.ofSettings { enabled := true }).Complete ∧
      (Recorder.ofSettings { enabled := true }).journal.KeepsAll
        (roll.parseTraced "roll5" [] (Recorder.ofSettings { enabled := true })).2.journal ∧
      (roll.parseTraced "roll5" [] (Recorder.ofSettings { enabled := true })).2.journal.records =
        Journal.numbered 0 rollEntries ∧
      CallTree [] "roll5".toList roll 0 0 "roll5".toList rollEntries ∧
      ∃ inner, rollEntries = (0, .attempt .chain 0) ::
        (inner ++ [(0, .ofOutcome .chain 0
          (roll.parseTraced "roll5" [] (Recorder.ofSettings { enabled := true })).1)]) := by
  have hcomplete : (Recorder.ofSettings { enabled := true }).Complete := ⟨rfl, rfl⟩
  have hkeeps : (Recorder.ofSettings { enabled := true }).journal.KeepsAll
      (roll.parseTraced "roll5" [] (Recorder.ofSettings { enabled := true })).2.journal := rfl
  have hrecords : (roll.parseTraced "roll5" []
      (Recorder.ofSettings { enabled := true })).2.journal.records =
        Journal.numbered 0 rollEntries := rfl
  obtain ⟨written, hwritten, htree, hclosed⟩ :=
    records_parseTraced [] roll "roll5" _ hcomplete hkeeps
  obtain rfl : written = Journal.numbered 0 rollEntries := hwritten.symm.trans hrecords
  exact ⟨hcomplete, hkeeps, hrecords, htree, hclosed⟩

end Grammar

end Tabletop
