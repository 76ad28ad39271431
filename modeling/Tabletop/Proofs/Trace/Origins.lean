import Mathlib.Logic.Relation
import Mathlib.Tactic.SplitIfs
import Tabletop.Proofs.Grammar.Opening
import Tabletop.Proofs.Trace.CallTree

/-!
# Where a rejection comes from

A rejection of a whole text is put together from failures far below: sequences move
them to where they happened, alternations keep the deepest of them and mix what they
expected. The trace shows the pieces. Wherever a rejection points, some node failed
there that decides by itself and does not pass on what a child says, and every
description that it lists was given by a leaf that failed at that very place.

`FailedIn` speaks of a failure through the trace: the whole tree of a node's run
stands among the entries, and it is closed by the failure.
-/

namespace Tabletop

universe u

open Trace

variable {C : Type u}

namespace Grammar

/-- A node whose failure is its own: a leaf, a repetition or an alternation of nothing. -/
def Decides (g : Grammar C) : Prop :=
  g.kind ∈ NodeKind.leaves ∨ g.kind = .many ∨ g = .oneOf []

/-- A node of a grammar, at any depth. -/
def Within (node root : Grammar C) : Prop :=
  Relation.ReflTransGen (fun parent child => child ∈ parent.children) root node

end Grammar

namespace Trace

/-- A node of a grammar failed at a position: among some entries stands the tree of a run of this
node from there on, and the failure is its end. -/
def FailedIn (names : List String) (text : List Char) (root : Grammar C) (entries : List Entry)
    (node : Grammar C) (position : Nat) (why : Rejection) : Prop :=
  node.Within root ∧ ∃ (depth : Nat) (input : List Char) (tree : List Entry),
    CallTree names text node depth position input tree ∧ tree <:+: entries ∧
      tree.getLast? = some (depth, .failed node.kind position why)

/-- Some entries explain a rejection at a place of the text: a node that decides by itself failed
there, and what was expected was expected by leaves that failed there. -/
structure Explains (names : List String) (text : List Char) (root : Grammar C)
    (entries : List Entry) (place : Nat) (expected : List String) : Prop where
  origin : ∃ node position why, FailedIn names text root entries node position why ∧
    node.Decides ∧ position + why.offset = place
  sources : ∀ description ∈ expected, ∃ node why, FailedIn names text root entries node place why ∧
    node.kind ∈ NodeKind.leaves ∧ description ∈ why.expected

variable {names : List String} {text : List Char} {root : Grammar C} {all : List Entry}

theorem Explains.append {place : Nat} {expected others : List String}
    (h : Explains names text root all place expected)
    (hothers : Explains names text root all place others) :
    Explains names text root all place (expected ++ others) where
  origin := h.origin
  sources := List.forall_mem_append.mpr ⟨h.sources, hothers.sources⟩

/-! ## Parts of a tree -/

/-- Between the two ends of a node's tree stands the forest of its requests. -/
theorem CallTree.forest {g : Grammar C} {depth position : Nat} {input : List Char}
    {entries : List Entry} (h : CallTree names text g depth position input entries)
    (hin : entries <:+: all) :
    ∃ inner, CallForest names text g (depth + 1) position (g.requests names input) inner ∧
      inner <:+: all := by
  cases h with
  | @node _ _ _ _ closing inner ends calls =>
    have hinner : inner <:+: (depth, .attempt g.kind position) :: (inner ++ [(depth, closing)]) :=
      ⟨[(depth, .attempt g.kind position)], [(depth, closing)], rfl⟩
    exact ⟨inner, calls, hinner.trans hin⟩

/-- The tree of the first request and the forest of the others. -/
theorem CallForest.uncons {parent child : Grammar C} {depth position : Nat} {input : List Char}
    {requests : List (Request C)} {entries : List Entry}
    (h : CallForest names text parent depth position ((child, input) :: requests) entries)
    (hin : entries <:+: all) (hparent : parent.Within root) :
    ∃ start first rest, child.Within root ∧
      (CallTree names text child depth start input first ∧ first <:+: all) ∧
      CallForest names text parent depth position requests rest ∧ rest <:+: all := by
  cases h with
  | @next _ _ _ _ start _ _ first rest isChild notBefore call calls =>
    have hfirst : first <:+: first ++ rest := (List.prefix_append first rest).isInfix
    have hrest : rest <:+: first ++ rest := (List.suffix_append first rest).isInfix
    exact ⟨start, first, rest, hparent.tail isChild, ⟨call, hfirst.trans hin⟩, calls,
      hrest.trans hin⟩

/-- The failure of a node's run is found in its tree. -/
theorem CallTree.failedIn {g : Grammar C} {depth position : Nat} {input : List Char}
    {entries : List Entry} {why : Rejection}
    (h : CallTree names text g depth position input entries) (hin : entries <:+: all)
    (hwithin : g.Within root) (hrun : g.run names input = .error why) :
    FailedIn names text root all g position why := by
  refine ⟨hwithin, depth, input, entries, h, hin, ?_⟩
  obtain ⟨inner, rfl⟩ := h.closed
  rw [hrun, ← List.cons_append, List.getLast?_concat]
  rfl

/-- The record of a failure is one of those that were written. -/
theorem FailedIn.exists_record {written : List Record} {node : Grammar C} {position : Nat}
    {why : Rejection} (h : FailedIn names text root (written.map (·.entry)) node position why) :
    ∃ record ∈ written, record.event = .failed node.kind position why := by
  obtain ⟨-, depth, input, tree, -, hin, hlast⟩ := h
  have hmem := hin.subset (List.mem_of_getLast? hlast)
  obtain ⟨record, hrecord, hentry⟩ := List.mem_map.mp hmem
  exact ⟨record, hrecord, congrArg Prod.snd hentry⟩

end Trace

/-! ## Nodes that decide by themselves -/

namespace Grammar

variable {names : List String} {text : List Char} {root : Grammar C} {all : List Entry}

/-- A leaf fails before it has read anything. -/
theorem offset_of_leaf {g : Grammar C} {input : List Char} {why : Rejection}
    (hleaf : g.kind ∈ NodeKind.leaves) (h : g.run names input = .error why) : why.offset = 0 := by
  cases g with
  | int bounds =>
    rw [run] at h
    exact (Leaf.integer_rejects h).2
  | token word =>
    rw [run] at h
    exact (Leaf.word_rejects h).2
  | choice candidates exact =>
    rw [run] at h
    exact (Candidate.read_rejects h).2
  | player =>
    rw [run] at h
    exact (Candidate.read_rejects h).2
  | space =>
    rw [run] at h
    exact (Leaf.blanks_rejects h).2
  | _ => simp [kind, NodeKind.leaves] at hleaf

/-- Wherever a trace contains the tree of a grammar's failed run, it explains the failure. -/
def Explained (names : List String) (text : List Char) (g root : Grammar C) (all : List Entry) :
    Prop :=
  ∀ {depth position : Nat} {input : List Char} {entries : List Entry} {why : Rejection},
    CallTree names text g depth position input entries → entries <:+: all → g.Within root →
      g.run names input = .error why →
      Explains names text root all (position + why.offset) why.expected

theorem explained_leaf {g : Grammar C} (hleaf : g.kind ∈ NodeKind.leaves) :
    g.Explained names text root all := by
  intro depth position input entries why htree hin hwithin hrun
  have hfailed := htree.failedIn hin hwithin hrun
  refine ⟨⟨g, position, why, hfailed, .inl hleaf, rfl⟩, fun description hmem => ?_⟩
  rw [offset_of_leaf hleaf hrun]
  exact ⟨g, why, hfailed, hleaf, hmem⟩

theorem explained_many {item : Grammar C} {count : Bounds Nat} {delimiter : Option (Grammar C)} :
    (many item count delimiter).Explained names text root all := by
  intro depth position input entries why htree hin hwithin hrun
  have hfailed := htree.failedIn hin hwithin hrun
  have hexpected : why.expected = [] := by
    cases delimiter <;> rw [run] at hrun <;> exact Repetition.expected_of_read hrun
  refine ⟨⟨_, position, why, hfailed, .inr (.inl rfl), rfl⟩, fun description hmem => ?_⟩
  rw [hexpected] at hmem
  exact absurd hmem List.not_mem_nil

/-- An option never fails. -/
theorem explained_opt {inner : Grammar C} : (opt inner).Explained names text root all := by
  intro depth position input entries why htree hin hwithin hrun
  rw [run] at hrun
  cases hinner : inner.run names input <;> rw [hinner] at hrun <;> cases hrun

/-- A node that passes on the failure of its only child is explained with it. -/
theorem explained_of_inner {g inner : Grammar C} (hinner : inner.Explained names text root all)
    (hrequests : ∀ input, g.requests names input = [(inner, input)])
    (hruns : ∀ input why, g.run names input = .error why → inner.run names input = .error why) :
    g.Explained names text root all := by
  intro depth position input entries why htree hin hwithin hrun
  have hposition := htree.position_add
  obtain ⟨forest, hforest, hin⟩ := htree.forest hin
  rw [hrequests] at hforest
  obtain ⟨start, first, rest, hwithin, ⟨hchild, hfirst⟩, -, -⟩ := hforest.uncons hin hwithin
  have hstart := hchild.position_add
  obtain rfl : start = position := by omega
  exact hinner hchild hfirst hwithin (hruns input why hrun)

/-! ## Alternations and sequences -/

/-- One more failure, at the same start, leaves the deepest ones explained. -/
theorem explains_add {start : Nat} {deepest : Deepest} {failure : Rejection}
    (hdeepest : deepest = .empty ∨
      Explains names text root all (start + deepest.offset) deepest.merged.expected)
    (hfailure : Explains names text root all (start + failure.offset) failure.expected) :
    Explains names text root all (start + (deepest.add failure).offset)
      (deepest.add failure).merged.expected := by
  unfold Deepest.add
  split_ifs with hdeeper hsame
  · simpa [Deepest.merged] using hfailure
  · rw [hsame] at hfailure
    rcases hdeepest with rfl | hdeepest
    · simpa [Deepest.merged, Deepest.empty] using hfailure
    · simpa [Deepest.merged] using hdeepest.append hfailure
  · rcases hdeepest with rfl | hdeepest
    · simp only [Deepest.empty] at hdeeper hsame
      omega
    · exact hdeepest

/-- An alternation of something rejects a text with the deepest failures of its alternatives. -/
theorem explains_first {parent : Grammar C} {gs : List (Grammar C)} {deepest : Deepest}
    {depth position start : Nat} {input : List Char} {entries : List Entry} {why : Rejection}
    (hgs : ∀ g ∈ gs, g.Explained names text root all) (hparent : parent.Within root)
    (hstart : start + Text.width input = Text.width text)
    (hdeepest : deepest = .empty ∧ gs ≠ [] ∨
      Explains names text root all (start + deepest.offset) deepest.merged.expected)
    (hforest : CallForest names text parent depth position (requestsFirst names gs input) entries)
    (hin : entries <:+: all) (hrun : runFirst names gs deepest input = .error why) :
    Explains names text root all (start + why.offset) why.expected := by
  induction gs generalizing deepest entries with
  | nil =>
    rw [runFirst] at hrun
    cases hrun
    rcases hdeepest with ⟨-, hne⟩ | hdeepest
    · exact absurd rfl hne
    · exact hdeepest
  | cons g rest ih =>
    obtain ⟨hg, hrest⟩ := List.forall_mem_cons.mp hgs
    rw [requestsFirst] at hforest
    rw [runFirst] at hrun
    obtain ⟨found, first, later, hwithin, ⟨hchild, hfirst⟩, hforest, hlater⟩ :=
      hforest.uncons hin hparent
    have hfound := hchild.position_add
    obtain rfl : found = start := by omega
    cases hfailure : g.run names input with
    | ok parsed =>
      rw [hfailure] at hrun
      cases hrun
    | error failure =>
      rw [hfailure] at hrun hforest
      have hadd := explains_add (hdeepest.imp_left And.left) (hg hchild hfirst hwithin hfailure)
      exact ih hrest (.inr hadd) hforest hlater hrun

/-- A sequence rejects a text with the failure of the part that it could not get past. -/
theorem explains_all {parent : Grammar C} {gs : List (Grammar C)} {depth position start : Nat}
    {input : List Char} {entries : List Entry} {why : Rejection}
    (hgs : ∀ g ∈ gs, g.Explained names text root all) (hparent : parent.Within root)
    (hstart : start + Text.width input = Text.width text)
    (hforest : CallForest names text parent depth position (requestsAll names gs input) entries)
    (hin : entries <:+: all) (hrun : runAll names gs input = .error why) :
    Explains names text root all (start + why.offset) why.expected := by
  induction gs generalizing input start entries why with
  | nil =>
    rw [runAll] at hrun
    cases hrun
  | cons g rest ih =>
    obtain ⟨hg, hrest⟩ := List.forall_mem_cons.mp hgs
    rw [requestsAll] at hforest
    rw [runAll] at hrun
    obtain ⟨found, first, later, hwithin, ⟨hchild, hfirst⟩, hforest, hlater⟩ :=
      hforest.uncons hin hparent
    have hfound := hchild.position_add
    obtain rfl : found = start := by omega
    have hfits := run_fits names g input
    cases hpart : g.run names input with
    | error failure =>
      rw [hpart] at hrun
      cases hrun
      exact hg hchild hfirst hwithin hpart
    | ok parsed =>
      rw [hpart] at hrun hforest hfits
      dsimp only at hrun hforest
      have hsplit := congrArg Text.width hfits.split
      rw [Text.width_append] at hsplit
      cases hparts : runAll names rest parsed.remaining with
      | ok items =>
        rw [hparts] at hrun
        cases hrun
      | error failure =>
        rw [hparts] at hrun
        cases hrun
        -- the rest of the sequence starts behind what this part consumed
        have hbehind : found + Text.width parsed.consumed + Text.width parsed.remaining =
            Text.width text := by omega
        have hlast := ih hrest hbehind hforest hlater hparts
        rwa [Nat.add_assoc, Nat.add_comm (Text.width parsed.consumed)] at hlast

theorem explained_oneOf {alternatives : List (Grammar C)}
    (h : ∀ g ∈ alternatives, g.Explained names text root all) :
    (oneOf alternatives).Explained names text root all := by
  intro depth position input entries why htree hin hwithin hrun
  by_cases hnone : alternatives = []
  · subst hnone
    have hfailed := htree.failedIn hin hwithin hrun
    rw [run, runFirst] at hrun
    cases hrun
    exact ⟨⟨_, position, _, hfailed, .inr (.inr rfl), rfl⟩, by simp [Deepest.merged, Deepest.empty]⟩
  · have hposition := htree.position_add
    obtain ⟨forest, hforest, hin⟩ := htree.forest hin
    rw [run] at hrun
    exact explains_first h hwithin hposition (.inl ⟨rfl, hnone⟩) hforest hin hrun

theorem explained_chain {parts : List (Grammar C)}
    (h : ∀ g ∈ parts, g.Explained names text root all) :
    (chain parts).Explained names text root all := by
  intro depth position input entries why htree hin hwithin hrun
  have hposition := htree.position_add
  obtain ⟨forest, hforest, hin⟩ := htree.forest hin
  rw [run] at hrun
  cases hall : runAll names parts input with
  | ok items =>
    rw [hall] at hrun
    cases hrun
  | error failure =>
    rw [hall] at hrun
    cases hrun
    exact explains_all h hwithin hposition hforest hin hall

/-! ## Grammars -/

mutual

/-- A trace that contains the tree of a failed run explains the failure, whatever was run. -/
theorem explained : (g : Grammar C) → g.Explained names text root all
  | .int _ => explained_leaf (by simp [kind, NodeKind.leaves])
  | .token _ => explained_leaf (by simp [kind, NodeKind.leaves])
  | .choice _ _ => explained_leaf (by simp [kind, NodeKind.leaves])
  | .oneOf alternatives => explained_oneOf (explained_of_mem alternatives)
  | .chain parts => explained_chain (explained_of_mem parts)
  | .many _ _ _ => explained_many
  | .opt _ => explained_opt
  | .doc _ _ inner =>
    explained_of_inner (explained inner) (fun _ => rfl) fun input why hrun => by
      rwa [run] at hrun
  | .player => explained_leaf (by simp [kind, NodeKind.leaves])
  | .space => explained_leaf (by simp [kind, NodeKind.leaves])
  | .map f inner =>
    explained_of_inner (explained inner) (fun _ => rfl) fun input why hrun => by
      rw [run] at hrun
      cases hinner : inner.run names input with
      | ok parsed =>
        rw [hinner] at hrun
        cases hrun
      | error failure =>
        rw [hinner] at hrun
        cases hrun
        rfl

theorem explained_of_mem : (gs : List (Grammar C)) → ∀ g ∈ gs, g.Explained names text root all
  | [] => fun _ hmem => absurd hmem List.not_mem_nil
  | g :: rest => List.forall_mem_cons.mpr ⟨explained g, explained_of_mem rest⟩

end

/-- What a complete recorder appends for a rejected reading explains the rejection, if its journal
has room. A record shows a failure, where the rejection points, of a node that decides by itself,
and whatever was expected is listed by the record of a leaf that failed at this place. -/
theorem explains_of_rejected (names : List String) (g : Grammar C) (input : String)
    (recorder : Recorder) (hcomplete : recorder.Complete)
    (hkeeps : recorder.journal.KeepsAll (g.parseTraced input names recorder).2.journal)
    (why : Rejection) (hrejected : (g.parseTraced input names recorder).1 = .error why) :
    ∃ written : List Record,
      (g.parseTraced input names recorder).2.journal.records =
        recorder.journal.records ++ written ∧
      (∃ record ∈ written, ∃ node position failure,
        record.event = .failed node.kind position failure ∧
        FailedIn names input.toList g (written.map (·.entry)) node position failure ∧
        node.Decides ∧ position + failure.offset = why.offset) ∧
      ∀ description ∈ why.expected, ∃ record ∈ written, ∃ node failure,
        record.event = .failed node.kind why.offset failure ∧
        FailedIn names input.toList g (written.map (·.entry)) node why.offset failure ∧
        node.kind ∈ NodeKind.leaves ∧ description ∈ failure.expected := by
  obtain ⟨written, hrecords, htree⟩ := exists_records_callTree hcomplete hkeeps
  have hrun : g.run names input.toList = .error why := by
    rw [← hrejected]
    exact (observe_reads names _ g 0 input.toList recorder).symm
  have hexplains := explained g htree (List.infix_refl _) .refl hrun
  rw [Nat.zero_add] at hexplains
  refine ⟨written, hrecords, ?_, fun description hmem => ?_⟩
  · obtain ⟨node, position, failure, hfailed, hdecides, hplace⟩ := hexplains.origin
    obtain ⟨record, hrecord, hevent⟩ := hfailed.exists_record
    exact ⟨record, hrecord, node, position, failure, hevent, hfailed, hdecides, hplace⟩
  · obtain ⟨node, failure, hfailed, hleaf, hlisted⟩ := hexplains.sources description hmem
    obtain ⟨record, hrecord, hevent⟩ := hfailed.exists_record
    exact ⟨record, hrecord, node, failure, hevent, hfailed, hleaf, hlisted⟩

/-- An order to attack all or some castle, or to pass. -/
def order : Grammar Unit :=
  .oneOf [.chain [.token "attack", .space, .oneOf [.token "all", .int .none]], .token "pass"]

theorem explains_of_rejected_order :
    (Recorder.ofSettings { enabled := true }).Complete ∧
      (Recorder.ofSettings { enabled := true }).journal.KeepsAll
        (order.parseTraced "attack x" [] (Recorder.ofSettings { enabled := true })).2.journal ∧
      (order.parseTraced "attack x" [] (Recorder.ofSettings { enabled := true })).1 =
        .error ⟨none, ["all", "number"], 7⟩ ∧
      ∃ written : List Record,
        (order.parseTraced "attack x" []
          (Recorder.ofSettings { enabled := true })).2.journal.records =
          (Recorder.ofSettings { enabled := true }).journal.records ++ written ∧
        (∃ record ∈ written, ∃ node position failure,
          record.event = .failed node.kind position failure ∧
          FailedIn [] "attack x".toList order (written.map (·.entry)) node position failure ∧
          node.Decides ∧ position + failure.offset = 7) ∧
        ∀ description ∈ ["all", "number"], ∃ record ∈ written, ∃ node failure,
          record.event = .failed node.kind 7 failure ∧
          FailedIn [] "attack x".toList order (written.map (·.entry)) node 7 failure ∧
          node.kind ∈ NodeKind.leaves ∧ description ∈ failure.expected := by
  have hcomplete : (Recorder.ofSettings { enabled := true }).Complete := ⟨rfl, rfl⟩
  have hkeeps : (Recorder.ofSettings { enabled := true }).journal.KeepsAll
      (order.parseTraced "attack x" [] (Recorder.ofSettings { enabled := true })).2.journal := rfl
  have hrejected : (order.parseTraced "attack x" [] (Recorder.ofSettings { enabled := true })).1 =
      .error ⟨none, ["all", "number"], 7⟩ := rfl
  exact ⟨hcomplete, hkeeps, hrejected,
    explains_of_rejected [] order "attack x" _ hcomplete hkeeps _ hrejected⟩

end Grammar

end Tabletop
