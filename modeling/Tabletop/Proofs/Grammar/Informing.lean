import Mathlib.Tactic.SplitIfs
import Tabletop.Proofs.Grammar.Nodes
import Tabletop.Proofs.Grammar.Opening

/-!
# Rejections have something to say

A rejection informs if it explains itself or lists what would have been accepted, and
these are the rejections whose text is not blank. Leaves always list something, and a
repetition always explains itself. An alternation drops failures that did not get far
enough, empty explanations among the others, and all but the wording of what is left; it
still informs because some failure got furthest and whatever that one had to say is kept.
Only an alternation of nothing and a choice between no candidates have nothing to say.
-/

namespace Tabletop

universe u

variable {C : Type u}

namespace Rejection

/-- A rejection that explains itself or lists what would have been accepted. -/
def Informs (why : Rejection) : Prop :=
  (∃ message ∈ why.message, message ≠ "") ∨ why.expected ≠ []

/-- The rejections that inform are those that show a player any text. -/
theorem text_ne_empty_iff {why : Rejection} : why.text ≠ "" ↔ why.Informs := by
  obtain ⟨message, expected, offset⟩ := why
  cases message <;> cases expected <;> simp [text, Informs, String.append_eq_empty_iff]

theorem explanations_ne_nil {failures : List Rejection} {why : Rejection} (hmem : why ∈ failures)
    {message : String} (hmessage : message ∈ why.message) (hspeaks : message ≠ "") :
    explanations failures ≠ [] := by
  refine List.ne_nil_of_mem (a := message) (List.mem_filter.mpr ⟨?_, decide_eq_true hspeaks⟩)
  exact List.mem_filterMap.mpr ⟨why, hmem, hmessage⟩

/-- Explanations that all say something say something together. -/
theorem exists_mem_jointly {said : List String} (hsome : said ≠ [])
    (hsay : ∀ message ∈ said, message ≠ "") : ∃ message ∈ jointly said, message ≠ "" := by
  cases said with
  | nil => exact absurd rfl hsome
  | cons first rest => exact ⟨_, rfl, Text.joined_ne_empty "or" hsome hsay⟩

/-- What is reported of some failures informs if each of them does. -/
theorem informs_summary {failures : List Rejection} (hsome : failures ≠ [])
    (hinform : ∀ why ∈ failures, why.Informs) : (summary failures).Informs := by
  have hlead : leaders (·.offset) failures ≠ [] := leaders_ne_nil hsome
  obtain ⟨why, hleads⟩ := List.exists_mem_of_ne_nil _ hlead
  rcases hinform why (List.mem_of_mem_filter hleads) with ⟨message, hmessage, hspeaks⟩ | hlists
  · refine .inl (exists_mem_jointly (explanations_ne_nil hleads hmessage hspeaks) ?_)
    intro said hsaid
    simpa using (List.mem_filter.mp hsaid).2
  · obtain ⟨description, hlisted⟩ := List.exists_mem_of_ne_nil _ hlists
    exact .inr (List.ne_nil_of_mem (List.mem_flatMap.mpr ⟨why, hleads, hlisted⟩))

end Rejection

namespace Grammar

/-- An alternation or a choice that has something to choose from, or any other node. -/
def IsOpen : Grammar C → Prop
  | .oneOf alternatives => alternatives ≠ []
  | .choice candidates _ => candidates ≠ []
  | _ => True

/-- In every alternation there is something to choose from, and so there is in every choice. -/
def Offers (g : Grammar C) : Prop :=
  g.Throughout IsOpen

variable {names : List String}

/-- A leaf lists what it would have accepted. -/
theorem informs_of_leaf (hnames : names ≠ []) {g : Grammar C} {input : List Char}
    {why : Rejection} (hleaf : g.kind ∈ NodeKind.leaves) (hopen : g.IsOpen)
    (hrun : g.run names input = .error why) : why.Informs := by
  refine .inr ?_
  cases g with
  | int bounds =>
    rw [run] at hrun
    rw [(Leaf.integer_rejects hrun).1]
    exact List.cons_ne_nil _ _
  | token word =>
    rw [run] at hrun
    rw [(Leaf.word_rejects hrun).1]
    exact List.cons_ne_nil _ _
  | choice candidates exact =>
    rw [run] at hrun
    rw [(Candidate.read_rejects hrun).1]
    exact mt List.map_eq_nil_iff.mp hopen
  | player =>
    rw [run] at hrun
    rw [(Candidate.read_rejects hrun).1, Candidate.map_name_ofPlayers]
    exact hnames
  | space =>
    rw [run] at hrun
    rw [(Leaf.blanks_rejects hrun).1]
    exact List.cons_ne_nil _ _
  | _ => simp [kind, NodeKind.leaves] at hleaf

theorem pervades_informs (hnames : names ≠ []) :
    Pervades names (IsOpen : Grammar C → Prop) Rejection.Informs where
  leaf := informs_of_leaf hnames
  repetition := by
    intro count items why houtcome
    obtain ⟨least, rfl⟩ := Items.rejection_of_outcome houtcome
    refine .inl ⟨_, rfl, ?_⟩
    simp [String.append_eq_empty_iff]
  alternation := by
    intro alternatives input failures hopen hfail hinform
    refine Rejection.informs_summary ?_ hinform
    rintro rfl
    cases hfail
    exact hopen rfl
  moved := fun _ hinforms => hinforms

/-- Where there is always something to choose from and somebody at the table, every rejection
explains itself or lists what would have been accepted, and shows a player some text. -/
theorem informs_of_rejected {g : Grammar C} (hoffers : g.Offers) (hnames : names ≠ [])
    {input : String} {why : Rejection} (h : g.parse input names = .error why) :
    ((∃ message ∈ why.message, message ≠ "") ∨ why.expected ≠ []) ∧ why.text ≠ "" := by
  have hinforms : why.Informs := (pervades_informs hnames).of_run hoffers h
  exact ⟨hinforms, Rejection.text_ne_empty_iff.mpr hinforms⟩

/-- A gift to somebody, a colour, or numbers to add up. -/
def move : Grammar Empty :=
  .oneOf [.chain [.token "give", .space, .player], .words ["red", "green"] true,
    .chain [.token "add", .doc "numbers" none
      (.many (.chain [.space, .int .none]) ⟨some 1, none⟩ (some (.token ",")))]]

theorem informs_of_rejected_move :
    move.Offers ∧ ["Mick", "Beth"] ≠ [] ∧
      move.parse "add some" ["Mick", "Beth"] =
        .error ⟨some "expected at least 1 items but could only parse 0", [], 3⟩ ∧
      ((∃ message ∈ some "expected at least 1 items but could only parse 0", message ≠ "") ∨
        ([] : List String) ≠ []) ∧
      Rejection.text ⟨some "expected at least 1 items but could only parse 0", [], 3⟩ ≠ "" := by
  have hoffers : move.Offers := by
    repeat' first
      | exact List.forall_mem_nil _
      | refine List.forall_mem_cons.mpr ⟨?_, ?_⟩
      | refine .node ?_ ?_
      | exact List.cons_ne_nil _ _
      | exact trivial
  have hnames : ["Mick", "Beth"] ≠ [] := List.cons_ne_nil _ _
  have hrejected : move.parse "add some" ["Mick", "Beth"] =
      .error ⟨some "expected at least 1 items but could only parse 0", [], 3⟩ := rfl
  exact ⟨hoffers, hnames, hrejected, informs_of_rejected hoffers hnames hrejected⟩

/-- An alternation of nothing has nothing to say, and neither has a choice between no candidates. -/
example : ∀ g ∈ [(oneOf [] : Grammar Empty), words [] false],
    g.parse "pass" ["Mick"] = .error .blank := by
  simp only [List.forall_mem_cons]
  exact ⟨rfl, rfl, fun _ h => absurd h List.not_mem_nil⟩

end Grammar

end Tabletop
