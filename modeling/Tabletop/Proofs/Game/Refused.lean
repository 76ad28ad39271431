import Tabletop.Proofs.Game.Boundary

/-!
# Refused submissions leave no mark

If the rules leave a state alone whenever they refuse a command, then a submission that
is refused might as well not have been made. This holds for lines as well, although a
line may apply some commands and then come upon one that is refused: such a line is
not refused. So refused submissions can be put into a run, or taken out of it, at any
place, and everyone else gets the same replies and refusals as before. What a run comes
to depends on its accepted submissions alone.
-/

namespace Tabletop

universe u v

namespace Rules

variable {S : Type u} {C : Type v}

/-- What the players get back for some submissions, in order. -/
def results (rules : Rules S C) (state : S) : List Submission → List (Except Refusal Reply)
  | [] => []
  | submission :: rest =>
    (rules.respond state submission).2 :: results rules (rules.respond state submission).1 rest

/-- What is replied to those submissions that are not refused. -/
def replies (rules : Rules S C) (state : S) (submissions : List Submission) : List Reply :=
  (rules.results state submissions).filterMap Except.toOption

/-- Those submissions that are not refused, each in the state that it meets with. -/
def accepted (rules : Rules S C) (state : S) : List Submission → List Submission
  | [] => []
  | submission :: rest =>
    match rules.respond state submission with
    | (next, .ok _) => submission :: accepted rules next rest
    | (next, .error _) => accepted rules next rest

/-- Submissions that would each be refused in a state. -/
def AllRefused (rules : Rules S C) (state : S) (submissions : List Submission) : Prop :=
  ∀ submission ∈ submissions, ∃ why, (rules.respond state submission).2 = .error why

variable {rules : Rules S C}

theorem results_append (state : S) (front back : List Submission) :
    rules.results state (front ++ back) =
      rules.results state front ++ rules.results (rules.after state front) back := by
  induction front generalizing state with
  | nil => rfl
  | cons submission front ih =>
    rw [List.cons_append, results, results, ih, List.cons_append, after_cons]

/-- A refused submission changes nothing. -/
theorem respond_of_refused (hkeeps : rules.KeepsRefused) {state : S} {submission : Submission}
    {why : Refusal} (h : (rules.respond state submission).2 = .error why) :
    (rules.respond state submission).1 = state := by
  obtain ⟨input, hcommand⟩ := command_of_refused (Prod.ext rfl h)
  exact state_of_refused hkeeps hcommand

/-- Submissions that would each be refused in a state can be made all together: they leave it as it
is, and each gets its own refusal. -/
theorem after_of_refused (hkeeps : rules.KeepsRefused) {state : S} {refused : List Submission}
    (h : rules.AllRefused state refused) :
    rules.after state refused = state ∧
      rules.results state refused = refused.map fun submission =>
        (rules.respond state submission).2 := by
  induction refused with
  | nil => exact ⟨rfl, rfl⟩
  | cons submission rest ih =>
    obtain ⟨why, hwhy⟩ := h submission List.mem_cons_self
    have hstate := respond_of_refused hkeeps hwhy
    obtain ⟨hafter, hresults⟩ := ih fun later hlater => h later (List.mem_cons_of_mem _ hlater)
    constructor
    · rw [after_cons, hstate, hafter]
    · rw [results, hstate, hresults, List.map_cons]

/-- Refused submissions in the midst of a run change neither where it leads nor what the others
get back. -/
theorem run_around_refused (hkeeps : rules.KeepsRefused) (state : S)
    (earlier refused later : List Submission)
    (h : rules.AllRefused (rules.after state earlier) refused) :
    rules.after state (earlier ++ refused ++ later) = rules.after state (earlier ++ later) ∧
      rules.results state (earlier ++ refused ++ later) =
        rules.results state earlier ++
          (refused.map fun submission =>
            (rules.respond (rules.after state earlier) submission).2) ++
          rules.results (rules.after state earlier) later ∧
      rules.results state (earlier ++ later) =
        rules.results state earlier ++ rules.results (rules.after state earlier) later := by
  obtain ⟨hafter, hresults⟩ := after_of_refused hkeeps h
  refine ⟨?_, ?_, results_append state earlier later⟩
  · rw [after_append, after_append, hafter, after_append]
  · rw [results_append, results_append, after_append, hafter, hresults]

/-- The accepted submissions alone lead to the same state, and get the same replies. -/
theorem run_accepted (hkeeps : rules.KeepsRefused) (state : S) (submissions : List Submission) :
    rules.after state (rules.accepted state submissions) = rules.after state submissions ∧
      rules.results state (rules.accepted state submissions) =
        (rules.replies state submissions).map .ok := by
  induction submissions generalizing state with
  | nil => exact ⟨rfl, rfl⟩
  | cons submission rest ih =>
    obtain ⟨hafter, hresults⟩ := ih (rules.respond state submission).1
    rcases hrespond : rules.respond state submission with ⟨next, result⟩
    rw [hrespond] at hafter hresults
    cases result with
    | error why =>
      -- Here the two runs part, but only by a submission that did nothing.
      obtain rfl : next = state := by
        have hstate := respond_of_refused hkeeps (congrArg Prod.snd hrespond)
        rw [hrespond] at hstate
        exact hstate
      rw [accepted, hrespond, after_cons, hrespond, replies, results, hrespond]
      exact ⟨hafter, hresults⟩
    | ok reply =>
      rw [accepted, hrespond, after_cons, after_cons, hrespond, replies, results, results,
        hrespond]
      exact ⟨hafter, congrArg _ hresults⟩

/-- Runs that differ in nothing but refused submissions lead to the same state, and their accepted
submissions get the same replies. -/
theorem run_eq_of_accepted_eq (hkeeps : rules.KeepsRefused) {state : S}
    {run other : List Submission} (h : rules.accepted state run = rules.accepted state other) :
    rules.after state run = rules.after state other ∧
      rules.replies state run = rules.replies state other := by
  obtain ⟨hrun, hreplies⟩ := run_accepted hkeeps state run
  obtain ⟨hother, hreplies'⟩ := run_accepted hkeeps state other
  constructor
  · rw [← hrun, h, hother]
  · rw [h, hreplies'] at hreplies
    exact ((List.map_inj_right fun _ _ => Except.ok.inj).mp hreplies).symm

end Rules

end Tabletop
