import Tabletop.Proofs.Game.Calls
import Tabletop.Proofs.Grammar.Conforming

/-!
# What gets through the boundary of a game

Players submit texts, as single commands or as lines of them, in any order and out of
turn if they like. A `Play` is what gets through to the game: a command that is legal
in the state it is applied to. `Rules.Plays` strings plays together, each in the state
that the one before it left, and every submission comes down to such a string, however
many commands its text holds and wherever it is refused.

So a property that legal commands keep is kept by all submissions. Nothing is assumed
about the rules: a command that the game refuses may change the state, and counts as a
play like any other.
-/

namespace Tabletop

universe u v

/-- A text from a player, and the names it may refer to. -/
structure Submission where
  names : List String
  player : Nat
  input : String
  /-- Whether the text may hold several commands. -/
  isLine : Bool

/-- A command that was applied to a state for a player. -/
structure Play (S : Type u) (C : Type v) where
  before : S
  player : Nat
  command : C

namespace Rules

variable {S : Type u} {C : Type v}

/-- What becomes of a submission. -/
def respond (rules : Rules S C) (state : S) (submission : Submission) :
    S × Except Refusal Reply :=
  if submission.isLine then
    rules.line submission.names state submission.player submission.input
  else rules.command submission.names state submission.player submission.input

/-- The state after some submissions. -/
def after (rules : Rules S C) (state : S) (submissions : List Submission) : S :=
  submissions.foldl (fun state submission => (rules.respond state submission).1) state

/-- A command that a player may give in a state: the game goes on, it is the player's turn, and
some text means this command in the grammar of the very state. -/
structure Legal (rules : Rules S C) (state : S) (player : Nat) (command : C) : Prop where
  unfinished : rules.isFinished state = false
  turn : rules.isTurn state player = true
  offered : ∃ grammar, rules.grammar state player = some grammar ∧
    ∃ text names parsed, grammar.parse text names = .ok parsed ∧ parsed.value = .custom command

/-- Legal commands applied one after the other, from a state to another. -/
inductive Plays (rules : Rules S C) : S → List (Play S C) → S → Prop where
  | none {state : S} : Plays rules state [] state
  | next {state last : S} {player : Nat} {command : C} {plays : List (Play S C)}
      (legal : rules.Legal state player command)
      (others : Plays rules (rules.apply state player command).1 plays last) :
      Plays rules state (⟨state, player, command⟩ :: plays) last

variable {rules : Rules S C} {names : List String} {player : Nat}

/-! ## Runs -/

@[simp]
theorem after_cons (state : S) (submission : Submission) (rest : List Submission) :
    rules.after state (submission :: rest) =
      rules.after (rules.respond state submission).1 rest := rfl

theorem after_append (state : S) (front back : List Submission) :
    rules.after state (front ++ back) = rules.after (rules.after state front) back :=
  List.foldl_append

/-! ## Plays -/

namespace Plays

variable {state middle last : S} {plays more : List (Play S C)}

theorem append (h : rules.Plays state plays middle) (hmore : rules.Plays middle more last) :
    rules.Plays state (plays ++ more) last := by
  induction h with
  | none => exact hmore
  | next legal _ ih => exact .next legal (ih hmore)

/-- What each legal command keeps is kept by any number of them. -/
theorem keeps {I : S → Prop}
    (happly : ∀ state player command, I state → rules.Legal state player command →
      I (rules.apply state player command).1)
    (h : rules.Plays state plays last) (hstate : I state) : I last := by
  induction h with
  | none => exact hstate
  | next legal _ ih => exact ih (happly _ _ _ hstate legal)

/-- Each of any number of plays is legal, and made in a state with whatever legal commands keep. -/
theorem legal_of_mem {I : S → Prop}
    (happly : ∀ state player command, I state → rules.Legal state player command →
      I (rules.apply state player command).1)
    (h : rules.Plays state plays last) (hstate : I state) :
    ∀ play ∈ plays, I play.before ∧ rules.Legal play.before play.player play.command := by
  induction h with
  | none => exact nofun
  | next legal _ ih =>
    intro play hmem
    rcases List.mem_cons.mp hmem with rfl | hlater
    · exact ⟨hstate, legal⟩
    · exact ih (happly _ _ _ hstate legal) play hlater

end Plays

theorem legal_of_interpret {state : S} {input rest : String} {command : C}
    (h : rules.interpret names state player input = .ok (command, rest)) :
    rules.Legal state player command := by
  obtain ⟨hfinished, hturn, grammar, parsed, hgrammar, hparsed, hvalue, -⟩ :=
    interpret_eq_ok_iff.mp h
  exact ⟨hfinished, hturn, grammar, hgrammar, input, names, parsed, hparsed, hvalue⟩

/-- A submission of one command that can be read is its play. -/
theorem after_of_interpret {state : S} {input rest : String} {command : C}
    (h : rules.interpret names state player input = .ok (command, rest))
    (later : List Submission) :
    rules.after state (⟨names, player, input, false⟩ :: later) =
      rules.after (rules.apply state player command).1 later := by
  rw [after_cons]
  show rules.after (rules.command names state player input).1 later = _
  rw [command_of_interpret h]

/-- A command is at most one play. -/
theorem command_plays (rules : Rules S C) (names : List String) (state : S) (player : Nat)
    (input : String) :
    ∃ plays, rules.Plays state plays (rules.command names state player input).1 := by
  cases hinterpret : rules.interpret names state player input with
  | error why =>
    rw [command_of_unread hinterpret]
    exact ⟨[], .none⟩
  | ok found =>
    obtain ⟨command, rest⟩ := found
    rw [command_of_interpret hinterpret]
    exact ⟨[⟨state, player, command⟩], .next (legal_of_interpret hinterpret) .none⟩

/-- Every further command of a line is interpreted in the state that the last one left. -/
theorem further_plays (rules : Rules S C) (names : List String) (player : Nat) (state : S)
    (reply : Reply) :
    ∃ plays, rules.Plays state plays (rules.further names player state reply).1 := by
  fun_induction further rules names player state reply with
  | case1 state reply _ next why hcommand =>
    -- The refused command may have changed the state, so it counts as well.
    have hplays := command_plays rules names state player reply.remaining
    rwa [hcommand] at hplays
  | case2 state reply _ next second hcommand _ ih =>
    obtain ⟨plays, hplays⟩ := command_plays rules names state player reply.remaining
    obtain ⟨more, hmore⟩ := ih
    rw [hcommand] at hplays
    exact ⟨plays ++ more, hplays.append hmore⟩
  | case3 state reply _ next second hcommand _ =>
    have hplays := command_plays rules names state player reply.remaining
    rwa [hcommand] at hplays
  | case4 state reply _ => exact ⟨[], .none⟩

theorem line_plays (rules : Rules S C) (names : List String) (state : S) (player : Nat)
    (input : String) :
    ∃ plays, rules.Plays state plays (rules.line names state player input).1 := by
  obtain ⟨plays, hplays⟩ :=
    command_plays rules names state player (Text.trimStart input)
  rcases hcommand : rules.command names state player (Text.trimStart input) with ⟨next, result⟩
  rw [hcommand] at hplays
  cases result with
  | error why =>
    rw [line_of_refused hcommand]
    exact ⟨plays, hplays⟩
  | ok first =>
    rw [line_of_command hcommand]
    split
    · obtain ⟨more, hmore⟩ := further_plays rules names player next
        ⟨first.notices, first.canUndo, Text.trimStart first.remaining⟩
      exact ⟨plays ++ more, hplays.append hmore⟩
    · exact ⟨plays, hplays⟩

/-- Whatever a submission does, it does by legal commands. -/
theorem respond_plays (rules : Rules S C) (state : S) (submission : Submission) :
    ∃ plays, rules.Plays state plays (rules.respond state submission).1 := by
  unfold respond
  split
  · exact line_plays rules _ _ _ _
  · exact command_plays rules _ _ _ _

theorem after_plays (rules : Rules S C) (state : S) (submissions : List Submission) :
    ∃ plays, rules.Plays state plays (rules.after state submissions) := by
  induction submissions generalizing state with
  | nil => exact ⟨[], .none⟩
  | cons submission rest ih =>
    obtain ⟨plays, hplays⟩ := respond_plays rules state submission
    obtain ⟨more, hmore⟩ := ih (rules.respond state submission).1
    exact ⟨plays ++ more, hplays.append hmore⟩

/-! ## Submissions that are refused -/

/-- A line is refused only if its first command is, so that a refusal is always that of one
command. -/
theorem command_of_refused {state next : S} {submission : Submission} {why : Refusal}
    (h : rules.respond state submission = (next, .error why)) :
    ∃ input, rules.command submission.names state submission.player input =
      (next, .error why) := by
  unfold respond at h
  split at h
  · rcases hcommand : rules.command submission.names state submission.player
      (Text.trimStart submission.input) with ⟨first, result⟩
    cases result with
    | error refused =>
      rw [line_of_refused hcommand] at h
      cases h
      exact ⟨_, hcommand⟩
    | ok reply =>
      rw [line_of_command hcommand] at h
      split at h
      · cases h
      · cases h
  · exact ⟨_, h⟩

theorem respond_of_interpret {state : S} {submission : Submission} {why : Refusal}
    (h : ∀ input, rules.interpret submission.names state submission.player input = .error why) :
    rules.respond state submission = (state, .error why) := by
  have hcommand (input : String) :
      rules.command submission.names state submission.player input = (state, .error why) :=
    command_of_unread (h input)
  unfold respond
  split
  · exact line_of_refused (hcommand _)
  · exact hcommand _

theorem respond_of_finished {state : S} (hfinished : rules.isFinished state = true)
    (submission : Submission) : rules.respond state submission = (state, .error .finished) := by
  refine respond_of_interpret fun input => ?_
  unfold interpret
  rw [if_pos hfinished]

theorem after_of_finished {state : S} (hfinished : rules.isFinished state = true)
    (submissions : List Submission) : rules.after state submissions = state := by
  induction submissions with
  | nil => rfl
  | cons submission rest ih => rw [after_cons, respond_of_finished hfinished, ih]

theorem respond_of_not_turn {state : S} {submission : Submission}
    (hfinished : rules.isFinished state = false)
    (hturn : rules.isTurn state submission.player = false) :
    rules.respond state submission = (state, .error .notYourTurn) := by
  refine respond_of_interpret fun input => ?_
  unfold interpret
  rw [hfinished, hturn]
  rfl

/-- An invariant of the legal commands is an invariant of the game: no submission breaks it,
whoever makes it and whatever it says. Finished games and other players' turns are out of reach. -/
theorem invariant_of_legal (rules : Rules S C) (I : S → Prop)
    (happly : ∀ state player command, I state → rules.Legal state player command →
      I (rules.apply state player command).1) :
    (∀ state submissions, I state → I (rules.after state submissions)) ∧
    (∀ state submission, rules.isFinished state = true →
      rules.respond state submission = (state, .error .finished)) ∧
    (∀ state submission, rules.isFinished state = false →
      rules.isTurn state submission.player = false →
      rules.respond state submission = (state, .error .notYourTurn)) := by
  refine ⟨fun state submissions hstate => ?_, fun state submission hfinished => ?_,
    fun state submission hfinished hturn => ?_⟩
  · obtain ⟨plays, hplays⟩ := after_plays rules state submissions
    exact hplays.keeps happly hstate
  · exact respond_of_finished hfinished submission
  · exact respond_of_not_turn hfinished hturn

/-- The script has no word for the end of the game. -/
theorem word_of_legal_scoring {state : Scripted.State} {player : Nat} {order : Scripted.Order}
    (h : (Scripted.rules scoring).Legal state player order) :
    order.word = "score" ∨ order.word = "bad" := by
  obtain ⟨grammar, hgrammar, text, names, parsed, hparsed, hvalue⟩ := h.offered
  have hconforms := Grammar.run_sound names grammar text.toList parsed hparsed
  rw [hvalue] at hconforms
  have hgrammar' : (scoring.grammars[player]?).join = some grammar := hgrammar
  match player with
  | 0 =>
    cases hgrammar'
    cases hconforms with
    | oneOf listed inner =>
      rcases List.mem_cons.mp listed with rfl | hlast
      · obtain ⟨before, _, hcustom⟩ := inner.of_map
        cases hcustom
        exact .inl rfl
      · obtain rfl := List.mem_singleton.mp hlast
        obtain ⟨before, _, hcustom⟩ := inner.of_map
        cases hcustom
        exact .inr rfl
  | 1 => cases hgrammar'
  | _ + 2 => cases hgrammar'

/-- Nobody can end a game whose grammars do not offer that. -/
theorem invariant_of_legal_scoring :
    (∀ state player order, state.ended = false →
      (Scripted.rules scoring).Legal state player order →
      ((Scripted.rules scoring).apply state player order).1.ended = false) ∧
    ∀ submissions,
      ((Scripted.rules scoring).after ⟨[0], [], [0, 0], false⟩ submissions).ended = false := by
  have happly (state : Scripted.State) (player : Nat) (order : Scripted.Order)
      (hstate : state.ended = false) (hlegal : (Scripted.rules scoring).Legal state player order) :
      ((Scripted.rules scoring).apply state player order).1.ended = false := by
    show (Scripted.apply scoring.players state player order).1.ended = false
    unfold Scripted.apply
    rcases word_of_legal_scoring hlegal with hword | hword
    · rw [hword]
      exact hstate
    · rw [hword]
      exact hstate
  have hinvariant := invariant_of_legal (Scripted.rules scoring) (·.ended = false) happly
  exact ⟨happly, fun submissions => hinvariant.1 _ submissions rfl⟩

end Rules

end Tabletop
