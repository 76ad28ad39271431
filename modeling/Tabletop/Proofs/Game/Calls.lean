import Tabletop.Game.Line
import Tabletop.Proofs.Grammar.Splitting
import Tabletop.Scripted
import Tabletop.Siege

/-!
# A line is a sequence of calls

`Rules.line` folds the replies of the commands in a line into one reply as it goes.
Here the commands are kept apart: a `Call` is one successful use of `Rules.command`,
and `Rules.Sequence` says which calls may follow each other. A line makes a sequence
of calls that cannot be continued, and its reply is the sum of their replies. This
needs rules that leave a state alone when they refuse a command; nothing is assumed
about their grammars.
-/

namespace Tabletop

universe u v

/-- A command that was taken: the state and text it was taken from, and what came of it. -/
structure Call (S : Type u) where
  before : S
  text : String
  after : S
  reply : Reply

namespace Call

variable {S : Type u}

/-- The text left to a further call. -/
def rest (call : Call S) : String :=
  Text.trimStart call.reply.remaining

/-- Whether a call used up at least one byte of its text. -/
def Progressed (call : Call S) : Prop :=
  call.reply.remaining.utf8ByteSize < call.text.utf8ByteSize

/-- What calls come to: all notices in order, to be undone only if each call may be, and the text
left in the end. -/
def total (calls : List (Call S)) (left : String) : Reply where
  notices := calls.flatMap (·.reply.notices)
  canUndo := calls.all (·.reply.canUndo)
  remaining := left

theorem total_singleton (call : Call S) :
    total [call] call.rest = ⟨call.reply.notices, call.reply.canUndo, call.rest⟩ := by
  simp only [total, List.flatMap_singleton, List.all_cons, List.all_nil, Bool.and_true]

theorem total_followedBy (calls : List (Call S)) (left : String) (call : Call S) :
    (total calls left).followedBy call.reply = total (calls ++ [call]) call.rest := by
  simp only [total, Reply.followedBy, rest, List.flatMap_append, List.flatMap_singleton,
    List.all_append, List.all_cons, List.all_nil, Bool.and_true]

end Call

/-- Proper suffixes are shorter, by whichever unit. -/
theorem Text.length_lt_iff_of_suffix {tail text : String} (h : tail.toList <:+ text.toList) :
    tail.length < text.length ↔ tail.utf8ByteSize < text.utf8ByteSize := by
  obtain ⟨front, hfront⟩ := h
  have hlength := congrArg List.length hfront
  have hwidth := congrArg Text.width hfront
  rw [List.length_append, String.length_toList, String.length_toList] at hlength
  rw [Text.width_append, Text.width_toList, Text.width_toList] at hwidth
  have hempty : front.length = 0 ↔ Text.width front = 0 := by
    rw [List.length_eq_zero_iff, Text.width_eq_zero_iff]
  omega

theorem Text.trimStart_suffix (text : String) : (Text.trimStart text).toList <:+ text.toList := by
  rw [Text.toList_trimStart]
  exact List.dropWhile_suffix _

namespace Rules

variable {S : Type u} {C : Type v}

/-- Rules that leave a state as it is when they refuse a command. -/
def KeepsRefused (rules : Rules S C) : Prop :=
  ∀ state player command next why,
    rules.apply state player command = (next, .error why) → next = state

/-- What a further call needs of the one before it. -/
structure GoesOn (rules : Rules S C) (player : Nat) (call : Call S) : Prop where
  progressed : call.Progressed
  nonempty : call.rest ≠ ""
  unfinished : rules.isFinished call.after = false
  turn : rules.isTurn call.after player = true

/-- Calls by one player, each from the state and the text that the one before it left. They are
listed in order, and the last one again on its own. -/
inductive Sequence (rules : Rules S C) (names : List String) (player : Nat) (state : S)
    (text : String) : List (Call S) → Call S → Prop where
  | first {next : S} {reply : Reply}
      (hcommand : rules.command names state player text = (next, .ok reply)) :
      Sequence rules names player state text
        [⟨state, text, next, reply⟩] ⟨state, text, next, reply⟩
  | further {calls : List (Call S)} {last : Call S} {next : S} {reply : Reply}
      (hcalls : Sequence rules names player state text calls last)
      (hgoes : rules.GoesOn player last)
      (hcommand : rules.command names last.after player last.rest = (next, .ok reply)) :
      Sequence rules names player state text
        (calls ++ [⟨last.after, last.rest, next, reply⟩]) ⟨last.after, last.rest, next, reply⟩

/-- Why no call follows the last one. -/
inductive Ends (rules : Rules S C) (names : List String) (player : Nat) (last : Call S) : Prop where
  | stalled (h : ¬ last.Progressed)
  | usedUp (h : last.rest = "")
  | finished (h : rules.isFinished last.after = true)
  | turnPassed (h : rules.isTurn last.after player = false)
  | refused (why : Refusal)
      (h : rules.command names last.after player last.rest = (last.after, .error why))

variable {rules : Rules S C} {names : List String} {player : Nat}

/-! ## Single commands -/

theorem mayContinue_eq_true_iff {state : S} {text : String} :
    rules.mayContinue state player text = true ↔
      text ≠ "" ∧ rules.isFinished state = false ∧ rules.isTurn state player = true := by
  unfold mayContinue
  rw [Bool.and_eq_true, Bool.and_eq_true, Bool.not_eq_true', Bool.not_eq_true',
    String.isEmpty_eq_false_iff, and_assoc]

/-- What it takes for a text to be read as a command. -/
theorem interpret_eq_ok_iff {state : S} {input rest : String} {command : C} :
    rules.interpret names state player input = .ok (command, rest) ↔
      rules.isFinished state = false ∧ rules.isTurn state player = true ∧
        ∃ grammar parsed, rules.grammar state player = some grammar ∧
          grammar.parse input names = .ok parsed ∧ parsed.value = .custom command ∧
            rest = .ofList parsed.remaining := by
  unfold interpret
  constructor
  · intro h
    split at h
    · cases h
    · rename_i hfinished
      split at h
      · cases h
      · rename_i hturn
        split at h
        · cases h
        · rename_i grammar hgrammar
          split at h
          · cases h
          · rename_i parsed hparsed
            split at h
            · rename_i hvalue
              cases h
              exact ⟨Bool.eq_false_iff.mpr hfinished, by simpa using hturn, grammar, parsed,
                hgrammar, hparsed, hvalue, rfl⟩
            · cases h
  · rintro ⟨hfinished, hturn, grammar, parsed, hgrammar, hparsed, hvalue, rfl⟩
    rw [hfinished, hturn, hgrammar]
    dsimp only
    rw [hparsed]
    dsimp only
    rw [hvalue]
    rfl

theorem suffix_of_interpret {state : S} {input rest : String} {command : C}
    (h : rules.interpret names state player input = .ok (command, rest)) :
    rest.toList <:+ input.toList := by
  obtain ⟨-, -, grammar, parsed, -, hparsed, -, rfl⟩ := interpret_eq_ok_iff.mp h
  have hfit := Grammar.run_fits names grammar input.toList
  have hrun : grammar.run names input.toList = .ok parsed := hparsed
  rw [hrun] at hfit
  rw [String.toList_ofList]
  exact ⟨parsed.consumed, hfit.split⟩

/-- A text that is not read as a command is refused without a try. -/
theorem command_of_unread {state : S} {input : String} {why : Refusal}
    (h : rules.interpret names state player input = .error why) :
    rules.command names state player input = (state, .error why) := by
  unfold command
  rw [h]

/-- A text that is read as a command does what the command does. -/
theorem command_of_interpret {state : S} {input rest : String} {command : C}
    (h : rules.interpret names state player input = .ok (command, rest)) :
    rules.command names state player input =
      ((rules.apply state player command).1, (rules.apply state player command).2.map
        fun effect => ⟨effect.notices, effect.canUndo, rest⟩) := by
  unfold Rules.command
  rw [h]
  dsimp only
  rcases rules.apply state player command with ⟨next, why | effect⟩
  · rfl
  · rfl

/-- A command leaves an end of the text it is taken from. -/
theorem suffix_of_command {state next : S} {input : String} {reply : Reply}
    (h : rules.command names state player input = (next, .ok reply)) :
    reply.remaining.toList <:+ input.toList := by
  unfold command at h
  split at h
  · cases h
  · rename_i command rest hinterpret
    split at h
    · cases h
    · cases h
      exact suffix_of_interpret hinterpret

/-- A refused command changes nothing. -/
theorem state_of_refused (hkeeps : rules.KeepsRefused) {state next : S} {input : String}
    {why : Refusal} (h : rules.command names state player input = (next, .error why)) :
    next = state := by
  unfold command at h
  split at h
  · cases h
    rfl
  · split at h
    · rename_i happly
      cases h
      exact hkeeps _ _ _ _ _ happly
    · cases h

/-! ## Games that keep what they refuse -/

/-- A scripted game changes nothing when it refuses an order. -/
theorem keepsRefused_scripted (script : Scripted.Script) :
    (Scripted.rules script).KeepsRefused := by
  intro state player order next why h
  have h' : Scripted.apply script.players state player order = (next, .error why) := h
  unfold Scripted.apply at h'
  dsimp only at h'
  split at h' <;> cases h'
  · rfl
  · rfl

/-- The siege changes nothing when it refuses a command; not even a die is rolled. -/
theorem keepsRefused_siege : Siege.rules.KeepsRefused := by
  intro state player command next why h
  have h' : Siege.apply state player command = (next, .error why) := h
  unfold Siege.apply at h'
  split at h'
  · unfold Siege.placeBid at h'
    split at h'
    · cases h'
      rfl
    · split at h'
      · cases h'
        rfl
      · dsimp only at h'
        split at h' <;> cases h'
  · unfold Siege.storm at h'
    split at h'
    · cases h'
      rfl
    · dsimp only at h'
      split at h' <;> cases h'
  · cases h'
  · cases h'
    rfl

/-! ## Sequences of calls -/

theorem Ends.not_further {last : Call S} {next : S} {reply : Reply}
    (h : rules.Ends names player last) (hgoes : rules.GoesOn player last)
    (hcommand : rules.command names last.after player last.rest = (next, .ok reply)) : False := by
  cases h with
  | stalled h => exact h hgoes.progressed
  | usedUp h => exact hgoes.nonempty h
  | finished h =>
    rw [hgoes.unfinished] at h
    cases h
  | turnPassed h =>
    rw [hgoes.turn] at h
    cases h
  | refused why h =>
    rw [hcommand] at h
    cases h

namespace Sequence

variable {state : S} {text : String} {calls : List (Call S)} {last : Call S}

theorem length_pos (h : rules.Sequence names player state text calls last) :
    0 < calls.length := by
  cases h with
  | first _ => exact Nat.one_pos
  | further _ _ _ =>
    rw [List.length_append, List.length_singleton]
    omega

/-- The last call was made on the text it names. -/
theorem command_last (h : rules.Sequence names player state text calls last) :
    rules.command names last.before player last.text = (last.after, .ok last.reply) := by
  cases h with
  | first hcommand => exact hcommand
  | further _ _ hcommand => exact hcommand

/-- What is left after any number of calls is an end of the text they started from. -/
theorem rest_suffix (h : rules.Sequence names player state text calls last) :
    last.rest.toList <:+ text.toList := by
  induction h with
  | first hcommand => exact (Text.trimStart_suffix _).trans (suffix_of_command hcommand)
  | further _ _ hcommand ih =>
    exact ((Text.trimStart_suffix _).trans (suffix_of_command hcommand)).trans ih

/-- The line counts characters, and that tells it whether bytes were used up. -/
theorem progressed_iff (h : rules.Sequence names player state text calls last) :
    last.reply.remaining.length < last.text.length ↔ last.Progressed :=
  Text.length_lt_iff_of_suffix (suffix_of_command h.command_last)

/-- Sequences of the same number of calls from the same start are the same. -/
theorem eq_of_length (h : rules.Sequence names player state text calls last)
    {calls' : List (Call S)} {last' : Call S}
    (h' : rules.Sequence names player state text calls' last')
    (hlength : calls.length = calls'.length) : calls = calls' ∧ last = last' := by
  induction h generalizing calls' last' with
  | first hcommand =>
    cases h' with
    | first hcommand' =>
      rw [hcommand] at hcommand'
      cases hcommand'
      exact ⟨rfl, rfl⟩
    | further hcalls' _ _ =>
      rw [List.length_append, List.length_singleton, List.length_singleton] at hlength
      have := hcalls'.length_pos
      omega
  | further hcalls _ hcommand ih =>
    cases h' with
    | first _ =>
      rw [List.length_append, List.length_singleton, List.length_singleton] at hlength
      have := hcalls.length_pos
      omega
    | further hcalls' _ hcommand' =>
      rw [List.length_append, List.length_append] at hlength
      obtain ⟨rfl, rfl⟩ := ih hcalls' (Nat.add_right_cancel hlength)
      rw [hcommand] at hcommand'
      cases hcommand'
      exact ⟨rfl, rfl⟩

/-- A longer sequence goes on from every shorter one. -/
theorem goes_on_of_length_lt (h : rules.Sequence names player state text calls last)
    {calls' : List (Call S)} {last' : Call S}
    (h' : rules.Sequence names player state text calls' last')
    (hlength : calls.length < calls'.length) : ¬ rules.Ends names player last := by
  induction h' with
  | first _ =>
    have := h.length_pos
    rw [List.length_singleton] at hlength
    omega
  | further hcalls' hgoes hcommand ih =>
    rw [List.length_append, List.length_singleton] at hlength
    rcases Nat.lt_or_eq_of_le (Nat.le_of_lt_succ hlength) with hlt | heq
    · exact ih hlt
    · obtain ⟨rfl, rfl⟩ := h.eq_of_length hcalls' heq
      exact fun hends => hends.not_further hgoes hcommand

/-- There is only one sequence of calls that cannot be continued. -/
theorem unique (h : rules.Sequence names player state text calls last)
    (hends : rules.Ends names player last) {calls' : List (Call S)} {last' : Call S}
    (h' : rules.Sequence names player state text calls' last')
    (hends' : rules.Ends names player last') : calls = calls' ∧ last = last' := by
  rcases Nat.lt_trichotomy calls.length calls'.length with hlt | heq | hgt
  · exact absurd hends (h.goes_on_of_length_lt h' hlt)
  · exact h.eq_of_length h' heq
  · exact absurd hends' (h'.goes_on_of_length_lt h hgt)

end Sequence

/-! ## Lines -/

theorem line_of_refused {state next : S} {input : String} {why : Refusal}
    (h : rules.command names state player (Text.trimStart input) = (next, .error why)) :
    rules.line names state player input = (next, .error why) := by
  unfold line
  dsimp only
  rw [h]

/-- The first call of a line makes its reply, and the rest of the line only if it progressed. -/
theorem line_of_command {state next : S} {input : String} {first : Reply}
    (h : rules.command names state player (Text.trimStart input) = (next, .ok first)) :
    rules.line names state player input =
      if first.remaining.length < (Text.trimStart input).length then
        ((rules.further names player next
            ⟨first.notices, first.canUndo, Text.trimStart first.remaining⟩).1,
          .ok (rules.further names player next
            ⟨first.notices, first.canUndo, Text.trimStart first.remaining⟩).2)
      else (next, .ok ⟨first.notices, first.canUndo, Text.trimStart first.remaining⟩) := by
  unfold line
  dsimp only
  rw [h]

/-- The invariant of a line: from the total of a sequence whose last call progressed, the line
goes on to the total of a sequence that cannot be continued. -/
theorem further_total (hkeeps : rules.KeepsRefused) {start state : S} {text : String}
    {reply : Reply} {calls : List (Call S)} {last : Call S}
    (hcalls : rules.Sequence names player start text calls last) (hprogressed : last.Progressed)
    (hstate : last.after = state) (hreply : Call.total calls last.rest = reply) :
    ∃ calls last, rules.Sequence names player start text calls last ∧
      rules.Ends names player last ∧
      rules.further names player state reply = (last.after, Call.total calls last.rest) := by
  fun_induction further rules names player state reply generalizing calls last with
  | case1 state reply hmay next why hcommand =>
    subst hstate hreply
    -- The refused text is what the last call left, and the refusal changed nothing.
    obtain rfl : next = last.after := state_of_refused hkeeps hcommand
    exact ⟨calls, last, hcalls, .refused why hcommand, rfl⟩
  | case2 state reply hmay next second hcommand hshorter ih =>
    subst hstate hreply
    obtain ⟨hnonempty, hunfinished, hturn⟩ := mayContinue_eq_true_iff.mp hmay
    have hnext := hcalls.further ⟨hprogressed, hnonempty, hunfinished, hturn⟩ hcommand
    exact ih hnext (hnext.progressed_iff.mp hshorter) rfl (Call.total_followedBy _ _ _).symm
  | case3 state reply hmay next second hcommand hshorter =>
    subst hstate hreply
    obtain ⟨hnonempty, hunfinished, hturn⟩ := mayContinue_eq_true_iff.mp hmay
    have hnext := hcalls.further ⟨hprogressed, hnonempty, hunfinished, hturn⟩ hcommand
    have hstalled := mt hnext.progressed_iff.mpr hshorter
    refine ⟨_, _, hnext, .stalled hstalled, ?_⟩
    rw [← Call.total_followedBy]
  | case4 state reply hmay =>
    subst hstate hreply
    refine ⟨calls, last, hcalls, ?_, rfl⟩
    rw [mayContinue_eq_true_iff] at hmay
    by_cases hempty : last.rest = ""
    · exact .usedUp hempty
    · cases hfinished : rules.isFinished last.after with
      | true => exact .finished hfinished
      | false =>
        refine .turnPassed (Bool.eq_false_iff.mpr fun hturn => ?_)
        exact hmay ⟨hempty, hfinished, hturn⟩

/-- A line is refused if its first command is, and otherwise it is a sequence of calls that
cannot be continued. -/
theorem line_sequence (rules : Rules S C) (hkeeps : rules.KeepsRefused) (names : List String)
    (state : S) (player : Nat) (input : String) :
    (∀ next why, rules.command names state player (Text.trimStart input) = (next, .error why) →
      rules.line names state player input = (state, .error why)) ∧
    (∀ next first, rules.command names state player (Text.trimStart input) = (next, .ok first) →
      ∃ calls last, rules.Sequence names player state (Text.trimStart input) calls last ∧
        rules.Ends names player last ∧ last.rest.toList <:+ input.toList ∧
        rules.line names state player input =
          (last.after, .ok (Call.total calls last.rest))) := by
  constructor
  · intro next why hcommand
    obtain rfl : next = state := state_of_refused hkeeps hcommand
    exact line_of_refused hcommand
  · intro next first hcommand
    have hfirst := Sequence.first hcommand
    have hreply := Call.total_singleton ⟨state, Text.trimStart input, next, first⟩
    rw [line_of_command hcommand]
    split_ifs with hshorter
    · obtain ⟨calls, last, hcalls, hends, hfurther⟩ :=
        further_total hkeeps hfirst (hfirst.progressed_iff.mp hshorter) rfl hreply
      have hrest := hcalls.rest_suffix.trans (Text.trimStart_suffix input)
      refine ⟨calls, last, hcalls, hends, hrest, ?_⟩
      rw [Call.rest] at hfurther
      rw [hfurther]
    · have hstalled := mt hfirst.progressed_iff.mpr hshorter
      have hrest := hfirst.rest_suffix.trans (Text.trimStart_suffix input)
      refine ⟨_, _, hfirst, .stalled hstalled, hrest, ?_⟩
      rw [hreply]
      rfl

/-- An order that consists of a word alone. -/
def orderGrammar (word : String) : Grammar Scripted.Order :=
  .map (fun value => .custom (.mk word value)) (.token word)

/-- A script whose first player may score, or give an order that is refused. -/
def scoring : Scripted.Script where
  players := 2
  counts := [2]
  grammars := [some (.oneOf [orderGrammar "score", orderGrammar "bad"]), none]

theorem line_sequence_of_scores :
    (Scripted.rules scoring).KeepsRefused ∧
      ∃ calls last,
        (Scripted.rules scoring).Sequence [] 0 ⟨[0], [], [0, 0], false⟩
          (Text.trimStart "  score SCORE bad") calls last ∧
        (Scripted.rules scoring).Ends [] 0 last ∧
        last.rest.toList <:+ "  score SCORE bad".toList ∧
        (Scripted.rules scoring).line [] ⟨[0], [], [0, 0], false⟩ 0 "  score SCORE bad" =
          (last.after, .ok (Call.total calls last.rest)) := by
  have hkeeps := keepsRefused_scripted scoring
  have hcommand : (Scripted.rules scoring).command [] ⟨[0], [], [0, 0], false⟩ 0
      (Text.trimStart "  score SCORE bad") =
        (⟨[0], [], [1, 0], false⟩, .ok ⟨[.toAll "player 0 scores 1"], true, " SCORE bad"⟩) := rfl
  exact ⟨hkeeps, (line_sequence _ hkeeps [] _ 0 "  score SCORE bad").2 _ _ hcommand⟩

end Rules

end Tabletop
