import Mathlib.Algebra.Ring.Nat
import Mathlib.Data.List.DropRight
import Tabletop.Proofs.Trace.Appending

/-!
# A journal is a window on its history

The history of a journal is every event that was ever pushed, numbered from 0, as if
there were room for all and nothing were cleared. What the journal holds is the end of
that history: the newest events since the last clear, as many of them as it has room
for. One operation keeps this so, hence any sequence of operations does, and the numbers
that are given out never start again.

Everything that a journal can be asked is a question about the records in that window,
and is answered as if the window were all there is.
-/

namespace Tabletop.Trace.Journal

/-- What can be done to a journal. -/
inductive Operation where
  | push (depth : Nat) (event : Event)
  | clear

namespace Operation

/-- What an operation writes down, if anything. -/
def written : Operation → Option Entry
  | .push depth event => some (depth, event)
  | .clear => none

end Operation

/-- A journal after an operation. -/
def perform (journal : Journal) : Operation → Journal
  | .push depth event => journal.push depth event
  | .clear => journal.clear

/-- A journal after some operations. -/
def performAll (journal : Journal) (operations : List Operation) : Journal :=
  operations.foldl perform journal

/-- The numbers that some operations are answered with. A clear is answered with none. -/
def numbers (journal : Journal) : List Operation → List Nat
  | [] => []
  | .push depth event :: rest => journal.next :: numbers (journal.push depth event) rest
  | .clear :: rest => numbers journal.clear rest

/-- Everything that was pushed, in order. -/
def pushed (operations : List Operation) : List Entry :=
  operations.filterMap (·.written)

/-- How many events were pushed since the last clear. -/
def sinceClear (operations : List Operation) : Nat :=
  (operations.rtakeWhile (·.written.isSome)).length

/-- A journal holds the end of its history. -/
structure Window (capacity : Nat) (operations : List Operation) (journal : Journal) : Prop where
  capacity_eq : journal.capacity = capacity
  next_eq : journal.next = (pushed operations).length
  isSuffix : journal.records <:+ numbered 0 (pushed operations)
  size_eq : journal.size = min capacity (sinceClear operations)

/-! ## Operations -/

theorem newest_suffix (capacity : Nat) (records : List Record) :
    newest capacity records <:+ records :=
  List.drop_suffix _ _

theorem length_newest (capacity : Nat) (records : List Record) :
    (newest capacity records).length = min capacity records.length := by
  rw [newest, List.length_drop]
  omega

theorem pushed_concat_push (operations : List Operation) (depth : Nat) (event : Event) :
    pushed (operations ++ [.push depth event]) = pushed operations ++ [(depth, event)] := by
  rw [pushed, List.filterMap_append]
  rfl

theorem pushed_concat_clear (operations : List Operation) :
    pushed (operations ++ [.clear]) = pushed operations := by
  rw [pushed, List.filterMap_append]
  exact List.append_nil _

theorem sinceClear_concat_push (operations : List Operation) (depth : Nat) (event : Event) :
    sinceClear (operations ++ [.push depth event]) = sinceClear operations + 1 := by
  rw [sinceClear, List.rtakeWhile_concat_pos _ _ _ rfl, List.length_append]
  rfl

theorem sinceClear_concat_clear (operations : List Operation) :
    sinceClear (operations ++ [.clear]) = 0 := by
  rw [sinceClear, List.rtakeWhile_concat_neg _ _ _ Bool.false_ne_true]
  rfl

namespace Window

variable {capacity : Nat} {operations : List Operation} {journal : Journal}

theorem start (capacity : Nat) : Window capacity [] (ofCapacity capacity) where
  capacity_eq := rfl
  next_eq := rfl
  isSuffix := List.suffix_rfl
  size_eq := (Nat.min_zero capacity).symm

theorem push (h : Window capacity operations journal) (depth : Nat) (event : Event) :
    Window capacity (operations ++ [.push depth event]) (journal.push depth event) where
  capacity_eq := h.capacity_eq
  next_eq := by
    rw [pushed_concat_push, List.length_append, ← h.next_eq]
    rfl
  isSuffix := by
    have hwider : journal.records ++ [⟨journal.next, depth, event⟩] <:+
        numbered 0 (pushed operations) ++ [⟨journal.next, depth, event⟩] :=
      List.suffix_append_self_iff.mpr h.isSuffix
    rw [pushed_concat_push, numbered_concat, Nat.zero_add, ← h.next_eq]
    exact (newest_suffix _ _).trans hwider
  size_eq := by
    have hsize := h.size_eq
    rw [size] at hsize
    rw [sinceClear_concat_push, size, Journal.push, length_newest, List.length_append, hsize,
      h.capacity_eq, List.length_singleton]
    omega

theorem clear (h : Window capacity operations journal) :
    Window capacity (operations ++ [.clear]) journal.clear where
  capacity_eq := h.capacity_eq
  next_eq := by
    rw [pushed_concat_clear]
    exact h.next_eq
  isSuffix := List.nil_suffix
  size_eq := by
    rw [sinceClear_concat_clear, Nat.min_zero]
    rfl

theorem perform (h : Window capacity operations journal) (operation : Operation) :
    Window capacity (operations ++ [operation]) (journal.perform operation) := by
  cases operation with
  | push depth event => exact h.push depth event
  | clear => exact h.clear

theorem performAll (h : Window capacity operations journal) (more : List Operation) :
    Window capacity (operations ++ more) (journal.performAll more) := by
  induction more generalizing operations journal with
  | nil =>
    rw [List.append_nil]
    exact h
  | cons operation more ih =>
    rw [← List.singleton_append, ← List.append_assoc]
    exact ih (h.perform operation)

/-- The records are numbered without gaps, up to the number that comes next. -/
theorem map_id_eq (h : Window capacity operations journal) :
    journal.records.map (·.id) = List.range' (journal.next - journal.size) journal.size := by
  have hle : journal.size ≤ journal.next := by
    have hlength := h.isSuffix.length_le
    rwa [length_numbered, ← h.next_eq] at hlength
  have hdrop := List.suffix_iff_eq_drop.mp (h.isSuffix.map (·.id))
  rw [map_id_numbered, List.length_range', List.length_map, ← h.next_eq, List.drop_range',
    ← size, Nat.zero_add, Nat.mul_one, Nat.sub_sub_self hle] at hdrop
  exact hdrop

end Window

/-- Every push is answered with the next number, whatever was dropped in between. -/
theorem numbers_eq (journal : Journal) (operations : List Operation) :
    journal.numbers operations = List.range' journal.next (pushed operations).length := by
  induction operations generalizing journal with
  | nil => rfl
  | cons operation rest ih =>
    cases operation with
    | push depth event =>
      rw [numbers, ih]
      exact List.range'_succ.symm
    | clear =>
      rw [numbers, ih]
      rfl

/-! ## Questions -/

/-- What a journal answers, in terms of the records that it holds. -/
structure Answers (journal : Journal) : Prop where
  recent_suffix : ∀ count, journal.recent count <:+ journal.records
  length_recent : ∀ count, (journal.recent count).length = min count journal.size
  last?_eq_some_iff : ∀ record,
    journal.last? = some record ↔ ∃ before, journal.records = before ++ [record]
  failures_sublist : journal.failures.Sublist journal.records
  mem_failures_iff : ∀ record, record ∈ journal.failures ↔
    record ∈ journal.records ∧ ∃ kind position why, record.event = .failed kind position why
  ofKind_sublist : ∀ kind, (journal.ofKind kind).Sublist journal.records
  mem_ofKind_iff : ∀ kind record, record ∈ journal.ofKind kind ↔
    record ∈ journal.records ∧ record.event.kind = kind
  count_eq : journal.summary.count = journal.size
  sum_eventCounts : (journal.summary.eventCounts.map (·.2)).sum = journal.size
  names_nodup : (journal.summary.eventCounts.map (·.1)).Nodup
  mem_eventCounts_iff : ∀ name count, (name, count) ∈ journal.summary.eventCounts ↔
    0 < count ∧ count = journal.records.countP (·.event.typeName = name)
  greatestDepth_eq_none_iff : journal.summary.greatestDepth = none ↔ journal.records = []
  greatestDepth_eq_some_iff : ∀ depth, journal.summary.greatestDepth = some depth ↔
    (∃ record ∈ journal.records, record.depth = depth) ∧
      ∀ record ∈ journal.records, record.depth ≤ depth

/-- The names of the types of events. -/
def typeNames : List String :=
  ["attempt", "matched", "failed"]

theorem typeName_mem (event : Event) : event.typeName ∈ typeNames := by
  cases event <;> simp [Event.typeName, typeNames]

theorem isFailure_iff (event : Event) :
    event.isFailure = true ↔ ∃ kind position why, event = .failed kind position why := by
  cases event <;> simp [Event.isFailure]

/-- Every record is of one of the types. -/
theorem sum_countP_typeName (records : List Record) :
    (typeNames.map fun name => records.countP (·.event.typeName = name)).sum =
      records.length := by
  induction records with
  | nil => rfl
  | cons record records ih =>
    have hone : (if record.event.typeName = "attempt" then 1 else 0) +
        ((if record.event.typeName = "matched" then 1 else 0) +
          (if record.event.typeName = "failed" then 1 else 0)) = 1 := by
      cases record.event <;> rfl
    simp only [typeNames, List.map_cons, List.map_nil, List.sum_cons, List.sum_nil] at ih
    simp only [typeNames, List.map_cons, List.map_nil, List.sum_cons, List.sum_nil,
      List.countP_cons, List.length_cons, decide_eq_true_eq]
    omega

theorem sum_filter_ne_zero (counts : List (String × Nat)) :
    ((counts.filter (·.2 ≠ 0)).map (·.2)).sum = (counts.map (·.2)).sum := by
  induction counts with
  | nil => rfl
  | cons entry counts ih =>
    by_cases hzero : entry.2 = 0
    · rw [List.filter_cons_of_neg (by simpa using hzero), ih, List.map_cons, List.sum_cons, hzero,
        Nat.zero_add]
    · rw [List.filter_cons_of_pos (by simpa using hzero), List.map_cons, List.map_cons,
        List.sum_cons, List.sum_cons, ih]

theorem mem_eventCounts_iff (journal : Journal) (name : String) (count : Nat) :
    (name, count) ∈ journal.eventCounts ↔
      0 < count ∧ count = journal.records.countP (·.event.typeName = name) := by
  rw [eventCounts, List.mem_filter, List.mem_map, decide_eq_true_eq, Nat.pos_iff_ne_zero, and_comm]
  refine and_congr_right fun hcount => ?_
  constructor
  · rintro ⟨other, -, heq⟩
    obtain ⟨rfl, rfl⟩ := Prod.mk.inj heq
    rfl
  · intro heq
    -- a type that does not occur in the list of types would have no records
    obtain ⟨record, -, hname⟩ := List.countP_pos_iff.mp (heq ▸ Nat.pos_of_ne_zero hcount)
    rw [decide_eq_true_eq] at hname
    exact ⟨name, hname ▸ typeName_mem record.event, by rw [heq]⟩

theorem answers (journal : Journal) : Answers journal where
  recent_suffix count := newest_suffix count journal.records
  length_recent count := length_newest count journal.records
  last?_eq_some_iff record := List.getLast?_eq_some_iff
  failures_sublist := List.filter_sublist
  mem_failures_iff record := by rw [failures, List.mem_filter, isFailure_iff]
  ofKind_sublist kind := List.filter_sublist
  mem_ofKind_iff kind record := by rw [ofKind, List.mem_filter, decide_eq_true_eq]
  count_eq := rfl
  sum_eventCounts := by
    have hsum := sum_countP_typeName journal.records
    rw [summary, eventCounts, sum_filter_ne_zero, List.map_map]
    exact hsum
  names_nodup := by
    have hnames : (journal.eventCounts.map Prod.fst).Sublist typeNames :=
      List.filter_sublist.map Prod.fst
    exact hnames.nodup (by decide)
  mem_eventCounts_iff := journal.mem_eventCounts_iff
  greatestDepth_eq_none_iff := by
    rw [summary, List.max?_eq_none_iff, List.map_eq_nil_iff]
  greatestDepth_eq_some_iff depth := by
    rw [summary, List.max?_eq_some_iff, List.mem_map, List.forall_mem_map]

/-- After any operations on a new journal: the pushes were answered with the numbers from 0 on,
the journal holds the newest events since the last clear under their own numbers, which follow one
another, and its answers are about these. No number exceeds that of the operations, so that words
are enough for numbering unless there are as many operations as words. -/
theorem window_of_operations (capacity : Nat) (operations : List Operation) :
    let journal := (ofCapacity capacity).performAll operations
    (ofCapacity capacity).numbers operations = List.range (pushed operations).length ∧
      Window capacity operations journal ∧
      journal.records.map (·.id) = List.range' (journal.next - journal.size) journal.size ∧
      journal.next ≤ operations.length ∧
      Answers journal := by
  intro journal
  have hwindow : Window capacity operations journal := by
    have hperformed := (Window.start capacity).performAll operations
    rwa [List.nil_append] at hperformed
  refine ⟨?_, hwindow, hwindow.map_id_eq, ?_, journal.answers⟩
  · rw [numbers_eq, List.range_eq_range']
    rfl
  · rw [hwindow.next_eq]
    exact List.length_filterMap_le _ _

/-- Of three events after a clear the last two are held, and the clear did not give back the
numbers of those before it. -/
example :
    let operations : List Operation := [.push 0 (.attempt .chain 0), .push 1 (.attempt .token 0),
      .clear, .push 0 (.attempt .opt 0), .push 1 (.attempt .int 0), .push 1 (.failed .int 0 .blank)]
    (ofCapacity 2).numbers operations = [0, 1, 2, 3, 4] ∧
      ((ofCapacity 2).performAll operations).records =
        [⟨3, 1, .attempt .int 0⟩, ⟨4, 1, .failed .int 0 .blank⟩] := by
  decide

end Tabletop.Trace.Journal
