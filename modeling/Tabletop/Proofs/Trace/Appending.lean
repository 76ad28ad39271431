import Tabletop.Trace.Recorder

/-!
# What a recorder appends

A recorder writes down the events that it wants, which depends on their depth and on
nothing else, and leaves everything but its journal as it was. Whether the journal
still holds all of them afterwards is a matter of room, and shows in two numbers: a
journal that has dropped nothing is longer by as many records as it has numbered in
between. The new records then stand behind the old ones, numbered without gaps.
-/

namespace Tabletop.Trace

/-- Nothing was dropped between two states of a journal: for every number that was given out it has
grown by one record. -/
def Journal.KeepsAll (before after : Journal) : Prop :=
  after.size = before.size + (after.next - before.next)

/-- A recorder that records every event. -/
structure Recorder.Complete (recorder : Recorder) : Prop where
  enabled : recorder.settings.enabled = true
  unlimited : recorder.settings.maxDepth = none

/-- An event and the depth at which it happened. -/
abbrev Entry := Nat × Event

/-- What a record says, without its number. -/
def Record.entry (record : Record) : Entry :=
  (record.depth, record.event)

/-- Records some events in order. -/
def Recorder.recordAll (recorder : Recorder) (entries : List Entry) : Recorder :=
  entries.foldl (fun recorder (depth, event) => recorder.record depth event) recorder

namespace Journal

/-- Writes some events in order, wanted or not. -/
def pushAll (journal : Journal) (entries : List Entry) : Journal :=
  entries.foldl (fun journal (depth, event) => journal.push depth event) journal

/-- The records of some events, numbered in order. -/
def numbered (next : Nat) : List Entry → List Record
  | [] => []
  | (depth, event) :: rest => ⟨next, depth, event⟩ :: numbered (next + 1) rest

@[simp]
theorem map_entry_numbered (next : Nat) (entries : List Entry) :
    (numbered next entries).map (·.entry) = entries := by
  induction entries generalizing next with
  | nil => rfl
  | cons entry entries ih => rw [numbered, List.map_cons, ih, Record.entry]

@[simp]
theorem map_id_numbered (next : Nat) (entries : List Entry) :
    (numbered next entries).map (·.id) = List.range' next entries.length := by
  induction entries generalizing next with
  | nil => rfl
  | cons entry entries ih => rw [numbered, List.map_cons, ih, List.length_cons, List.range'_succ]

theorem numbered_concat (next : Nat) (entries : List Entry) (entry : Entry) :
    numbered next (entries ++ [entry]) =
      numbered next entries ++ [⟨next + entries.length, entry.1, entry.2⟩] := by
  induction entries generalizing next with
  | nil => rfl
  | cons first entries ih =>
    rw [List.cons_append, numbered, numbered, ih, List.cons_append, List.length_cons,
      Nat.add_right_comm, Nat.add_assoc]

theorem length_numbered (next : Nat) (entries : List Entry) :
    (numbered next entries).length = entries.length := by
  rw [← List.length_map (·.id), map_id_numbered, List.length_range']

/-- A journal that grows when it is written to has room for the record. -/
theorem records_push_of_size {journal : Journal} {depth : Nat} {event : Event}
    (h : (journal.push depth event).size = journal.size + 1) :
    (journal.push depth event).records =
      journal.records ++ [⟨journal.next, depth, event⟩] := by
  simp only [push, size, newest, List.length_drop, List.length_append, List.length_singleton] at h
  simp only [push, newest, List.length_append, List.length_singleton]
  rw [show journal.records.length + 1 - journal.capacity = 0 by omega, List.drop_zero]

theorem size_push_le (journal : Journal) (depth : Nat) (event : Event) :
    (journal.push depth event).size ≤ journal.size + 1 := by
  simp only [push, size, newest, List.length_drop, List.length_append, List.length_singleton]
  omega

theorem pushAll_cons (journal : Journal) (entry : Entry) (entries : List Entry) :
    journal.pushAll (entry :: entries) = (journal.push entry.1 entry.2).pushAll entries := rfl

theorem next_pushAll (journal : Journal) (entries : List Entry) :
    (journal.pushAll entries).next = journal.next + entries.length := by
  induction entries generalizing journal with
  | nil => rfl
  | cons entry entries ih =>
    rw [pushAll_cons, ih, List.length_cons]
    simp only [push]
    omega

theorem size_pushAll_le (journal : Journal) (entries : List Entry) :
    (journal.pushAll entries).size ≤ journal.size + entries.length := by
  induction entries generalizing journal with
  | nil => exact Nat.le_refl _
  | cons entry entries ih =>
    have hrest := ih (journal.push entry.1 entry.2)
    have hfirst := journal.size_push_le entry.1 entry.2
    rw [pushAll_cons, List.length_cons]
    omega

/-- A journal holds nothing but old records and what was written since. -/
theorem mem_records_pushAll {journal : Journal} {entries : List Entry} {record : Record}
    (h : record ∈ (journal.pushAll entries).records) :
    record ∈ journal.records ∨ record.entry ∈ entries := by
  induction entries generalizing journal with
  | nil => exact .inl h
  | cons entry entries ih =>
    rw [pushAll_cons] at h
    rcases ih h with hbefore | hlater
    · rcases List.mem_append.mp (List.mem_of_mem_drop hbefore) with hold | hnew
      · exact .inl hold
      · rw [List.mem_singleton.mp hnew]
        exact .inr List.mem_cons_self
    · exact .inr (List.mem_cons_of_mem entry hlater)

/-- If nothing was dropped, what was written stands behind the old records. A journal grows by at
most one record for each event, so that no single one of them can have found it full. -/
theorem records_pushAll_of_keepsAll {journal : Journal} {entries : List Entry}
    (hkeeps : journal.KeepsAll (journal.pushAll entries)) :
    (journal.pushAll entries).records = journal.records ++ numbered journal.next entries := by
  rw [KeepsAll, next_pushAll, Nat.add_sub_cancel_left] at hkeeps
  induction entries generalizing journal with
  | nil => exact (List.append_nil _).symm
  | cons entry entries ih =>
    have hrest := (journal.push entry.1 entry.2).size_pushAll_le entries
    have hfirst := journal.size_push_le entry.1 entry.2
    rw [pushAll_cons, List.length_cons] at hkeeps
    have hroom : (journal.push entry.1 entry.2).size = journal.size + 1 := by omega
    rw [pushAll_cons, ih (by omega), records_push_of_size hroom, List.append_assoc]
    rfl

end Journal

namespace Recorder

@[simp]
theorem recordAll_nil (recorder : Recorder) : recorder.recordAll [] = recorder := rfl

@[simp]
theorem recordAll_cons (recorder : Recorder) (entry : Entry) (entries : List Entry) :
    recorder.recordAll (entry :: entries) =
      (recorder.record entry.1 entry.2).recordAll entries := rfl

theorem recordAll_append (recorder : Recorder) (first second : List Entry) :
    recorder.recordAll (first ++ second) = (recorder.recordAll first).recordAll second := by
  simp only [recordAll, List.foldl_append]

/-- The events among some entries that a recorder wants. -/
def wanted (recorder : Recorder) (entries : List Entry) : List Entry :=
  entries.filter fun (depth, _) => recorder.wantsDepth depth

/-- Recording changes nothing but the journal, into which the wanted events are written. -/
theorem recordAll_eq (recorder : Recorder) (entries : List Entry) :
    recorder.recordAll entries =
      { recorder with journal := recorder.journal.pushAll (recorder.wanted entries) } := by
  induction entries generalizing recorder with
  | nil => rfl
  | cons entry entries ih =>
    rw [recordAll_cons, ih]
    cases hwants : recorder.wantsDepth entry.1 with
    | false => simp [record, wanted, hwants]
    | true =>
      simp only [record, wanted, hwants, List.filter_cons, if_true, Journal.pushAll_cons]
      rfl

theorem mem_records_recordAll {recorder : Recorder} {entries : List Entry} {record : Record}
    (h : record ∈ (recorder.recordAll entries).journal.records) :
    record ∈ recorder.journal.records ∨ record.entry ∈ entries := by
  rw [recordAll_eq] at h
  exact (Journal.mem_records_pushAll h).imp_right fun hmem => (List.mem_filter.mp hmem).1

/-- If nothing was dropped, the new records are those of the wanted events, numbered in order. -/
theorem records_recordAll_of_keepsAll {recorder : Recorder} {entries : List Entry}
    (hkeeps : recorder.journal.KeepsAll (recorder.recordAll entries).journal) :
    (recorder.recordAll entries).journal.records = recorder.journal.records ++
      Journal.numbered recorder.journal.next (recorder.wanted entries) := by
  rw [recordAll_eq] at hkeeps ⊢
  exact Journal.records_pushAll_of_keepsAll hkeeps

/-- A recorder of everything wants every event. -/
theorem Complete.wanted_eq {recorder : Recorder} (h : recorder.Complete) (entries : List Entry) :
    recorder.wanted entries = entries := by
  simp [wanted, wantsDepth, h.enabled, h.unlimited]

end Recorder

end Tabletop.Trace
