import Tabletop.Trace.Event

/-!
# Journals

A journal keeps the newest records of what happened, up to its capacity, oldest
first. Records are numbered in the order in which they are written; the numbers go
on when old records are dropped and when the journal is cleared.

The numbers are unbounded here. A journal that counts in 64-bit words gives the same
numbers to its first 2^64 records, and what it does with more is not described.
-/

namespace Tabletop.Trace

structure Journal where
  capacity : Nat
  /-- The number that the next record gets. -/
  next : Nat
  records : List Record

/-- The number of records that a journal holds, its capacity, the greatest depth among the records
and how many there are of each type of event. -/
structure Journal.Summary where
  count : Nat
  capacity : Nat
  greatestDepth : Option Nat
  eventCounts : List (String × Nat)

namespace Journal

/-- The capacity of a journal for which none is chosen. -/
def defaultCapacity : Nat :=
  10000

/-- A new journal. -/
def ofCapacity (capacity : Nat) : Journal :=
  ⟨capacity, 0, []⟩

/-- The newest records, as many as fit. -/
def newest (capacity : Nat) (records : List Record) : List Record :=
  records.drop (records.length - capacity)

/-- Writes a record, dropping the oldest if there is no room. -/
def push (journal : Journal) (depth : Nat) (event : Event) : Journal where
  capacity := journal.capacity
  next := journal.next + 1
  records := newest journal.capacity (journal.records ++ [⟨journal.next, depth, event⟩])

/-- Drops all records. -/
def clear (journal : Journal) : Journal :=
  { journal with records := [] }

def size (journal : Journal) : Nat :=
  journal.records.length

/-- The newest record. -/
def last? (journal : Journal) : Option Record :=
  journal.records.getLast?

/-- The newest records, as many as asked for. -/
def recent (journal : Journal) (count : Nat) : List Record :=
  newest count journal.records

/-- The records of failures. -/
def failures (journal : Journal) : List Record :=
  journal.records.filter (·.event.isFailure)

/-- The records of nodes of a kind. -/
def ofKind (journal : Journal) (kind : NodeKind) : List Record :=
  journal.records.filter (·.event.kind = kind)

/-- How many records there are of each type of event that occurs. -/
def eventCounts (journal : Journal) : List (String × Nat) :=
  (["attempt", "matched", "failed"].map fun name =>
    (name, journal.records.countP (·.event.typeName = name))).filter (·.2 ≠ 0)

def summary (journal : Journal) : Summary where
  count := journal.size
  capacity := journal.capacity
  greatestDepth := (journal.records.map (·.depth)).max?
  eventCounts := journal.eventCounts

end Journal

end Tabletop.Trace
