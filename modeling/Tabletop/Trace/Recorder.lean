import Tabletop.Trace.Journal
import Tabletop.Trace.Transcript
import Tabletop.Wire.Trace

/-!
# Recorders

A recorder decides which events of a reading go into its journal: none while it is
disabled, and none below its greatest depth if it has one. It also decides how
records are written out, as a transcript or as JSON.
-/

namespace Tabletop.Trace

universe u

/-- Where records are sent as they are written. -/
inductive Sink where
  | nowhere
  | console
deriving DecidableEq

structure Settings where
  enabled : Bool := false
  capacity : Nat := Journal.defaultCapacity
  sink : Sink := .nowhere
  json : Bool := false
  /-- The greatest depth at which events are recorded. -/
  maxDepth : Option Nat := none

structure Recorder where
  settings : Settings
  journal : Journal

namespace Recorder

/-- A recorder that has recorded nothing yet. -/
def ofSettings (settings : Settings) : Recorder :=
  ⟨settings, .ofCapacity settings.capacity⟩

/-- A recorder that records nothing until it is enabled. -/
def disabled : Recorder :=
  ofSettings {}

/-- A recorder that also sends its records to the console. -/
def toConsole : Recorder :=
  ofSettings { enabled := true, sink := .console }

def setEnabled (recorder : Recorder) (enabled : Bool) : Recorder :=
  { recorder with settings := { recorder.settings with enabled } }

/-- Whether an event at a depth would be recorded. -/
def wantsDepth (recorder : Recorder) (depth : Nat) : Bool :=
  recorder.settings.enabled && recorder.settings.maxDepth.all (depth ≤ ·)

/-- Records an event if it is wanted. -/
def record (recorder : Recorder) (depth : Nat) (event : Event) : Recorder :=
  if recorder.wantsDepth depth then
    { recorder with journal := recorder.journal.push depth event }
  else recorder

/-- Drops all records. -/
def clear (recorder : Recorder) : Recorder :=
  { recorder with journal := recorder.journal.clear }

/-- The text of one record. -/
def format (recorder : Recorder) (record : Record) : String :=
  if recorder.settings.json then Record.codec.write record else Transcript.line false record

/-- The text of some records. -/
def formatAll (recorder : Recorder) (records : List Record) : String :=
  if recorder.settings.json then Record.codec.list.write records
  else Transcript.lines false records

/-- Records the attempt and the end of a node's run. -/
def around {C : Type u} (recorder : Recorder) (kind : NodeKind) (depth position : Nat)
    (run : Recorder → Outcome C × Recorder) : Outcome C × Recorder :=
  let (outcome, after) := run (recorder.record depth (.attempt kind position))
  (outcome, after.record depth (.ofOutcome kind position outcome))

end Recorder

end Tabletop.Trace
