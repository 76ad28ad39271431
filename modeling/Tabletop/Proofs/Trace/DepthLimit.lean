import Tabletop.Proofs.Trace.CallTree
import Tabletop.Proofs.Trace.Counting

/-!
# Limits on depth only hide records

Every recorder is told the same tree of entries for a reading, since a node has only
one. A recorder with a greatest depth picks from them those that are not deeper, in
their order, and numbers what it picks without gaps; one that is disabled picks
nothing and stays as it was.
-/

namespace Tabletop

universe u

open Trace

variable {C : Type u}

namespace Trace.Recorder

variable {recorder : Recorder}

/-- A recorder of the events down to a depth. -/
structure LimitedTo (recorder : Recorder) (limit : Nat) : Prop where
  enabled : recorder.settings.enabled = true
  limited : recorder.settings.maxDepth = some limit

theorem LimitedTo.wanted_eq {limit : Nat} (h : recorder.LimitedTo limit) (entries : List Entry) :
    recorder.wanted entries = entries.filter (·.1 ≤ limit) := by
  simp [wanted, wantsDepth, h.enabled, h.limited]

theorem recordAll_of_disabled (h : recorder.settings.enabled = false) (entries : List Entry) :
    recorder.recordAll entries = recorder := by
  have hwanted : recorder.wanted entries = [] := by simp [wanted, wantsDepth, h]
  rw [recordAll_eq, hwanted]
  rfl

/-- Two recorders that were told the same tree were told the same entries. -/
theorem AppendsTree.same {names : List String} {text : List Char} {g : Grammar C}
    {depth position : Nat} {input : List Char} {before after before' after' : Recorder}
    (h : before.AppendsTree names text after g depth position input)
    (h' : before'.AppendsTree names text after' g depth position input) :
    ∃ entries, after = before.recordAll entries ∧ after' = before'.recordAll entries := by
  obtain ⟨entries, hafter, htree⟩ := h
  obtain ⟨entries', hafter', htree'⟩ := h'
  obtain rfl := htree.unique htree'
  exact ⟨entries, hafter, hafter'⟩

end Trace.Recorder

namespace Grammar

/-- Of what a recorder of everything appends for a reading, a recorder down to some depth appends
exactly the part that is not deeper, in the same order and numbered in sequence, as long as both
have room. A disabled recorder is left unchanged. Whether the nodes of a reading are told their
depth or count it as they begin and end makes no difference to the outcome or to the recorder. -/
theorem parseTraced_limited (names : List String) (g : Grammar C) (input : String) :
    (∀ (limit : Nat) (full limited : Recorder), full.Complete → limited.LimitedTo limit →
      full.journal.KeepsAll (g.parseTraced input names full).2.journal →
      limited.journal.KeepsAll (g.parseTraced input names limited).2.journal →
      ∃ written shown : List Record,
        (g.parseTraced input names full).2.journal.records = full.journal.records ++ written ∧
        (g.parseTraced input names limited).2.journal.records =
          limited.journal.records ++ shown ∧
        shown.map (·.entry) = (written.map (·.entry)).filter (·.1 ≤ limit) ∧
        shown.map (·.id) = List.range' limited.journal.next shown.length) ∧
    (∀ recorder : Recorder, recorder.settings.enabled = false →
      (g.parseTraced input names recorder).2 = recorder) ∧
    ∀ recorder : Recorder, g.parseCounting input names recorder =
      ((g.parseTraced input names recorder).1, ⟨(g.parseTraced input names recorder).2, 0⟩) := by
  refine ⟨fun limit full limited hfull hlimited hkeeps hkeeps' => ?_, fun recorder hdisabled => ?_,
    parseCounting_eq names g input⟩
  · obtain ⟨entries, hafter, hafter'⟩ := (parseTraced_appendsTree names g input full).same
      (parseTraced_appendsTree names g input limited)
    rw [hafter] at hkeeps ⊢
    rw [hafter'] at hkeeps' ⊢
    refine ⟨_, _, Recorder.records_recordAll_of_keepsAll hkeeps,
      Recorder.records_recordAll_of_keepsAll hkeeps', ?_, ?_⟩
    · rw [Journal.map_entry_numbered, Journal.map_entry_numbered, hfull.wanted_eq,
        hlimited.wanted_eq]
    · rw [← List.length_map (·.entry), Journal.map_entry_numbered, Journal.map_id_numbered]
  · obtain ⟨entries, hafter, -⟩ := parseTraced_appendsTree names g input recorder
    rw [hafter, Recorder.recordAll_of_disabled hdisabled]

/-- A recorder of the first two levels that has dropped the seven records it wrote before. -/
def shallow : Recorder :=
  ⟨{ enabled := true, maxDepth := some 1 }, ⟨10, 7, []⟩⟩

/-- What `shallow` records of "roll5": all but the attempt at the article and its failure. -/
def rollShown : List Record :=
  [⟨7, 0, .attempt .chain 0⟩, ⟨8, 1, .attempt .token 0⟩, ⟨9, 1, .matched .token 0 "roll"⟩,
    ⟨10, 1, .attempt .opt 4⟩, ⟨11, 1, .matched .opt 4 ""⟩, ⟨12, 1, .attempt .int 4⟩,
    ⟨13, 1, .matched .int 4 "5"⟩, ⟨14, 0, .matched .chain 0 "roll5"⟩]

theorem parseTraced_limited_of_shallow :
    (Recorder.ofSettings { enabled := true }).Complete ∧ shallow.LimitedTo 1 ∧
      (Recorder.ofSettings { enabled := true }).journal.KeepsAll
        (roll.parseTraced "roll5" [] (Recorder.ofSettings { enabled := true })).2.journal ∧
      shallow.journal.KeepsAll (roll.parseTraced "roll5" [] shallow).2.journal ∧
      (roll.parseTraced "roll5" [] (Recorder.ofSettings { enabled := true })).2.journal.records =
        Journal.numbered 0 rollEntries ∧
      (roll.parseTraced "roll5" [] shallow).2.journal.records = rollShown ∧
      rollShown.map (·.entry) = rollEntries.filter (·.1 ≤ 1) ∧
      rollShown.map (·.id) = List.range' 7 8 ∧
      Recorder.disabled.settings.enabled = false ∧
      (roll.parseTraced "roll5" [] Recorder.disabled).2 = Recorder.disabled := by
  obtain ⟨hlimited, hdisabled, -⟩ := parseTraced_limited [] roll "roll5"
  have hcomplete : (Recorder.ofSettings { enabled := true }).Complete := ⟨rfl, rfl⟩
  have hshallow : shallow.LimitedTo 1 := ⟨rfl, rfl⟩
  have hkeeps : (Recorder.ofSettings { enabled := true }).journal.KeepsAll
      (roll.parseTraced "roll5" [] (Recorder.ofSettings { enabled := true })).2.journal := rfl
  have hkeeps' : shallow.journal.KeepsAll (roll.parseTraced "roll5" [] shallow).2.journal := rfl
  have hfull : (roll.parseTraced "roll5" []
      (Recorder.ofSettings { enabled := true })).2.journal.records =
        Journal.numbered 0 rollEntries := rfl
  have hpart : (roll.parseTraced "roll5" [] shallow).2.journal.records = rollShown := rfl
  obtain ⟨written, shown, hwritten, hshown, hentries, hids⟩ :=
    hlimited 1 _ shallow hcomplete hshallow hkeeps hkeeps'
  obtain rfl : written = Journal.numbered 0 rollEntries := hwritten.symm.trans hfull
  obtain rfl : shown = rollShown := hshown.symm.trans hpart
  exact ⟨hcomplete, hshallow, hkeeps, hkeeps', hfull, hpart, hentries, hids, rfl, hdisabled _ rfl⟩

end Grammar

end Tabletop
