import Tabletop.Outline.Help

/-!
# Which description a sequence has

The help for a sequence is one entry, whose form is that of all its parts one after the
other. As to its description, what would be looked for is that of the first part that
has one. The entry has it if that part stands at the beginning. A description further
back is not shown: the description of the entry is that of the part at the beginning,
if any, and the two agree exactly where that part is described or no part is.
-/

namespace Tabletop.Outline

/-- The entries of a part of a sequence in the place of one. -/
def entryOf (label : Option String) (part : Outline) : Option Entry :=
  Entry.join (part.entries label)

/-- The description of a part of a sequence, if it has one. -/
def description (label : Option String) (part : Outline) : Option String :=
  (part.entryOf label).bind (·.about)

/-- The description of the first part that has one. -/
def firstDescription (label : Option String) (parts : List Outline) : Option String :=
  parts.findSome? (·.description label)

theorem joined_eq_map (label : Option String) (parts : List Outline) :
    joined label parts = parts.map (·.entryOf label) := by
  induction parts with
  | nil => rfl
  | cons part parts ih =>
    rw [joined, ih]
    rfl

/-- The forms of the parts, without those that have no entry. -/
theorem form_sequence (label : Option String) (parts : List Outline) :
    (Entry.sequence (parts.map (·.entryOf label))).form =
      String.join (parts.filterMap fun part => (part.entryOf label).map (·.form)) := by
  rw [Entry.sequence, List.filterMap_map, List.map_filterMap]
  rfl

theorem about_sequence (label : Option String) (parts : List Outline) :
    (Entry.sequence (parts.map (·.entryOf label))).about =
      parts.head?.bind (·.description label) := by
  cases parts with
  | nil => rfl
  | cons first rest => rfl

/-- The first part to be described is the one at the beginning, unless that one is not described
although another is. -/
theorem head?_description_iff (label : Option String) (parts : List Outline) :
    parts.head?.bind (·.description label) = firstDescription label parts ↔
      (∃ first ∈ parts.head?, first.description label ≠ none) ∨
        ∀ part ∈ parts, part.description label = none := by
  cases parts with
  | nil => simp [firstDescription]
  | cons first rest =>
    rw [List.head?_cons, Option.bind_some, firstDescription, List.findSome?_cons]
    cases hfirst : first.description label with
    | some about => simp [hfirst]
    | none =>
      rw [List.forall_mem_cons, ← List.findSome?_eq_none_iff, eq_comm]
      simp [hfirst]

/-- A sequence has one entry. It has the forms of all parts and the description of the first. -/
theorem entries_chain (label : Option String) (parts : List Outline) :
    ∃ entry, (chain parts).entries label = [entry] ∧
      entry.form = String.join (parts.filterMap fun part => (part.entryOf label).map (·.form)) ∧
      entry.about = parts.head?.bind (·.description label) ∧
      (entry.about = firstDescription label parts ↔
        (∃ first ∈ parts.head?, first.description label ≠ none) ∨
          ∀ part ∈ parts, part.description label = none) := by
  refine ⟨.sequence (parts.map (·.entryOf label)), ?_, form_sequence label parts,
    about_sequence label parts, ?_⟩
  · rw [entries, joined_eq_map]
  · rw [about_sequence]
    exact head?_description_iff label parts

/-- A word, white space and an amount, of which only the last is described. -/
def bidParts : List Outline :=
  [.token "bid", .space, .doc "amount" (some "how much to bid") (.int ⟨some 0, some 15⟩)]

/-- The entry of a sequence need not have the description of its first described part. -/
theorem description_of_bid :
    (chain bidParts).entries none = [⟨"bid 0-15", none⟩] ∧
      firstDescription none bidParts = some "how much to bid" ∧
      ¬∀ entry ∈ (chain bidParts).entries none, entry.about = firstDescription none bidParts := by
  decide

end Tabletop.Outline
