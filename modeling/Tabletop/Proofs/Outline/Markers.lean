import Tabletop.Proofs.Grammar.Conforming
import Tabletop.Proofs.Outline.Descriptions
import Tabletop.Proofs.Outline.Silence
import Tabletop.Proofs.Text.Literals

/-!
# What the marker of a repetition says

The help for a repetition shows the form of its item with a marker that tells how many
items there may be. `Marker.States` says which marker states which bounds. The one that
is shown is found by cases in which the least number is looked at first: where no item or
one item is enough, an upper limit of two or more is passed over. So a marker that is
shown never excludes a number of items that can be read, but it states the bounds only
where there is no such limit.
-/

namespace Tabletop

/-- The least number of items, zero if there is no limit. -/
def Bounds.fewest (count : Bounds Nat) : Nat :=
  count.least.getD 0

/-- At most one item is needed, but no more than some number from two on can be read. -/
def Bounds.Capped (count : Bounds Nat) : Prop :=
  count.fewest ≤ 1 ∧ ∃ most ∈ count.most, 2 ≤ most

namespace Bounds

variable {count : Bounds Nat}

theorem fewest_eq_zero_iff : count.fewest = 0 ↔ count.least = .none ∨ count.least = some 0 := by
  cases h : count.least <;> simp [fewest, h]

theorem fewest_eq_succ_iff {n : Nat} : count.fewest = n + 1 ↔ count.least = some (n + 1) := by
  cases h : count.least <;> simp [fewest, h]

theorem most_of_two_le (h : ∀ most ∈ count.most, 2 ≤ most) :
    count.most = .none ∨ ∃ n, count.most = some (n + 2) := by
  cases hmost : count.most with
  | none => exact .inl rfl
  | some most => exact .inr ⟨most - 2, congrArg some (Nat.sub_add_cancel (h most hmost)).symm⟩

theorem admits_iff {n : Nat} :
    count.Admits n ↔ count.fewest ≤ n ∧ ∀ most ∈ count.most, n ≤ most := by
  obtain ⟨least, most⟩ := count
  cases least <;> simp [Admits, fewest]

theorem empty_iff : count.Empty ↔ ∃ most ∈ count.most, most = 0 ∨ most < count.fewest := by
  obtain ⟨least, most⟩ := count
  cases most <;> cases least <;> simp [Empty, fewest]

end Bounds

namespace Outline

open Text.Decimal (natText)

/-- What is put around the form of an item. -/
inductive Marker where
  | atMostOne
  | exactlyOne
  | any
  | atLeastOne
  | atLeast (least : Nat)
  | between (least most : Nat)
deriving DecidableEq

namespace Marker

/-- The form of an item with a marker. -/
def mark (form : String) : Marker → String
  | .atMostOne => form ++ "?"
  | .exactlyOne => form
  | .any => form ++ "*"
  | .atLeastOne => form ++ "+"
  | .atLeast least => "(" ++ natText least ++ "+)" ++ form
  | .between least most => form ++ "(" ++ natText least ++ "-" ++ natText most ++ ")"

/-- The numbers of items that a marker speaks of. -/
def Admits : Marker → Nat → Prop
  | .atMostOne, n => n ≤ 1
  | .exactlyOne, n => n = 1
  | .any, _ => True
  | .atLeastOne, n => 1 ≤ n
  | .atLeast least, n => least ≤ n
  | .between least most, n => least ≤ n ∧ n ≤ most

/-- The bounds that a marker stands for. -/
def States : Marker → Bounds Nat → Prop
  | .atMostOne, count => count.fewest = 0 ∧ count.most = some 1
  | .exactlyOne, count => count.fewest = 1 ∧ count.most = some 1
  | .any, count => count.fewest = 0 ∧ count.most = none
  | .atLeastOne, count => count.fewest = 1 ∧ count.most = none
  | .atLeast least, count => count.fewest = least ∧ 2 ≤ least ∧ count.most = none
  | .between least most, count =>
    count.fewest = least ∧ count.most = some most ∧ least ≤ most ∧ 2 ≤ most

/-- The bounds for which a marker is shown. -/
def IsShown : Marker → Bounds Nat → Prop
  | .atMostOne, count => count.fewest = 0 ∧ count.most = some 1
  | .exactlyOne, count => count.fewest = 1 ∧ count.most = some 1
  | .any, count => count.fewest = 0 ∧ ∀ most ∈ count.most, 2 ≤ most
  | .atLeastOne, count => count.fewest = 1 ∧ ∀ most ∈ count.most, 2 ≤ most
  | .atLeast least, count => count.fewest = least ∧ 2 ≤ least ∧ count.most = none
  | .between least most, count =>
    count.fewest = least ∧ 2 ≤ least ∧ count.most = some most ∧ least ≤ most

end Marker

/-- An entry with a marker. -/
def Entry.marked (entry : Entry) (marker : Marker) : Entry :=
  { entry with form := marker.mark entry.form }

namespace Marker

variable {marker : Marker} {count : Bounds Nat}

theorem IsShown.not_empty (h : marker.IsShown count) : ¬count.Empty := by
  rw [Bounds.empty_iff]
  rintro ⟨most, hmost, hvoid⟩
  cases marker with
  | atMostOne | exactlyOne =>
    obtain ⟨hfewest, hone⟩ := h
    cases hone.symm.trans hmost
    omega
  | any | atLeastOne =>
    have htwo := h.2 most hmost
    have hfewest := h.1
    omega
  | atLeast least =>
    cases h.2.2.symm.trans hmost
  | between least limit =>
    obtain ⟨hfewest, htwo, hlimit, hle⟩ := h
    cases hlimit.symm.trans hmost
    omega

/-- Bounds that allow anything have a marker. -/
theorem exists_isShown (h : ¬count.Empty) : ∃ marker : Marker, marker.IsShown count := by
  rw [Bounds.empty_iff] at h
  have hfewest : count.fewest = 0 ∨ count.fewest = 1 ∨ 2 ≤ count.fewest := by omega
  cases hmost : count.most with
  | none =>
    rcases hfewest with hzero | hone | htwo
    · exact ⟨.any, hzero, by simp [hmost]⟩
    · exact ⟨.atLeastOne, hone, by simp [hmost]⟩
    · exact ⟨.atLeast count.fewest, rfl, htwo, hmost⟩
  | some most =>
    have hvoid : ¬(most = 0 ∨ most < count.fewest) := fun hvoid => h ⟨most, hmost, hvoid⟩
    by_cases hsingle : most = 1
    · subst hsingle
      rcases hfewest with hzero | hone | htwo
      · exact ⟨.atMostOne, hzero, hmost⟩
      · exact ⟨.exactlyOne, hone, hmost⟩
      · omega
    · have hlimit : ∀ limit ∈ count.most, 2 ≤ limit := by
        rw [hmost]
        rintro _ ⟨rfl⟩
        omega
      rcases hfewest with hzero | hone | htwo
      · exact ⟨.any, hzero, hlimit⟩
      · exact ⟨.atLeastOne, hone, hlimit⟩
      · exact ⟨.between count.fewest most, rfl, htwo, hmost, by omega⟩

end Marker

theorem repeatedForm_of_isShown {marker : Marker} {count : Bounds Nat} (h : marker.IsShown count)
    (form : String) : repeatedForm count form = some (marker.mark form) := by
  have hvoid : ¬count.isVoid = true := mt Bounds.isVoid_iff.mp h.not_empty
  unfold repeatedForm
  rw [if_neg hvoid]
  cases marker with
  | atMostOne =>
    obtain ⟨hfewest, hmost⟩ := h
    rcases Bounds.fewest_eq_zero_iff.mp hfewest with hleast | hleast <;> rw [hleast, hmost] <;> rfl
  | exactlyOne =>
    obtain ⟨hfewest, hmost⟩ := h
    rw [Bounds.fewest_eq_succ_iff.mp hfewest, hmost]
    rfl
  | any =>
    obtain ⟨hfewest, hlimit⟩ := h
    rcases Bounds.fewest_eq_zero_iff.mp hfewest with hleast | hleast <;>
      rcases Bounds.most_of_two_le hlimit with hmost | ⟨n, hmost⟩ <;>
      rw [hleast, hmost] <;> rfl
  | atLeastOne =>
    obtain ⟨hfewest, hlimit⟩ := h
    rw [Bounds.fewest_eq_succ_iff.mp hfewest]
    rcases Bounds.most_of_two_le hlimit with hmost | ⟨n, hmost⟩ <;> rw [hmost] <;> rfl
  | atLeast least =>
    obtain ⟨hfewest, htwo, hmost⟩ := h
    obtain ⟨n, rfl⟩ := Nat.exists_eq_add_of_le' htwo
    rw [Bounds.fewest_eq_succ_iff.mp hfewest, hmost]
    rfl
  | between least most =>
    obtain ⟨hfewest, htwo, hmost, hle⟩ := h
    obtain ⟨n, rfl⟩ := Nat.exists_eq_add_of_le' htwo
    rw [Bounds.fewest_eq_succ_iff.mp hfewest, hmost]
    rfl

/-! ## Telling markers apart -/

namespace Marker

open Text.Decimal

/-- The characters that a marker adds to a form. -/
def sign : Marker → List Char
  | .atMostOne => ['?']
  | .exactlyOne => []
  | .any => ['*']
  | .atLeastOne => ['+']
  | .atLeast least => '(' :: (ofNat least ++ ['+', ')'])
  | .between least most => '(' :: (ofNat least ++ '-' :: (ofNat most ++ [')']))

/-- The characters that a marker adds, without its numbers. -/
def frame : Marker → List Char
  | .atMostOne => ['?']
  | .exactlyOne => []
  | .any => ['*']
  | .atLeastOne => ['+']
  | .atLeast _ => ['(', '+', ')']
  | .between _ _ => ['(', '-', ')']

theorem toList_mark_atLeast (least : Nat) (form : String) :
    ((atLeast least).mark form).toList = '(' :: (ofNat least ++ '+' :: ')' :: form.toList) := by
  rw [mark, natText, String.toList_append, String.toList_append, String.toList_append,
    String.toList_ofList (l := ofNat least), List.append_assoc, List.append_assoc]
  rfl

theorem toList_mark_between (least most : Nat) (form : String) :
    ((between least most).mark form).toList =
      form.toList ++ '(' :: (ofNat least ++ '-' :: (ofNat most ++ [')'])) := by
  rw [mark, natText, natText, String.toList_append, String.toList_append, String.toList_append,
    String.toList_append, String.toList_append, String.toList_ofList (l := ofNat least),
    String.toList_ofList (l := ofNat most), List.append_assoc, List.append_assoc,
    List.append_assoc, List.append_assoc]
  rfl

/-- Behind the form or in front of it, a marker adds its characters. -/
theorem perm_mark (form : String) (marker : Marker) :
    (marker.mark form).toList.Perm (marker.sign ++ form.toList) := by
  cases marker with
  | atMostOne | any | atLeastOne =>
    rw [mark, String.toList_append]
    exact List.perm_append_comm
  | exactlyOne => exact List.Perm.refl _
  | atLeast least =>
    rw [toList_mark_atLeast, sign, List.cons_append, List.append_assoc]
    exact List.Perm.refl _
  | between least most =>
    rw [toList_mark_between]
    exact List.perm_append_comm

theorem filter_ofNat (n : Nat) : (ofNat n).filter (!·.isDigit) = [] := by
  rw [List.filter_eq_nil_iff]
  intro c hc
  rw [isDigit_of_mem_ofNat hc]
  decide

theorem filter_sign (marker : Marker) : marker.sign.filter (!·.isDigit) = marker.frame := by
  cases marker with
  | atMostOne | exactlyOne | any | atLeastOne => rfl
  | atLeast least =>
    rw [sign, List.filter_cons_of_pos rfl, List.filter_append, filter_ofNat]
    rfl
  | between least most =>
    rw [sign, List.filter_cons_of_pos rfl, List.filter_append, filter_ofNat, List.nil_append,
      List.filter_cons_of_pos rfl, List.filter_append, filter_ofNat]
    rfl

/-- Markers of different kinds add different characters, wherever they add them. -/
theorem perm_frame {form : String} {marker marker' : Marker}
    (h : marker.mark form = marker'.mark form) : marker.frame.Perm marker'.frame := by
  have hperm : (marker.sign ++ form.toList).Perm (marker'.sign ++ form.toList) :=
    (perm_mark form marker).symm.trans (h ▸ perm_mark form marker')
  have hsign := (List.perm_append_right_iff _).mp hperm
  rw [← filter_sign, ← filter_sign]
  exact hsign.filter _

/-- A form does not read the same with two markers. -/
theorem mark_injective {form : String} {marker marker' : Marker}
    (h : marker.mark form = marker'.mark form) : marker = marker' := by
  have hframe := perm_frame h
  have htext := congrArg String.toList h
  cases marker with
  | atLeast least =>
    cases marker' with
    | atLeast least' =>
      rw [toList_mark_atLeast, toList_mark_atLeast] at htext
      obtain ⟨rfl, -⟩ := ofNat_append_inj (.cons rfl _) (.cons rfl _) (List.cons.inj htext).2
      rfl
    | _ =>
      simp only [frame] at hframe
      exact absurd hframe (by decide)
  | between least most =>
    cases marker' with
    | between least' most' =>
      rw [toList_mark_between, toList_mark_between] at htext
      have hlimits := (List.cons.inj (List.append_cancel_left htext)).2
      obtain ⟨rfl, hmost⟩ := ofNat_append_inj (.cons rfl _) (.cons rfl _) hlimits
      obtain ⟨rfl, -⟩ := ofNat_append_inj (.cons rfl _) (.cons rfl _) (List.cons.inj hmost).2
      rfl
    | _ =>
      simp only [frame] at hframe
      exact absurd hframe (by decide)
  | atMostOne | exactlyOne | any | atLeastOne =>
    cases marker' with
    | atMostOne | exactlyOne | any | atLeastOne =>
      first | rfl | exact absurd hframe (by decide)
    | _ =>
      simp only [frame] at hframe
      exact absurd hframe (by decide)

/-! ## What is shown -/

variable {marker : Marker} {count : Bounds Nat}

/-- A marker that is shown allows every number of items that can be read. -/
theorem admits_of_isShown {n : Nat} (h : marker.IsShown count) (hn : count.Admits n) :
    marker.Admits n := by
  obtain ⟨hfewest, hmost⟩ := Bounds.admits_iff.mp hn
  cases marker with
  | atMostOne => exact hmost 1 h.2
  | exactlyOne =>
    have hone := h.1
    exact Nat.le_antisymm (hmost 1 h.2) (by omega)
  | any => trivial
  | atLeastOne =>
    have hone := h.1
    exact Nat.le_trans (by omega) hfewest
  | atLeast least =>
    obtain ⟨rfl, -, -⟩ := h
    exact hfewest
  | between least most =>
    obtain ⟨rfl, -, hlimit, -⟩ := h
    exact ⟨hfewest, hmost most hlimit⟩

/-- A marker that is shown states the bounds unless it passes over the upper one. -/
theorem states_iff_of_isShown (h : marker.IsShown count) :
    marker.States count ↔ ¬count.Capped := by
  unfold Bounds.Capped
  cases marker with
  | atMostOne | exactlyOne =>
    obtain ⟨hfewest, hmost⟩ := h
    simp [States, hfewest, hmost]
  | any | atLeastOne =>
    obtain ⟨hfewest, hlimit⟩ := h
    cases hmost : count.most with
    | none => simp [States, hfewest, hmost]
    | some most => simp [States, hfewest, hmost, hlimit most hmost]
  | atLeast least =>
    obtain ⟨hfewest, htwo, hmost⟩ := h
    simp [States, hfewest, htwo, hmost]
  | between least most =>
    obtain ⟨hfewest, htwo, hmost, hle⟩ := h
    refine ⟨fun _ hcapped => ?_, fun _ => ⟨hfewest, hmost, hle, Nat.le_trans htwo hle⟩⟩
    have hone := hcapped.1
    omega

/-- A marker that states the bounds allows nothing beyond them. -/
theorem admits_of_states {n : Nat} (h : marker.States count) (hn : marker.Admits n) :
    count.Admits n := by
  rw [Bounds.admits_iff]
  cases marker with
  | atMostOne =>
    obtain ⟨hfewest, hmost⟩ := h
    simpa [Admits, hfewest, hmost] using hn
  | exactlyOne =>
    obtain ⟨hfewest, hmost⟩ := h
    obtain rfl : n = 1 := hn
    simp [hfewest, hmost]
  | any =>
    obtain ⟨hfewest, hmost⟩ := h
    simp [hfewest, hmost]
  | atLeastOne =>
    obtain ⟨hfewest, hmost⟩ := h
    simpa [Admits, hfewest, hmost] using hn
  | atLeast least =>
    obtain ⟨rfl, -, hmost⟩ := h
    simpa [Admits, hmost] using hn
  | between least most =>
    obtain ⟨rfl, hmost, -⟩ := h
    simpa [Admits, hmost] using hn

/-- Where an upper limit is passed over, the marker allows more than can be read. -/
theorem exists_admits_of_capped (h : marker.IsShown count) (hcapped : count.Capped) :
    ∃ n, marker.Admits n ∧ ¬count.Admits n := by
  obtain ⟨hfewest, most, hmost, htwo⟩ := hcapped
  have hmore : ¬count.Admits (most + 1) := fun hadmits => by
    have hle := hadmits.2 most hmost
    omega
  refine ⟨most + 1, ?_, hmore⟩
  cases marker with
  | atMostOne | exactlyOne =>
    cases h.2.symm.trans hmost
    omega
  | any => trivial
  | atLeastOne => exact Nat.le_add_left 1 most
  | atLeast least => cases h.2.2.symm.trans hmost
  | between least limit =>
    obtain ⟨hleast, hmany, -, -⟩ := h
    omega

end Marker

/-- What is shown for a repetition, given the entry of its item. -/
structure ShowsBounds (count : Bounds Nat) (entry : Entry) (shown : List Entry) : Prop where
  absent : shown = [] ↔ count.Empty
  marked : ¬count.Empty → ∃ marker : Marker, shown = [entry.marked marker]
  shown_iff : ∀ marker : Marker, shown = [entry.marked marker] ↔ marker.IsShown count
  /-- Every number of items that can be read is among those that the marker speaks of. -/
  admits : ∀ marker : Marker, shown = [entry.marked marker] →
    ∀ n, count.Admits n → marker.Admits n
  /-- The marker speaks of no others unless an upper limit is passed over. -/
  only : ∀ marker : Marker, shown = [entry.marked marker] →
    ((∀ n, marker.Admits n → count.Admits n) ↔ ¬count.Capped)
  states : ∀ marker : Marker, shown = [entry.marked marker] →
    (marker.States count ↔ ¬count.Capped)

theorem Entry.marked_injective {entry : Entry} {marker marker' : Marker}
    (h : entry.marked marker = entry.marked marker') : marker = marker' :=
  Marker.mark_injective (congrArg Entry.form h)

theorem entries_many_of_empty {label : Option String} {item : Outline} {count : Bounds Nat}
    {delimiter : Option Outline} (h : count.Empty) :
    (many item count delimiter).entries label = [] := by
  rw [entries, Option.toList_eq_nil_iff, Option.bind_eq_none_iff]
  intro entry _
  rw [repeatedForm_eq_none_iff.mpr (Bounds.isVoid_iff.mpr h)]
  rfl

theorem entries_many_of_isShown {label : Option String} {item : Outline} {entry : Entry}
    {marker : Marker} {count : Bounds Nat} {delimiter : Option Outline}
    (hitem : item.entryOf label = some entry) (h : marker.IsShown count) :
    (many item count delimiter).entries label = [entry.marked marker] := by
  rw [entries, ← entryOf, hitem, Option.bind_some, repeatedForm_of_isShown h]
  rfl

/-- The help for a repetition has the entry of its item with the marker that belongs to the bounds,
or there is none if the bounds allow nothing. -/
theorem entries_many {label : Option String} {item : Outline} {entry : Entry}
    (h : item.entryOf label = some entry) (count : Bounds Nat) (delimiter : Option Outline) :
    ShowsBounds count entry ((many item count delimiter).entries label) := by
  have hshown : ∀ marker : Marker, marker.IsShown count →
      (many item count delimiter).entries label = [entry.marked marker] :=
    fun marker => entries_many_of_isShown h
  have hiff : ∀ marker : Marker, (many item count delimiter).entries label =
      [entry.marked marker] ↔ marker.IsShown count := by
    intro marker
    refine ⟨fun hentries => ?_, hshown marker⟩
    by_cases hempty : count.Empty
    · rw [entries_many_of_empty hempty] at hentries
      cases hentries
    · obtain ⟨found, hfound⟩ := Marker.exists_isShown hempty
      rw [hshown found hfound] at hentries
      rwa [← Entry.marked_injective (List.cons.inj hentries).1]
  refine ⟨⟨fun hnone => ?_, entries_many_of_empty⟩, fun hsome => ?_, hiff, ?_, ?_, ?_⟩
  · by_contra hsome
    obtain ⟨marker, hmarker⟩ := Marker.exists_isShown hsome
    rw [hshown marker hmarker] at hnone
    cases hnone
  · obtain ⟨marker, hmarker⟩ := Marker.exists_isShown hsome
    exact ⟨marker, hshown marker hmarker⟩
  · intro marker hentries n
    exact Marker.admits_of_isShown ((hiff marker).mp hentries)
  · intro marker hentries
    have hmarker := (hiff marker).mp hentries
    refine ⟨fun honly hcapped => ?_, fun hstated n => ?_⟩
    · obtain ⟨n, hadmits, hbeyond⟩ := Marker.exists_admits_of_capped hmarker hcapped
      exact hbeyond (honly n hadmits)
    · exact Marker.admits_of_states ((Marker.states_iff_of_isShown hmarker).mpr hstated)
  · intro marker hentries
    exact Marker.states_iff_of_isShown ((hiff marker).mp hentries)

/-- A die that is described. -/
def die : Outline :=
  .doc "die" (some "one of your dice") (.int ⟨some 1, some 6⟩)

theorem entries_many_of_dice :
    die.entryOf none = some ⟨"1-6", some "one of your dice"⟩ ∧
      (many die ⟨some 2, some 5⟩ (some .space)).entries none =
        [⟨"1-6(2-5)", some "one of your dice"⟩] ∧
      ShowsBounds ⟨some 2, some 5⟩ ⟨"1-6", some "one of your dice"⟩
        ((many die ⟨some 2, some 5⟩ (some .space)).entries none) := by
  have hitem : die.entryOf none = some ⟨"1-6", some "one of your dice"⟩ := by decide
  exact ⟨hitem, by decide, entries_many hitem ⟨some 2, some 5⟩ (some .space)⟩

/-- Bounds need not be stated: that there are at most three or four players is not shown. -/
theorem entries_many_of_players :
    (many .player ⟨some 1, some 3⟩ none).entries none = [⟨"player+", none⟩] ∧
      (many .player ⟨none, some 4⟩ none).entries none = [⟨"player*", none⟩] ∧
      (Marker.between 1 3).States ⟨some 1, some 3⟩ ∧ (Marker.between 0 4).States ⟨none, some 4⟩ ∧
      ¬∀ (count : Bounds Nat) (marker : Marker), marker.States count →
        (many .player count none).entries none = [(Entry.plain "player").marked marker] := by
  have hstates : (Marker.between 1 3).States ⟨some 1, some 3⟩ := ⟨rfl, rfl, by decide, by decide⟩
  refine ⟨by decide, by decide, hstates, ⟨rfl, rfl, by decide, by decide⟩, fun hall => ?_⟩
  exact absurd (hall _ _ hstates) (by decide)

end Outline

end Tabletop
