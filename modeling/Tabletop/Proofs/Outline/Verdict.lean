import Mathlib.Tactic.SplitIfs
import Tabletop.Grammar.Run

/-!
# Readings that differ in their values only

Two matchers of different games can split every text alike and reject alike, though
what they make of the text has nothing in common. `SameVerdict` is that relation on
outcomes. No node of a grammar looks at a value to decide how to go on, so the
relation passes from the parts of a node to the node; here that is shown for the
leaves, for names and for repetitions.
-/

namespace Tabletop

universe u v w

/-- Both succeed, with related results, or both fail with the same rejection. -/
inductive SameVerdict {α : Type u} {β : Type v} (related : α → β → Prop) :
    Except Rejection α → Except Rejection β → Prop
  | ok {a : α} {b : β} (h : related a b) : SameVerdict related (.ok a) (.ok b)
  | error (why : Rejection) : SameVerdict related (.error why) (.error why)

variable {C : Type u} {D : Type v} {E : Type w}

/-- The same split of a text, whatever the values. -/
structure Parsed.Alike (a : Parsed C) (b : Parsed D) : Prop where
  consumed : a.consumed = b.consumed
  remaining : a.remaining = b.remaining

/-- As many items and the same split of a text, whatever the values. -/
structure Items.Alike (a : Items C) (b : Items D) : Prop where
  length : a.values.length = b.values.length
  consumed : a.consumed = b.consumed
  remaining : a.remaining = b.remaining

/-- Matchers with the same verdict on every text. -/
def Matcher.Alike (a : Matcher C) (b : Matcher D) : Prop :=
  ∀ input, SameVerdict Parsed.Alike (a input) (b input)

namespace SameVerdict

theorem symm {a : Outcome C} {b : Outcome D} (h : SameVerdict Parsed.Alike a b) :
    SameVerdict Parsed.Alike b a := by
  cases h with
  | ok h => exact .ok ⟨h.consumed.symm, h.remaining.symm⟩
  | error why => exact .error why

theorem trans {a : Outcome C} {b : Outcome D} {c : Outcome E}
    (h : SameVerdict Parsed.Alike a b) (h' : SameVerdict Parsed.Alike b c) :
    SameVerdict Parsed.Alike a c := by
  cases h with
  | ok h =>
    cases h' with
    | ok h' => exact .ok ⟨h.consumed.trans h'.consumed, h.remaining.trans h'.remaining⟩
  | error why =>
    cases h'
    exact .error why

end SameVerdict

/-! ## Leaves -/

namespace Leaf

theorem integer_alike (bounds : Bounds Int) :
    Matcher.Alike (integer bounds : Matcher C) (integer bounds : Matcher D) := by
  intro input
  unfold integer
  split
  · exact .error _
  · dsimp only
    split_ifs
    · exact .error _
    · exact .error _
    · exact .error _
    · exact .ok ⟨rfl, rfl⟩

theorem word_alike (target : String) :
    Matcher.Alike (word target : Matcher C) (word target : Matcher D) := by
  intro input
  unfold word
  dsimp only
  split_ifs
  · exact .error _
  · exact .ok ⟨rfl, rfl⟩

theorem blanks_alike : Matcher.Alike (blanks : Matcher C) (blanks : Matcher D) := by
  intro input
  unfold blanks
  split
  · exact .error _
  · exact .ok ⟨rfl, rfl⟩

end Leaf

/-! ## Names -/

/-- The same names in the running, whatever they stand for. -/
structure Shortlist.Alike (a : Shortlist C) (b : Shortlist D) : Prop where
  listed : a.listed.map (·.name) = b.listed.map (·.name)
  length : a.length = b.length
  full : a.full = b.full

namespace Shortlist

theorem consider_alike {a : Shortlist C} {b : Shortlist D} (h : a.Alike b) (exact : Bool)
    (input : List Char) {x : Candidate C} {y : Candidate D} (hname : x.name = y.name) :
    (consider exact input a x).Alike (consider exact input b y) := by
  obtain ⟨listed, length, full⟩ := a
  obtain ⟨listed', length', full'⟩ := b
  obtain ⟨hlisted, rfl, rfl⟩ := h
  unfold consider
  rw [hname]
  dsimp only
  split_ifs
  all_goals exact ⟨by simp [hlisted, hname], rfl, rfl⟩

theorem ofCandidates_alike {as : List (Candidate C)} {bs : List (Candidate D)}
    (hnames : as.map (·.name) = bs.map (·.name)) (exact : Bool) (input : List Char) :
    (ofCandidates as exact input).Alike (ofCandidates bs exact input) := by
  suffices hfold : ∀ (a : Shortlist C) (b : Shortlist D), a.Alike b →
      (as.foldl (consider exact input) a).Alike (bs.foldl (consider exact input) b) from
    hfold empty empty ⟨rfl, rfl, rfl⟩
  induction as generalizing bs with
  | nil =>
    obtain rfl : bs = [] := by simpa using hnames.symm
    exact fun a b h => h
  | cons x as ih =>
    cases bs with
    | nil => simp at hnames
    | cons y bs =>
      obtain ⟨hname, hrest⟩ := List.cons.inj hnames
      exact fun a b h => ih hrest _ _ (consider_alike h exact input hname)

end Shortlist

/-- What is read depends on the names, and not on what they stand for. -/
theorem Candidate.read_alike {as : List (Candidate C)} {bs : List (Candidate D)}
    (hnames : as.map (·.name) = bs.map (·.name)) (exact : Bool) :
    Matcher.Alike (read as exact) (read bs exact) := by
  intro input
  obtain ⟨hlisted, hlength, -⟩ := Shortlist.ofCandidates_alike hnames exact input
  unfold read
  dsimp only
  rw [hnames, hlength]
  cases ha : (Shortlist.ofCandidates as exact input).listed with
  | nil =>
    rw [ha] at hlisted
    rw [List.map_eq_nil_iff.mp hlisted.symm]
    exact .error _
  | cons x others =>
    cases hb : (Shortlist.ofCandidates bs exact input).listed with
    | nil => simp [ha, hb] at hlisted
    | cons y others' =>
      rw [ha, hb] at hlisted
      obtain ⟨hfirst, hothers⟩ := List.cons.inj hlisted
      -- A single survivor on one side is a single one on the other.
      cases others with
      | nil =>
        obtain rfl : others' = [] := by simpa using hothers.symm
        exact .ok ⟨rfl, rfl⟩
      | cons x' others =>
        cases others' with
        | nil => simp at hothers
        | cons y' others' =>
          dsimp only
          rw [hlisted]
          exact .error _

theorem Candidate.map_name_ofPlayers (names : List String) :
    (ofPlayers names : List (Candidate C)).map (·.name) = names := by
  apply List.ext_getElem?
  intro seat
  rw [ofPlayers, List.getElem?_map, List.getElem?_mapIdx]
  cases names[seat]? <;> rfl

/-! ## Repetitions -/

namespace Repetition

variable {item : Matcher C} {item' : Matcher D} {delimiter : Option (Matcher C)}
  {delimiter' : Option (Matcher D)}

theorem round_alike (hitem : Matcher.Alike item item')
    (hdelimiter : Option.Rel Matcher.Alike delimiter delimiter') (input : List Char) :
    Option.Rel Parsed.Alike (round item delimiter input) (round item' delimiter' input) := by
  unfold round
  cases hdelimiter with
  | none =>
    have hnext := hitem input
    generalize item input = next, item' input = next' at hnext
    cases hnext with
    | ok h => exact .some h
    | error why => exact .none
  | @some delimiter delimiter' hmarks =>
    have hmark := hmarks input
    dsimp only
    generalize delimiter input = mark, delimiter' input = mark' at hmark
    cases hmark with
    | error why => exact .none
    | @ok mark mark' hmark =>
      have hnext := hitem mark.remaining
      dsimp only
      rw [← hmark.remaining]
      generalize item mark.remaining = next, item' mark.remaining = next' at hnext
      cases hnext with
      | error why => exact .none
      | ok hnext => exact .some ⟨by simp only [hmark.consumed, hnext.consumed], hnext.remaining⟩

theorem before_alike {first : Parsed C} {first' : Parsed D} {rest : Items C} {rest' : Items D}
    (hfirst : first.Alike first') (hrest : rest.Alike rest') :
    (Items.before first rest).Alike (Items.before first' rest') :=
  ⟨congrArg Nat.succ hrest.length, by simp only [Items.before, hfirst.consumed, hrest.consumed],
    hrest.remaining⟩

theorem none_alike (input : List Char) :
    (Items.none input : Items C).Alike (Items.none input : Items D) :=
  ⟨rfl, rfl, rfl⟩

theorem more_alike (hitem : Matcher.Alike item item')
    (hdelimiter : Option.Rel Matcher.Alike delimiter delimiter') (count : Bounds Nat) (done : Nat)
    (input : List Char) :
    (more item delimiter count done input).Alike (more item' delimiter' count done input) := by
  fun_induction more item delimiter count done input with
  | case1 done input hreached =>
    rw [more.eq_def item', if_pos hreached]
    exact none_alike input
  | case2 done input hreached hround =>
    have hrounds := round_alike hitem hdelimiter input
    rw [hround] at hrounds
    rw [more.eq_def item', if_neg hreached]
    generalize round item' delimiter' input = round' at hrounds
    cases hrounds
    exact none_alike input
  | case3 done input hreached next hround hless ih =>
    have hrounds := round_alike hitem hdelimiter input
    rw [hround] at hrounds
    rw [more.eq_def item', if_neg hreached]
    generalize round item' delimiter' input = round' at hrounds
    cases hrounds with
    | some hnext =>
      rw [hnext.remaining] at hless ih ⊢
      dsimp only
      rw [if_pos hless]
      exact before_alike hnext ih
  | case4 done input hreached next hround hless =>
    have hrounds := round_alike hitem hdelimiter input
    rw [hround] at hrounds
    rw [more.eq_def item', if_neg hreached]
    generalize round item' delimiter' input = round' at hrounds
    cases hrounds with
    | some hnext =>
      rw [hnext.remaining] at hless ⊢
      dsimp only
      rw [if_neg hless]
      exact before_alike hnext (none_alike _)

theorem items_alike (hitem : Matcher.Alike item item')
    (hdelimiter : Option.Rel Matcher.Alike delimiter delimiter') (count : Bounds Nat)
    (input : List Char) :
    (items item delimiter count input).Alike (items item' delimiter' count input) := by
  have hnone : delimiter.isNone = delimiter'.isNone := by cases hdelimiter <;> rfl
  unfold items
  rw [hnone]
  have hfirst := hitem input
  generalize item input = first, item' input = first' at hfirst
  cases hfirst with
  | error why => exact none_alike input
  | @ok first first' h =>
    have hstalled : stalled input first = stalled input first' := by
      rw [stalled, stalled, h.remaining]
    dsimp only
    rw [hstalled, h.remaining]
    split_ifs
    · exact before_alike h (none_alike _)
    · exact before_alike h (more_alike hitem hdelimiter count 1 _)

theorem outcome_alike (count : Bounds Nat) {a : Items C} {b : Items D} (h : a.Alike b) :
    SameVerdict Parsed.Alike (a.outcome count) (b.outcome count) := by
  unfold Items.outcome
  rw [h.length, h.consumed]
  split
  · exact .ok ⟨rfl, h.remaining⟩
  · split_ifs
    · exact .error _
    · exact .ok ⟨rfl, h.remaining⟩

theorem read_alike (hitem : Matcher.Alike item item')
    (hdelimiter : Option.Rel Matcher.Alike delimiter delimiter') (count : Bounds Nat) :
    Matcher.Alike (read item delimiter count) (read item' delimiter' count) := by
  intro input
  unfold read
  split_ifs
  · exact .ok ⟨rfl, rfl⟩
  · exact outcome_alike count (items_alike hitem hdelimiter count input)

end Repetition

end Tabletop
