import Mathlib.Tactic.ByContra
import Mathlib.Tactic.SplitIfs
import Tabletop.Siege

/-!
# Bids for the first move

Bids are made in the order of the seats, so that the number of bids made is also the
seat of the next bidder. `InTurn` says so of the bids of a game under way, together with
what the rules and the grammar ask of a bid: nobody repeats another's, and all lie
within the limits. Since no two bids are alike, the highest one belongs to one player.
-/

namespace Tabletop.Siege

/-- Bids made in turn: the players with the lowest seats have each made one, all of them
different and within the limits. -/
structure InTurn (players made : Nat) (bids : List (Option Int)) : Prop where
  slots : bids.length = players
  made_iff : ∀ seat : Nat, (∃ amount, bids[seat]? = some (some amount)) ↔ seat < made
  different : ∀ (seat other : Nat) (amount : Int), bids[seat]? = some (some amount) →
    bids[other]? = some (some amount) → seat = other
  within : ∀ (seat : Nat) (amount : Int), bids[seat]? = some (some amount) → 0 ≤ amount ∧ amount ≤ 15

/-- A seat whose bid is above all others. -/
def Highest (bids : List (Option Int)) (seat : Nat) : Prop :=
  ∃ best, bids[seat]? = some (some best) ∧
    ∀ (other : Nat) (amount : Int), bids[other]? = some (some amount) → other ≠ seat →
      amount < best

namespace InTurn

variable {players made : Nat} {bids : List (Option Int)}

theorem start (players : Nat) : InTurn players 0 (List.replicate players none) := by
  have hnone (seat : Nat) (amount : Int) :
      ¬ (List.replicate players (none : Option Int))[seat]? = some (some amount) := by
    rw [List.getElem?_replicate]
    split_ifs <;> simp
  constructor
  · exact List.length_replicate
  · intro seat
    constructor
    · rintro ⟨amount, h⟩
      exact absurd h (hnone seat amount)
    · intro h
      exact absurd h (Nat.not_lt_zero seat)
  · intro seat _ amount h
    exact absurd h (hnone seat amount)
  · intro seat amount h
    exact absurd h (hnone seat amount)

/-- What is found among the bids after one more. -/
theorem getElem?_set (h : InTurn players made bids) (hmade : made < players) (amount : Int)
    {seat : Nat} {found : Int} :
    (bids.set made (some amount))[seat]? = some (some found) ↔
      (seat = made ∧ found = amount) ∨ bids[seat]? = some (some found) := by
  have hfree : ¬ ∃ amount, bids[made]? = some (some amount) := by
    rw [h.made_iff]
    exact Nat.lt_irrefl made
  rw [List.getElem?_set]
  split_ifs with hseat hlength
  · subst hseat
    constructor
    · intro hfound
      cases hfound
      exact .inl ⟨rfl, rfl⟩
    · rintro (⟨-, rfl⟩ | hfound)
      · rfl
      · exact absurd ⟨found, hfound⟩ hfree
  · rw [h.slots] at hlength
    exact absurd hmade hlength
  · constructor
    · exact .inr
    · rintro (⟨rfl, -⟩ | hfound)
      · exact absurd rfl hseat
      · exact hfound

/-- A bid that nobody has made yet is the next one. -/
theorem next (h : InTurn players made bids) (hmade : made < players) {amount : Int}
    (hfresh : some amount ∉ bids) (hwithin : 0 ≤ amount ∧ amount ≤ 15) :
    InTurn players (made + 1) (bids.set made (some amount)) := by
  have hold {seat : Nat} (hseat : bids[seat]? = some (some amount)) : False :=
    hfresh (List.mem_of_getElem? hseat)
  constructor
  · rw [List.length_set]
    exact h.slots
  · intro seat
    constructor
    · rintro ⟨found, hfound⟩
      rcases (h.getElem?_set hmade amount).mp hfound with ⟨rfl, -⟩ | hbefore
      · exact Nat.lt_succ_self _
      · exact Nat.lt_succ_of_lt ((h.made_iff seat).mp ⟨found, hbefore⟩)
    · intro hseat
      rcases Nat.lt_succ_iff_lt_or_eq.mp hseat with hbefore | rfl
      · obtain ⟨found, hfound⟩ := (h.made_iff seat).mpr hbefore
        exact ⟨found, (h.getElem?_set hmade amount).mpr (.inr hfound)⟩
      · exact ⟨amount, (h.getElem?_set hmade amount).mpr (.inl ⟨rfl, rfl⟩)⟩
  · intro seat other found hseat hother
    rcases (h.getElem?_set hmade amount).mp hseat with ⟨rfl, rfl⟩ | hbefore
    · rcases (h.getElem?_set hmade _).mp hother with ⟨rfl, -⟩ | hbefore
      · rfl
      · exact (hold hbefore).elim
    · rcases (h.getElem?_set hmade amount).mp hother with ⟨rfl, rfl⟩ | hbefore'
      · exact (hold hbefore).elim
      · exact h.different seat other found hbefore hbefore'
  · intro seat found hseat
    rcases (h.getElem?_set hmade amount).mp hseat with ⟨rfl, rfl⟩ | hbefore
    · exact hwithin
    · exact h.within seat found hbefore

/-- Everybody has bid exactly when there are as many bids as players. -/
theorem all_isSome_iff (h : InTurn players made bids) (hmade : made ≤ players) :
    bids.all Option.isSome = true ↔ made = players := by
  rw [List.all_eq_true]
  constructor
  · intro hall
    by_contra hne
    have hlt : made < bids.length := by
      rw [h.slots]
      omega
    obtain ⟨amount, hamount⟩ := Option.isSome_iff_exists.mp (hall _ (List.getElem_mem hlt))
    have hself := (h.made_iff made).mp ⟨amount, by rw [List.getElem?_eq_getElem hlt, hamount]⟩
    exact Nat.lt_irrefl made hself
  · rintro rfl bid hbid
    obtain ⟨seat, hlt, rfl⟩ := List.mem_iff_getElem.mp hbid
    obtain ⟨amount, hamount⟩ := (h.made_iff seat).mpr (by rw [← h.slots]; exact hlt)
    rw [List.getElem?_eq_getElem hlt] at hamount
    rw [Option.some.inj hamount]
    rfl

/-- Among at most three bids there is always a small number that nobody has bid. -/
theorem exists_fresh (h : InTurn players made bids) (hmade : made < 4) :
    ∃ amount : Int, (amount = 0 ∨ amount = 1 ∨ amount = 2 ∨ amount = 3) ∧ some amount ∉ bids := by
  by_contra hnone
  have hseat (amount : Int) (hamount : amount = 0 ∨ amount = 1 ∨ amount = 2 ∨ amount = 3) :
      ∃ seat < made, bids[seat]? = some (some amount) := by
    have hmem : some amount ∈ bids := by
      by_contra hfresh
      exact hnone ⟨amount, hamount, hfresh⟩
    obtain ⟨seat, hseat⟩ := List.mem_iff_getElem?.mp hmem
    exact ⟨seat, (h.made_iff seat).mp ⟨amount, hseat⟩, hseat⟩
  have hapart {seat other : Nat} {a b : Int} (hseat : bids[seat]? = some (some a))
      (hother : bids[other]? = some (some b)) (hne : a ≠ b) : seat ≠ other := by
    rintro rfl
    rw [hseat] at hother
    cases hother
    exact hne rfl
  -- Four different amounts would take up four different seats.
  obtain ⟨seat0, hseat0, hbid0⟩ := hseat 0 (by decide)
  obtain ⟨seat1, hseat1, hbid1⟩ := hseat 1 (by decide)
  obtain ⟨seat2, hseat2, hbid2⟩ := hseat 2 (by decide)
  obtain ⟨seat3, hseat3, hbid3⟩ := hseat 3 (by decide)
  have h01 := hapart hbid0 hbid1 (by decide)
  have h02 := hapart hbid0 hbid2 (by decide)
  have h03 := hapart hbid0 hbid3 (by decide)
  have h12 := hapart hbid1 hbid2 (by decide)
  have h13 := hapart hbid1 hbid3 (by decide)
  have h23 := hapart hbid2 hbid3 (by decide)
  omega

/-- The winner of the bidding is the one player with the highest bid. -/
theorem highest_winner (h : InTurn players made bids) (hmade : 0 < made) :
    Highest bids (winner bids) := by
  have hmem {seat : Nat} {amount : Int} (hseat : bids[seat]? = some (some amount)) :
      amount ∈ bids.filterMap id :=
    List.mem_filterMap.mpr ⟨some amount, List.mem_of_getElem? hseat, rfl⟩
  obtain ⟨first, hfirst⟩ := (h.made_iff 0).mpr hmade
  cases hmax : (bids.filterMap id).max? with
  | none =>
    have hempty := hmem hfirst
    rw [List.max?_eq_none_iff.mp hmax] at hempty
    cases hempty
  | some best =>
    obtain ⟨hbest, hle⟩ := List.max?_eq_some_iff.mp hmax
    obtain ⟨bid, hbid, hsome⟩ := List.mem_filterMap.mp hbest
    obtain rfl : bid = some best := hsome
    have hfind : ∃ seat, bids.findIdx? (· = some best) = some seat := by
      by_contra hnone
      rw [← Option.isSome_iff_exists, Bool.not_eq_true, Option.isSome_eq_false_iff,
        Option.isNone_iff_eq_none, List.findIdx?_eq_none_iff] at hnone
      simpa using hnone _ hbid
    obtain ⟨seat, hfound⟩ := hfind
    have hwinner : winner bids = seat := by
      unfold winner
      rw [hmax, Option.getD_some, hfound, Option.getD_some]
    obtain ⟨hlt, hseat, -⟩ := List.findIdx?_eq_some_iff_getElem.mp hfound
    have hseat' : bids[seat]? = some (some best) := by
      rw [List.getElem?_eq_getElem hlt, of_decide_eq_true hseat]
    rw [hwinner]
    refine ⟨best, hseat', fun other amount hother hne => ?_⟩
    have hamount := hle amount (hmem hother)
    have hdistinct : amount ≠ best := by
      rintro rfl
      exact hne (h.different other seat amount hother hseat')
    omega

end InTurn

end Tabletop.Siege
