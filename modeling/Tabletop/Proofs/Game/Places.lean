import Mathlib.Algebra.Ring.Nat
import Mathlib.Data.List.FinRange
import Mathlib.Data.List.Lex
import Tabletop.Game.Ranking

/-!
# Places count the players who did better

The place of a player is one more than there are players with better numbers, where the
better of two lists is the lexicographically greater one. This is said of each player
by looking at all the others. The program instead counts players into tiers and numbers
the tiers from the best one on, so that a running place has to stand for the players in
all the tiers above.

Counting is followed through the tiers by `headcount`: whatever is asked about a list
of numbers, the tiers have as many players to whom it applies as there are. That needs
no order. The order of the tiers is a separate matter, and with both the running place
is one count.
-/

namespace Tabletop.Ranking

/-- The better of two lists of numbers is the lexicographically greater one. -/
theorem better_iff_lt (a b : List Int) : better a b = true ↔ b < a := by
  fun_induction better a b with
  | case1 b => simp
  | case2 a as => simp
  | case3 a as b bs ih =>
    rw [Bool.or_eq_true, Bool.and_eq_true, decide_eq_true_eq, beq_iff_eq, ih,
      List.cons_lt_cons_iff, eq_comm]

/-! ## Counting through the tiers -/

/-- How many players of some tiers have numbers with a property. -/
def headcount (p : List Int → Bool) (ladder : List Tier) : Nat :=
  ((ladder.filter (p ·.1)).map (·.2)).sum

variable {p : List Int → Bool} {metrics own top : List Int} {ladder rest : List Tier}
  {count place : Nat}

@[simp]
theorem headcount_nil : headcount p [] = 0 := rfl

theorem headcount_cons_of_pos (h : p top = true) :
    headcount p ((top, count) :: rest) = count + headcount p rest := by
  simp [headcount, h]

theorem headcount_cons_of_neg (h : ¬p top = true) :
    headcount p ((top, count) :: rest) = headcount p rest := by
  simp [headcount, h]

theorem headcount_eq_zero (h : ∀ tier ∈ ladder, ¬p tier.1 = true) : headcount p ladder = 0 := by
  rw [headcount, List.filter_eq_nil_iff.mpr h]
  rfl

/-- Tallying one more player adds one wherever this player is counted. -/
theorem headcount_tally (p : List Int → Bool) (metrics : List Int) (ladder : List Tier) :
    headcount p (tally metrics ladder) = headcount p ladder + if p metrics then 1 else 0 := by
  have hnew : ∀ rest : List Tier,
      headcount p ((metrics, 1) :: rest) = headcount p rest + if p metrics then 1 else 0 := by
    intro rest
    by_cases hp : p metrics = true
    · rw [headcount_cons_of_pos hp, if_pos hp, Nat.add_comm]
    · rw [headcount_cons_of_neg hp, if_neg hp, Nat.add_zero]
  fun_induction tally metrics ladder with
  | case1 => exact hnew []
  | case2 count rest =>
    by_cases hp : p metrics = true
    · rw [headcount_cons_of_pos hp, headcount_cons_of_pos hp, if_pos hp]
      omega
    · rw [headcount_cons_of_neg hp, headcount_cons_of_neg hp, if_neg hp, Nat.add_zero]
  | case3 top count rest => exact hnew _
  | case4 top count rest _ _ ih =>
    by_cases hp : p top = true
    · rw [headcount_cons_of_pos hp, headcount_cons_of_pos hp, ih, Nat.add_assoc]
    · rw [headcount_cons_of_neg hp, headcount_cons_of_neg hp, ih]

/-- The tiers have as many players with a property as there are. -/
theorem headcount_tiers (p : List Int → Bool) (metrics : List (List Int)) :
    headcount p (tiers metrics) = metrics.countP p := by
  have hfold : ∀ started : List Tier,
      headcount p (metrics.foldl (fun ladder m => tally m ladder) started) =
        headcount p started + metrics.countP p := by
    induction metrics with
    | nil => intro started; rfl
    | cons m metrics ih =>
      intro started
      rw [List.foldl_cons, ih, headcount_tally, List.countP_cons]
      omega
  rw [tiers, hfold, headcount_nil, Nat.zero_add]

/-! ## The order of the tiers -/

/-- The tiers have different numbers, and the best come first. -/
def Descending (ladder : List Tier) : Prop :=
  ladder.Pairwise fun high low => low.1 < high.1

theorem mem_tally {tier : Tier} (h : tier ∈ tally metrics ladder) :
    tier.1 = metrics ∨ ∃ before ∈ ladder, before.1 = tier.1 := by
  fun_induction tally metrics ladder with
  | case1 =>
    rw [List.mem_singleton] at h
    exact .inl (by rw [h])
  | case2 count rest =>
    rcases List.mem_cons.mp h with rfl | hrest
    · exact .inl rfl
    · exact .inr ⟨tier, List.mem_cons_of_mem _ hrest, rfl⟩
  | case3 top count rest =>
    rcases List.mem_cons.mp h with rfl | hold
    · exact .inl rfl
    · exact .inr ⟨tier, hold, rfl⟩
  | case4 top count rest _ _ ih =>
    rcases List.mem_cons.mp h with rfl | hrest
    · exact .inr ⟨_, List.mem_cons_self, rfl⟩
    · obtain heq | ⟨before, hbefore, heq⟩ := ih hrest
      · exact .inl heq
      · exact .inr ⟨before, List.mem_cons_of_mem _ hbefore, heq⟩

/-- Tallying keeps the tiers in order. -/
theorem descending_tally (h : Descending ladder) : Descending (tally metrics ladder) := by
  fun_induction tally metrics ladder with
  | case1 => exact List.pairwise_singleton _ _
  | case2 count rest =>
    obtain ⟨htop, hrest⟩ := List.pairwise_cons.mp h
    exact List.pairwise_cons.mpr ⟨htop, hrest⟩
  | case3 top count rest _ hbetter =>
    have htop : top < metrics := (better_iff_lt metrics top).mp hbetter
    refine List.pairwise_cons.mpr ⟨fun low hlow => ?_, h⟩
    rcases List.mem_cons.mp hlow with rfl | hlow
    · exact htop
    · exact lt_trans ((List.pairwise_cons.mp h).1 low hlow) htop
  | case4 top count rest hne hnot ih =>
    obtain ⟨htop, hrest⟩ := List.pairwise_cons.mp h
    have hmetrics : metrics < top := by
      rcases lt_trichotomy metrics top with hlt | heq | hgt
      · exact hlt
      · exact absurd heq hne
      · exact absurd ((better_iff_lt metrics top).mpr hgt) hnot
    refine List.pairwise_cons.mpr ⟨fun low hlow => ?_, ih hrest⟩
    obtain heq | ⟨before, hbefore, heq⟩ := mem_tally hlow
    · rw [heq]
      exact hmetrics
    · rw [← heq]
      exact htop before hbefore

theorem descending_tiers (metrics : List (List Int)) : Descending (tiers metrics) := by
  have hfold : ∀ started : List Tier, Descending started →
      Descending (metrics.foldl (fun ladder m => tally m ladder) started) := by
    induction metrics with
    | nil => intro started h; exact h
    | cons m metrics ih => intro started h; exact ih _ (descending_tally h)
  exact hfold [] List.Pairwise.nil

/-- Everybody's numbers are those of a tier. -/
theorem exists_tier {metrics : List (List Int)} (h : own ∈ metrics) :
    ∃ tier ∈ tiers metrics, tier.1 = own := by
  by_contra hnone
  have hzero : headcount (· = own) (tiers metrics) = 0 := by
    refine headcount_eq_zero fun tier htier => ?_
    rw [decide_eq_true_eq]
    exact fun heq => hnone ⟨tier, htier, heq⟩
  rw [headcount_tiers, List.countP_eq_zero] at hzero
  exact hzero own h (decide_eq_true rfl)

/-- The running place counts the players in the tiers above. -/
theorem placeFrom_eq (h : Descending ladder) (hown : ∃ tier ∈ ladder, tier.1 = own) :
    placeFrom place own ladder = place + headcount (own < ·) ladder := by
  fun_induction placeFrom place own ladder with
  | case1 place => obtain ⟨tier, hmem, -⟩ := hown; cases hmem
  | case2 place count rest =>
    -- nobody is above the first tier
    have hnone : headcount (own < ·) ((own, count) :: rest) = 0 := by
      refine headcount_eq_zero fun tier htier => ?_
      rw [decide_eq_true_eq]
      rcases List.mem_cons.mp htier with rfl | hlow
      · exact lt_irrefl _
      · exact lt_asymm ((List.pairwise_cons.mp h).1 tier hlow)
    rw [hnone, Nat.add_zero]
  | case3 place top count rest hne ih =>
    obtain ⟨htop, hrest⟩ := List.pairwise_cons.mp h
    obtain ⟨tier, htier, rfl⟩ := hown
    have hlow : tier ∈ rest := by
      rcases List.mem_cons.mp htier with rfl | hlow
      · exact absurd rfl hne
      · exact hlow
    rw [ih hrest ⟨tier, hlow, rfl⟩, headcount_cons_of_pos (decide_eq_true (htop tier hlow)),
      Nat.add_assoc]

/-! ## Places -/

/-- The place of some numbers among those of all players: one more than there are players with
better ones. -/
def standing (metrics : List (List Int)) (own : List Int) : Nat :=
  1 + metrics.countP (own < ·)

theorem placings_eq (metrics : List (List Int)) :
    placings metrics = metrics.map (standing metrics) := by
  refine List.map_congr_left fun own hown => ?_
  rw [placeFrom_eq (descending_tiers metrics) (exists_tier hown), headcount_tiers, standing]

theorem getElem?_placings (metrics : List (List Int)) {i : Nat} (hi : i < metrics.length) :
    (placings metrics)[i]? = some (standing metrics metrics[i]) := by
  rw [placings_eq, List.getElem?_map, List.getElem?_eq_getElem hi, Option.map_some]

/-- Who is better than the lower of two is better than the higher, equal to it, or between them. -/
theorem countP_lt_of_lt {low high : List Int} (h : low < high) (metrics : List (List Int)) :
    metrics.countP (low < ·) = metrics.countP (high < ·) + metrics.count high +
      metrics.countP fun m => low < m ∧ m < high := by
  induction metrics with
  | nil => rfl
  | cons m metrics ih =>
    rw [List.countP_cons, List.countP_cons, List.countP_cons, List.count_cons, ih]
    simp only [decide_eq_true_eq, beq_iff_eq]
    rcases lt_trichotomy m high with hbelow | rfl | habove
    · have hnot : ¬high < m := lt_asymm hbelow
      simp only [hnot, hbelow, hbelow.ne, and_true, if_false]
      omega
    · simp only [h, lt_irrefl, and_false, if_true, if_false]
      omega
    · have hlow : low < m := lt_trans h habove
      have hnot : ¬m < high := lt_asymm habove
      simp only [hlow, habove, hnot, habove.ne', and_false, if_true, if_false]
      omega

/-- Better numbers have a lower place, and the places between are for those who share it. -/
theorem standing_of_lt {low high : List Int} (h : low < high) (metrics : List (List Int)) :
    standing metrics low = standing metrics high + metrics.count high +
      metrics.countP fun m => low < m ∧ m < high := by
  rw [standing, countP_lt_of_lt h, standing]
  omega

theorem standing_inj {metrics : List (List Int)} {one other : List Int} (hone : one ∈ metrics)
    (hother : other ∈ metrics) : standing metrics one = standing metrics other ↔ one = other := by
  constructor
  · intro heq
    rcases lt_trichotomy one other with hlt | rfl | hgt
    · have hlater := standing_of_lt hlt metrics
      have hcount := List.count_pos_iff.mpr hother
      omega
    · rfl
    · have hlater := standing_of_lt hgt metrics
      have hcount := List.count_pos_iff.mpr hone
      omega
  · intro heq
    rw [heq]

/-- Standard competition ranking: a place counts the better players, ties share a place, and the
next place skips as many as share it. -/
structure CompetitionRanking (metrics : List (List Int)) (places : List Nat) : Prop where
  length_eq : places.length = metrics.length
  place_eq : ∀ (i : Nat) (hi : i < metrics.length),
    places[i]? = some (1 + metrics.countP (metrics[i] < ·))
  tied_iff : ∀ (i j : Nat) (hi : i < metrics.length) (hj : j < metrics.length),
    places[i]? = places[j]? ↔ metrics[i] = metrics[j]
  next_eq : ∀ (i j : Nat) (hi : i < metrics.length) (hj : j < metrics.length),
    metrics[j] < metrics[i] → (∀ m ∈ metrics, ¬(metrics[j] < m ∧ m < metrics[i])) →
      places[j]? = places[i]?.map (· + metrics.count metrics[i])

/-- Players are ranked as in a competition, in whatever order they are given: put into another
order, they keep their places. -/
theorem placings_competition (metrics : List (List Int)) :
    CompetitionRanking metrics (placings metrics) ∧
      ∀ (σ : Equiv.Perm (Fin metrics.length)) (i : Fin metrics.length),
        (placings (List.ofFn (metrics.get ∘ σ)))[i.val]? = (placings metrics)[(σ i).val]? := by
  refine ⟨⟨?_, ?_, ?_, ?_⟩, ?_⟩
  · rw [placings_eq, List.length_map]
  · intro i hi
    exact getElem?_placings metrics hi
  · intro i j hi hj
    rw [getElem?_placings metrics hi, getElem?_placings metrics hj, Option.some_inj]
    exact standing_inj (List.getElem_mem hi) (List.getElem_mem hj)
  · intro i j hi hj hlt hnone
    have hbetween : metrics.countP (fun m => metrics[j] < m ∧ m < metrics[i]) = 0 := by
      rw [List.countP_eq_zero]
      intro m hm
      rw [decide_eq_true_eq]
      exact hnone m hm
    rw [getElem?_placings metrics hi, getElem?_placings metrics hj, standing_of_lt hlt, hbetween]
    rfl
  · intro σ i
    have hperm : (List.ofFn (metrics.get ∘ σ)).Perm metrics := by
      have hofFn := σ.ofFn_comp_perm metrics.get
      rwa [List.ofFn_get] at hofFn
    have hi : i.val < (List.ofFn (metrics.get ∘ σ)).length := by
      rw [List.length_ofFn]
      exact i.isLt
    rw [getElem?_placings _ hi, getElem?_placings metrics (σ i).isLt, List.getElem_ofFn, standing,
      standing, hperm.countP_eq]
    rfl

/-- Two share the second place, behind the one whose numbers go on after theirs; the fourth is
fourth. -/
example : placings [[12, 35], [9], [12, 35, 0], [12, 35]] = [2, 4, 1, 2] := by decide

end Tabletop.Ranking
