import Mathlib.Data.List.Induction
import Mathlib.Tactic.SplitIfs
import Tabletop.Grammar.Run
import Tabletop.Proofs.Grammar.Leaders
import Tabletop.Proofs.Text.Phrases

/-!
# Which names survive

What a player typed stands for the candidate that it agrees with furthest. A name
typed in full beats names that go on, and nothing else does; in particular the order
in which the candidates are listed decides nothing. `survivors` says this of the whole
list of candidates at once, and the shortlist, which takes them one at a time, always
holds the survivors of those it has seen.
-/

namespace Tabletop

universe u

variable {C : Type u}

namespace Candidate

/-- How many characters at the beginning of the input agree, one by one and up to case, with
those of the name. -/
def agreed (input : List Char) (candidate : Candidate C) : Nat :=
  ((input.zip candidate.name.toList).takeWhile fun (c, d) =>
    Text.lowercase c = Text.lowercase d).length

/-- The whole name is at the beginning of the input. -/
def IsFull (input : List Char) (candidate : Candidate C) : Prop :=
  candidate.agreed input = candidate.name.toList.length

instance (input : List Char) (candidate : Candidate C) : Decidable (candidate.IsFull input) :=
  inferInstanceAs (Decidable (_ = _))

/-- Something of the name was typed, and all of it where that is required. -/
def IsEligible (exact : Bool) (input : List Char) (candidate : Candidate C) : Prop :=
  0 < candidate.agreed input ∧ (exact = false ∨ candidate.IsFull input)

instance (exact : Bool) (input : List Char) (candidate : Candidate C) :
    Decidable (candidate.IsEligible exact input) :=
  inferInstanceAs (Decidable (_ ∧ _))

def eligible (exact : Bool) (input : List Char) (candidates : List (Candidate C)) :
    List (Candidate C) :=
  candidates.filter (IsEligible exact input ·)

/-- The most characters that the input agrees with an eligible candidate in, or 0. -/
def longest (exact : Bool) (input : List Char) (candidates : List (Candidate C)) : Nat :=
  greatest (agreed input) (eligible exact input candidates)

/-- Those typed in full if there are any, and otherwise all. -/
def preferFull (input : List Char) (candidates : List (Candidate C)) : List (Candidate C) :=
  match candidates.filter (IsFull input ·) with
  | [] => candidates
  | full => full

/-- Of the eligible candidates that the input agrees with furthest, those typed in full, or all if
none was. -/
def survivors (exact : Bool) (input : List Char) (candidates : List (Candidate C)) :
    List (Candidate C) :=
  preferFull input (leaders (agreed input) (eligible exact input candidates))

theorem length_agreement_name (input : List Char) (candidate : Candidate C) :
    (Text.agreement input candidate.name.toList).length = candidate.agreed input := by
  unfold agreed
  fun_induction Text.agreement input candidate.name.toList with
  | case1 c input d target hsame ih =>
    have hletters := Text.sameLetter_iff.mp hsame
    simp [hletters, ih]
  | case2 c input d target hother =>
    have hletters := mt Text.sameLetter_iff.mpr hother
    simp [hletters]
  | case3 input target hnone =>
    cases input with
    | nil => rfl
    | cons c input =>
      cases target with
      | nil => rfl
      | cons d target => exact (hnone c input d target rfl rfl).elim

/-! ## One more candidate -/

section

variable {exact : Bool} {input : List Char} {seen : List (Candidate C)} {candidate : Candidate C}

theorem eligible_concat_of_not (h : ¬ candidate.IsEligible exact input) :
    eligible exact input (seen ++ [candidate]) = eligible exact input seen := by
  simp [eligible, h]

theorem eligible_concat (h : candidate.IsEligible exact input) :
    eligible exact input (seen ++ [candidate]) = eligible exact input seen ++ [candidate] := by
  simp [eligible, h]

theorem preferFull_of_any {list : List (Candidate C)} (h : list.any (IsFull input ·) = true) :
    preferFull input list = list.filter (IsFull input ·) := by
  unfold preferFull
  split
  · rename_i hnone
    rw [List.filter_eq_nil_iff] at hnone
    obtain ⟨found, hmem, hfull⟩ := List.any_eq_true.mp h
    exact absurd hfull (hnone found hmem)
  · rfl

theorem filter_of_none {list : List (Candidate C)} (h : list.any (IsFull input ·) = false) :
    list.filter (IsFull input ·) = [] := by
  rw [List.filter_eq_nil_iff]
  exact List.any_eq_false.mp h

theorem preferFull_of_none {list : List (Candidate C)} (h : list.any (IsFull input ·) = false) :
    preferFull input list = list := by
  unfold preferFull
  rw [filter_of_none h]

/-- What one more candidate, which the input agrees with as far, does to those preferred. -/
theorem preferFull_concat (list : List (Candidate C)) (candidate : Candidate C) :
    preferFull input (list ++ [candidate]) =
      if candidate.IsFull input ∧ list.any (IsFull input ·) = false then [candidate]
      else if candidate.IsFull input ∨ list.any (IsFull input ·) = false then
        preferFull input list ++ [candidate]
      else preferFull input list := by
  cases hany : list.any (IsFull input ·) with
  | true =>
    have hmore : (list ++ [candidate]).any (IsFull input ·) = true := by
      rw [List.any_append, hany, Bool.true_or]
    rw [preferFull_of_any hany, preferFull_of_any hmore, List.filter_append]
    by_cases hfull : candidate.IsFull input
    · simp [hfull]
    · simp [hfull]
  | false =>
    by_cases hfull : candidate.IsFull input
    · have hmore : (list ++ [candidate]).any (IsFull input ·) = true := by simp [hfull]
      rw [preferFull_of_any hmore, List.filter_append, filter_of_none hany]
      simp [hfull]
    · have hmore : (list ++ [candidate]).any (IsFull input ·) = false := by simp [hany, hfull]
      rw [preferFull_of_none hany, preferFull_of_none hmore]
      simp [hfull]

end

end Candidate

/-! ## The shortlist -/

namespace Shortlist

open Candidate

/-- The shortlist once these candidates lead, all of which agree in as many characters. -/
def ofLeaders (input : List Char) (length : Nat) (list : List (Candidate C)) : Shortlist C :=
  ⟨preferFull input list, length, list.any (IsFull input ·)⟩

variable {exact : Bool} {input : List Char} {candidate : Candidate C}

theorem consider_of_not_eligible (h : ¬ candidate.IsEligible exact input) (list : Shortlist C) :
    consider exact input list candidate = list := by
  unfold consider
  rw [length_agreement_name]
  dsimp only
  split_ifs with hexact hshort hbetter hlisted hlisted
  · rfl
  · rfl
  all_goals
    refine absurd ⟨?_, ?_⟩ h
    · simp at hshort
      omega
    · cases exact
      · exact .inl rfl
      · exact .inr (by simpa [IsFull] using hexact)

/-- A candidate that the input agrees with less far than with those that lead is passed over. -/
theorem consider_of_shorter {length : Nat} {list : List (Candidate C)}
    (hshorter : candidate.agreed input < length) :
    consider exact input (ofLeaders input length list) candidate =
      ofLeaders input length list := by
  unfold consider
  rw [length_agreement_name]
  simp [ofLeaders, hshorter]

/-- What becomes of the shortlist when a candidate is at least as good as those on it. -/
theorem consider_of_eligible (h : candidate.IsEligible exact input) {list : Shortlist C}
    (hreached : list.length ≤ candidate.agreed input) :
    consider exact input list candidate =
      if list.length < candidate.agreed input ∨ candidate.IsFull input ∧ list.full = false then
        ⟨[candidate], candidate.agreed input, candidate.IsFull input⟩
      else if candidate.IsFull input ∨ list.full = false then
        { list with listed := list.listed ++ [candidate] }
      else list := by
  obtain ⟨hpositive, hexact⟩ := h
  have hfull : (candidate.agreed input == candidate.name.toList.length) =
      decide (candidate.IsFull input) := rfl
  have hadmitted : ¬ (exact && !decide (candidate.IsFull input)) = true := by
    rcases hexact with rfl | hfull
    · simp
    · simp [hfull]
  have hnear : ¬ (candidate.agreed input == 0 ||
      decide (candidate.agreed input < list.length)) = true := by
    simp only [Bool.or_eq_true, beq_iff_eq, decide_eq_true_eq]
    omega
  unfold consider
  rw [length_agreement_name]
  dsimp only
  rw [hfull, if_neg hadmitted, if_neg hnear]
  by_cases hlonger : list.length < candidate.agreed input
  · simp [hlonger]
  · cases hlist : list.full <;> by_cases hwhole : candidate.IsFull input <;>
      simp [hlonger, hlist, hwhole]

/-- A candidate that the input agrees with further displaces those that led. -/
theorem consider_of_longer (h : candidate.IsEligible exact input) {length : Nat}
    {list : List (Candidate C)} (hlonger : length < candidate.agreed input) :
    consider exact input (ofLeaders input length list) candidate =
      ofLeaders input (candidate.agreed input) [candidate] := by
  rw [consider_of_eligible h (Nat.le_of_lt hlonger), if_pos (.inl hlonger)]
  by_cases hfull : candidate.IsFull input
  · simp [ofLeaders, preferFull, hfull]
  · simp [ofLeaders, preferFull, hfull]

/-- A candidate that the input agrees with as far joins those that lead. -/
theorem consider_of_same (h : candidate.IsEligible exact input) {list : List (Candidate C)} :
    consider exact input (ofLeaders input (candidate.agreed input) list) candidate =
      ofLeaders input (candidate.agreed input) (list ++ [candidate]) := by
  rw [consider_of_eligible h (Nat.le_refl _), ofLeaders, ofLeaders, preferFull_concat]
  simp only [Nat.lt_irrefl, false_or, List.any_append, List.any_cons, List.any_nil, Bool.or_false]
  split_ifs with hdisplaces hjoins
  · simp [hdisplaces]
  · rcases hjoins with hfull | hnone
    · have hany : list.any (IsFull input ·) = true := by simpa [hfull] using hdisplaces
      simp [hany]
    · have hpart : ¬ candidate.IsFull input := fun hfull => hdisplaces ⟨hfull, hnone⟩
      simp [hpart]
  · have hany : list.any (IsFull input ·) = true := by simpa using (not_or.mp hjoins).2
    simp [hany]

/-- The shortlist holds the survivors among the candidates considered. -/
theorem ofCandidates_eq (candidates : List (Candidate C)) (exact : Bool) (input : List Char) :
    ofCandidates candidates exact input =
      ofLeaders input (longest exact input candidates)
        (leaders (agreed input) (eligible exact input candidates)) := by
  unfold ofCandidates longest
  -- From the end, since a candidate meets the survivors of all that came before it.
  induction candidates using List.reverseRecOn with
  | nil => rfl
  | append_singleton seen candidate ih =>
    rw [List.foldl_append, ih, List.foldl_cons, List.foldl_nil]
    by_cases h : candidate.IsEligible exact input
    · rw [eligible_concat h, greatest_append, greatest_singleton]
      rcases Nat.lt_trichotomy (candidate.agreed input)
        (greatest (agreed input) (eligible exact input seen)) with hlt | heq | hgt
      · rw [consider_of_shorter hlt, leaders_concat_of_lt hlt, Nat.max_eq_left (Nat.le_of_lt hlt)]
      · rw [leaders_concat_of_eq heq, ← heq, consider_of_same h, Nat.max_self]
      · rw [consider_of_longer h hgt, leaders_concat_of_gt hgt,
          Nat.max_eq_right (Nat.le_of_lt hgt)]
    · rw [consider_of_not_eligible h, eligible_concat_of_not h]

-- A name typed in full beats the longer one before it.
example : ((ofCandidates [⟨"northern", .absent⟩, ⟨"north", .absent⟩] false "North".toList :
    Shortlist Unit).listed.map (·.name)) = ["north"] := by
  decide +kernel

end Shortlist

/-! ## What is read -/

namespace Candidate

variable {exact : Bool} {input : List Char} {candidates others : List (Candidate C)}

theorem mem_of_mem_preferFull {list : List (Candidate C)} {candidate : Candidate C}
    (h : candidate ∈ preferFull input list) : candidate ∈ list := by
  unfold preferFull at h
  split at h
  · exact h
  · exact List.mem_of_mem_filter h

/-- The input agrees with each survivor as far as with any eligible candidate. -/
theorem agreed_of_mem_survivors {candidate : Candidate C}
    (h : candidate ∈ survivors exact input candidates) :
    candidate.agreed input = longest exact input candidates := by
  have hleads := List.mem_filter.mp (mem_of_mem_preferFull h)
  exact of_decide_eq_true hleads.2

theorem agreed_le_length (input : List Char) (candidate : Candidate C) :
    candidate.agreed input ≤ input.length := by
  rw [← length_agreement_name]
  exact (Text.agreement_isPrefix input candidate.name.toList).length_le

theorem preferFull_perm {list list' : List (Candidate C)} (h : list.Perm list') :
    (preferFull input list).Perm (preferFull input list') := by
  have hany : list.any (IsFull input ·) = list'.any (IsFull input ·) := h.any_eq
  cases hfull : list.any (IsFull input ·) with
  | true =>
    rw [preferFull_of_any hfull, preferFull_of_any (hany ▸ hfull)]
    exact h.filter _
  | false =>
    rw [preferFull_of_none hfull, preferFull_of_none (hany ▸ hfull)]
    exact h

theorem longest_perm (h : candidates.Perm others) :
    longest exact input candidates = longest exact input others :=
  greatest_perm (h.filter _)

theorem survivors_perm (exact : Bool) (input : List Char) (h : candidates.Perm others) :
    (survivors exact input candidates).Perm (survivors exact input others) :=
  preferFull_perm (leaders_perm (h.filter _))

/-- Reading a name by way of its survivors. -/
theorem read_eq (candidates : List (Candidate C)) (exact : Bool) (input : List Char) :
    read candidates exact input =
      match survivors exact input candidates with
      | [] => .error ⟨none, candidates.map (·.name), 0⟩
      | [only] => .ok ⟨only.value, input.take (longest exact input candidates),
          input.drop (longest exact input candidates)⟩
      | several => .error ⟨some ("matched " ++ Text.joined "and" (several.map (·.name)) ++
          ", more input is required to uniquely match one"), candidates.map (·.name), 0⟩ := by
  unfold read
  rw [Shortlist.ofCandidates_eq]
  unfold Text.phraseAnd
  simp only [Text.phrase_eq_joined]
  rfl

/-- What becomes of a text that a player typed for one of the candidates. -/
structure Resolves (candidates : List (Candidate C)) (exact : Bool) (input : List Char)
    (outcome : Outcome C) : Prop where
  succeeds_iff : (∃ parsed, outcome = .ok parsed) ↔
    ∃ only, survivors exact input candidates = [only]
  reads : ∀ parsed, outcome = .ok parsed → ∃ only, survivors exact input candidates = [only] ∧
    parsed.value = only.value ∧ parsed.consumed.length = longest exact input candidates ∧
    parsed.consumed ++ parsed.remaining = input
  lists : ∀ why, outcome = .error why → why.expected = candidates.map (·.name) ∧ why.offset = 0
  unknown : eligible exact input candidates = [] → ∃ why, outcome = .error why ∧ why.message = none
  ambiguous : 1 < (survivors exact input candidates).length → ∃ why, outcome = .error why ∧
    why.message = some ("matched " ++
      Text.joined "and" ((survivors exact input candidates).map (·.name)) ++
      ", more input is required to uniquely match one")

theorem survivors_of_eligible (h : eligible exact input candidates = []) :
    survivors exact input candidates = [] := by
  unfold survivors
  rw [h]
  rfl

theorem read_resolves (candidates : List (Candidate C)) (exact : Bool) (input : List Char) :
    Resolves candidates exact input (read candidates exact input) := by
  rw [read_eq]
  cases hsurvivors : survivors exact input candidates with
  | nil =>
    refine ⟨by simp [hsurvivors], nofun, ?_, fun _ => ⟨_, rfl, rfl⟩, by simp [hsurvivors]⟩
    rintro why ⟨⟩
    exact ⟨rfl, rfl⟩
  | cons first rest =>
    have hsome : eligible exact input candidates ≠ [] := by
      intro hnone
      rw [survivors_of_eligible hnone] at hsurvivors
      cases hsurvivors
    cases rest with
    | nil =>
      have hmem : first ∈ survivors exact input candidates := by simp [hsurvivors]
      have hwithin : longest exact input candidates ≤ input.length := by
        rw [← agreed_of_mem_survivors hmem]
        exact agreed_le_length input first
      refine ⟨by simp [hsurvivors], ?_, nofun, fun hnone => absurd hnone hsome,
        by simp [hsurvivors]⟩
      rintro parsed ⟨⟩
      exact ⟨first, hsurvivors, rfl, List.length_take_of_le hwithin, List.take_append_drop _ _⟩
    | cons second rest =>
      refine ⟨by simp [hsurvivors], nofun, ?_, fun hnone => absurd hnone hsome, fun _ => ?_⟩
      · rintro why ⟨⟩
        exact ⟨rfl, rfl⟩
      · rw [hsurvivors]
        exact ⟨_, rfl, rfl⟩

/-- Whatever the order of the candidates, the same is read or nothing. -/
theorem toOption_read_perm (h : candidates.Perm others) (exact : Bool) (input : List Char) :
    (read candidates exact input).toOption = (read others exact input).toOption := by
  have hsame := survivors_perm exact input h
  rw [read_eq, read_eq, longest_perm h]
  cases hsurvivors : survivors exact input candidates with
  | nil =>
    rw [hsurvivors] at hsame
    rw [hsame.symm.eq_nil]
    rfl
  | cons first rest =>
    rw [hsurvivors] at hsame
    cases rest with
    | nil =>
      rw [hsame.symm.eq_singleton]
    | cons second rest =>
      have hlength := hsame.length_eq
      match hothers : survivors exact input others with
      | [] => simp [hothers] at hlength
      | [only] => simp [hothers] at hlength
      | _ :: _ :: _ => rfl

end Candidate

namespace Grammar

/-- A player's text stands for the only survivor among the candidates, and for nothing if there is
none or more than one. Which candidate it stands for, and how much of it is read, does not depend on
the order of the candidates. -/
theorem parse_choice_resolves (candidates : List (Candidate C)) (exact : Bool) (input : String)
    (names : List String) :
    Candidate.Resolves candidates exact input.toList
        ((choice candidates exact).parse input names) ∧
      ∀ others, candidates.Perm others →
        ((choice candidates exact).parse input names).toOption =
          ((choice others exact).parse input names).toOption := by
  simp only [parse, run]
  exact ⟨Candidate.read_resolves candidates exact input.toList,
    fun others h => Candidate.toOption_read_perm h exact input.toList⟩

end Grammar

end Tabletop
