import Mathlib.Data.List.TakeWhile
import Mathlib.Tactic.SplitIfs
import Tabletop.Grammar.Run

/-!
# Values conform to their grammar

Games take values apart by position, and a projection that finds nothing gives
`absent` without a word. They rely on the shape that a grammar promises.
`Grammar.Conforms` is that promise as a relation between a grammar, a value and the
text the value stands for. It has one rule for each kind of node, and it does not
say how a text is searched for a reading. Every successful reading satisfies it.

A grammar whose values are transformed promises a transformed value; for a grammar
without such nodes the relation speaks of the grammar alone.
-/

namespace Tabletop

universe u

variable {C : Type u}

/-- No limit that is set excludes a number. -/
def Bounds.Admits {α : Type} [LE α] (bounds : Bounds α) (a : α) : Prop :=
  (∀ least ∈ bounds.least, least ≤ a) ∧ ∀ most ∈ bounds.most, a ≤ most

/-- The limits on a number of repetitions leave nothing to repeat. -/
def Bounds.Empty (count : Bounds Nat) : Prop :=
  count.most = some 0 ∨ ∃ least ∈ count.least, ∃ most ∈ count.most, most < least

theorem Bounds.isVoid_iff {count : Bounds Nat} : count.isVoid = true ↔ count.Empty := by
  obtain ⟨least, most⟩ := count
  unfold isVoid Empty
  cases most with
  | none => simp
  | some most =>
    cases most with
    | zero => simp
    | succ most => cases least <;> simp

namespace Grammar

mutual

/-- A value, and the text it stands for, are as a grammar promises. -/
inductive Conforms (names : List String) : Grammar C → Value C → List Char → Prop where
  | int {bounds : Bounds Int} {n : Int} {text : List Char} (admitted : bounds.Admits n) :
      Conforms names (.int bounds) (.int n) text
  | token {word : String} {text : List Char} : Conforms names (.token word) (.text word) text
  | choice {candidates : List (Candidate C)} {exact : Bool} {candidate : Candidate C}
      {text : List Char} (listed : candidate ∈ candidates) :
      Conforms names (.choice candidates exact) candidate.value text
  | oneOf {alternatives : List (Grammar C)} {g : Grammar C} {value : Value C} {text : List Char}
      (listed : g ∈ alternatives) (inner : Conforms names g value text) :
      Conforms names (.oneOf alternatives) value text
  | chain {parts : List (Grammar C)} {values : List (Value C)} {text : List Char}
      (all : ConformsAll names parts values text) :
      Conforms names (.chain parts) (.list values) text
  | many {item : Grammar C} {count : Bounds Nat} {delimiter : Option (Grammar C)}
      {values : List (Value C)} {text : List Char} (admitted : count.Admits values.length)
      (rounds : ConformsRounds names item delimiter values text) :
      Conforms names (.many item count delimiter) (.list values) text
  | manyOfNone {item : Grammar C} {count : Bounds Nat} {delimiter : Option (Grammar C)}
      (empty : count.Empty) : Conforms names (.many item count delimiter) (.list []) []
  | optTaken {inner : Grammar C} {value : Value C} {text : List Char}
      (taken : Conforms names inner value text) : Conforms names (.opt inner) value text
  | optAbsent {inner : Grammar C} : Conforms names (.opt inner) .absent []
  | doc {name : String} {about : Option String} {inner : Grammar C} {value : Value C}
      {text : List Char} (documented : Conforms names inner value text) :
      Conforms names (.doc name about inner) value text
  | player {seat : Nat} {text : List Char} (seated : seat < names.length) :
      Conforms names .player (.player seat) text
  | space {text : List Char} (nonempty : text ≠ []) (blank : ∀ c ∈ text, Text.isBlank c = true) :
      Conforms names .space (.text (.ofList text)) text
  | map {f : Value C → Value C} {inner : Grammar C} {value : Value C} {text : List Char}
      (before : Conforms names inner value text) :
      Conforms names (.map f inner) (f value) text

/-- One value for each part, in order, and their texts one after the other. -/
inductive ConformsAll (names : List String) :
    List (Grammar C) → List (Value C) → List Char → Prop where
  | nil : ConformsAll names [] [] []
  | cons {g : Grammar C} {rest : List (Grammar C)} {value : Value C} {values : List (Value C)}
      {front back : List Char} (first : Conforms names g value front)
      (others : ConformsAll names rest values back) :
      ConformsAll names (g :: rest) (value :: values) (front ++ back)

/-- One value for each round of a repetition, none of which may have succeeded. -/
inductive ConformsRounds (names : List String) :
    Grammar C → Option (Grammar C) → List (Value C) → List Char → Prop where
  | none {item : Grammar C} {delimiter : Option (Grammar C)} :
      ConformsRounds names item delimiter [] []
  | first {item : Grammar C} {delimiter : Option (Grammar C)} {value : Value C}
      {values : List (Value C)} {front back : List Char} (first : Conforms names item value front)
      (others : ConformsMore names item delimiter values back) :
      ConformsRounds names item delimiter (value :: values) (front ++ back)

/-- One value for each round after the first. A delimiter comes before each item, and what it
stands for is dropped. -/
inductive ConformsMore (names : List String) :
    Grammar C → Option (Grammar C) → List (Value C) → List Char → Prop where
  | nil {item : Grammar C} {delimiter : Option (Grammar C)} :
      ConformsMore names item delimiter [] []
  | adjoined {item : Grammar C} {value : Value C} {values : List (Value C)}
      {front back : List Char} (next : Conforms names item value front)
      (others : ConformsMore names item none values back) :
      ConformsMore names item none (value :: values) (front ++ back)
  | delimited {item delimiter : Grammar C} {dropped value : Value C} {values : List (Value C)}
      {mark front back : List Char} (separated : Conforms names delimiter dropped mark)
      (next : Conforms names item value front)
      (others : ConformsMore names item (some delimiter) values back) :
      ConformsMore names item (some delimiter) (value :: values) (mark ++ front ++ back)

end

variable {names : List String}

/-- A transformed value comes from one that conforms to the grammar inside. -/
theorem Conforms.of_map {f : Value C → Value C} {inner : Grammar C} {value : Value C}
    {text : List Char} (h : (.map f inner : Grammar C).Conforms names value text) :
    ∃ before, inner.Conforms names before text ∧ value = f before := by
  cases h with
  | map before => exact ⟨_, before, rfl⟩

/-- The child of a sequence's value at an index conforms to the part at that index. -/
theorem ConformsAll.getElem {parts : List (Grammar C)} {values : List (Value C)}
    {text : List Char} (h : ConformsAll names parts values text) (index : Nat) {g : Grammar C}
    (hpart : parts[index]? = some g) :
    ∃ piece, g.Conforms names ((Value.list values).child index) piece := by
  induction index generalizing parts values text with
  | zero =>
    cases h with
    | nil => cases hpart
    | cons first others =>
      cases hpart
      exact ⟨_, first⟩
  | succ index ih =>
    cases h with
    | nil => cases hpart
    | cons first others => exact ih others hpart

/-- A projection of a sequence conforms to the part it projects to, so that it never comes to
nothing unless the part does. -/
theorem Conforms.of_child {parts : List (Grammar C)} {index : Nat} {value : Value C}
    {text : List Char}
    (h : (.map (·.child index) (.chain parts) : Grammar C).Conforms names value text)
    {g : Grammar C} (hpart : parts[index]? = some g) :
    ∃ piece, g.Conforms names value piece := by
  obtain ⟨before, hbefore, rfl⟩ := h.of_map
  cases hbefore with
  | chain all => exact all.getElem index hpart

/-- Whatever a grammar reads conforms to it. -/
def Sound (names : List String) (g : Grammar C) : Prop :=
  ∀ input parsed, g.run names input = .ok parsed → g.Conforms names parsed.value parsed.consumed

end Grammar

/-! ## Leaves -/

namespace Leaf

theorem value_of_integer {bounds : Bounds Int} {input : List Char} {parsed : Parsed C}
    (h : integer bounds input = .ok parsed) :
    ∃ n, parsed.value = .int n ∧ bounds.Admits n := by
  unfold integer at h
  split at h
  · cases h
  · rename_i literal rest _
    dsimp only at h
    split_ifs at h with _ hlow hhigh
    cases h
    refine ⟨Text.Decimal.toInt literal, rfl, fun least hleast => ?_, fun most hmost => ?_⟩
    · rw [Option.mem_def.mp hleast] at hlow
      simpa using hlow
    · rw [Option.mem_def.mp hmost] at hhigh
      simpa using hhigh

theorem value_of_word {target : String} {input : List Char} {parsed : Parsed C}
    (h : word target input = .ok parsed) : parsed.value = .text target := by
  unfold word at h
  dsimp only at h
  split_ifs at h
  cases h
  rfl

/-- White space stands for itself. -/
theorem value_of_blanks {input : List Char} {parsed : Parsed C}
    (h : blanks input = .ok parsed) :
    parsed.value = .text (.ofList parsed.consumed) ∧ parsed.consumed ≠ [] ∧
      ∀ c ∈ parsed.consumed, Text.isBlank c = true := by
  unfold blanks at h
  split at h
  · cases h
  · rename_i hnonempty
    cases h
    exact ⟨rfl, hnonempty, fun c hc => List.mem_takeWhile_imp hc⟩

end Leaf

/-! ## Names -/

theorem Shortlist.listed_consider {exact : Bool} {input : List Char} {list : Shortlist C}
    {candidate other : Candidate C} (h : other ∈ (consider exact input list candidate).listed) :
    other ∈ list.listed ∨ other = candidate := by
  unfold consider at h
  dsimp only at h
  split_ifs at h <;> simp_all

/-- Nobody is listed who was not a candidate. -/
theorem Shortlist.mem_of_listed {candidates : List (Candidate C)} {exact : Bool}
    {input : List Char} {candidate : Candidate C}
    (h : candidate ∈ (ofCandidates candidates exact input).listed) : candidate ∈ candidates := by
  suffices hfold : ∀ list : Shortlist C,
      candidate ∈ (candidates.foldl (consider exact input) list).listed →
        candidate ∈ list.listed ∨ candidate ∈ candidates by
    rcases hfold empty h with hempty | hmem
    · cases hempty
    · exact hmem
  clear h
  induction candidates with
  | nil => exact fun list h => .inl h
  | cons first rest ih =>
    intro list h
    rcases ih _ h with hlisted | hrest
    · rcases listed_consider hlisted with hbefore | rfl
      · exact .inl hbefore
      · exact .inr List.mem_cons_self
    · exact .inr (List.mem_cons_of_mem _ hrest)

theorem Candidate.value_of_read {candidates : List (Candidate C)} {exact : Bool}
    {input : List Char} {parsed : Parsed C} (h : read candidates exact input = .ok parsed) :
    ∃ candidate ∈ candidates, parsed.value = candidate.value := by
  unfold read at h
  dsimp only at h
  split at h
  · cases h
  · rename_i only honly
    cases h
    have hlisted : only ∈ (Shortlist.ofCandidates candidates exact input).listed := by
      rw [honly]
      exact List.mem_singleton_self only
    exact ⟨only, Shortlist.mem_of_listed hlisted, rfl⟩
  · cases h

theorem Candidate.value_of_mem_ofPlayers {names : List String} {candidate : Candidate C}
    (h : candidate ∈ ofPlayers names) :
    ∃ seat, seat < names.length ∧ candidate.value = .player seat := by
  obtain ⟨seat, hseat, rfl⟩ := List.mem_mapIdx.mp h
  exact ⟨seat, hseat, rfl⟩

/-! ## Repetitions -/

theorem Bounds.lt_of_not_isReached {count : Bounds Nat} {done : Nat}
    (h : ¬ count.isReached done = true) : ∀ most ∈ count.most, done < most := by
  intro most hmost
  unfold isReached at h
  rw [Option.mem_def.mp hmost] at h
  simpa using h

namespace Repetition

open Grammar

variable {names : List String} {item : Grammar C} {delimiter : Option (Grammar C)}

theorem round_conforms (hitem : item.Sound names) (hdelimiter : ∀ d ∈ delimiter, d.Sound names)
    {input : List Char} {next : Parsed C} {values : List (Value C)} {back : List Char}
    (h : round (item.run names) (delimiter.map (·.run names)) input = some next)
    (hothers : ConformsMore names item delimiter values back) :
    ConformsMore names item delimiter (next.value :: values) (next.consumed ++ back) := by
  cases delimiter with
  | none => exact .adjoined (hitem input next (ok_of_round_none h)) hothers
  | some d =>
    obtain ⟨mark, found, hmark, hfound, rfl⟩ := exists_of_round_some h
    exact .delimited (hdelimiter d rfl input mark hmark) (hitem mark.remaining found hfound)
      hothers

/-- The rounds after the first conform, and there are no more of them than the count allows. -/
theorem more_conforms (hitem : item.Sound names) (hdelimiter : ∀ d ∈ delimiter, d.Sound names)
    (count : Bounds Nat) (done : Nat) (input : List Char) :
    let items := more (item.run names) (delimiter.map (·.run names)) count done input
    ConformsMore names item delimiter items.values items.consumed ∧
      ∀ most ∈ count.most, done ≤ most → done + items.values.length ≤ most := by
  fun_induction more (item.run names) (delimiter.map (·.run names)) count done input with
  | case1 => exact ⟨.nil, fun _ _ hle => hle⟩
  | case2 => exact ⟨.nil, fun _ _ hle => hle⟩
  | case3 done input hreached next hround _ ih =>
    obtain ⟨hmore, hcount⟩ := ih
    refine ⟨round_conforms hitem hdelimiter hround hmore, fun most hmost _ => ?_⟩
    have hbelow := Bounds.lt_of_not_isReached hreached most hmost
    have hrest := hcount most hmost hbelow
    simp only [Items.before, List.length_cons]
    omega
  | case4 done input hreached next hround _ =>
    refine ⟨round_conforms hitem hdelimiter hround .nil, fun most hmost _ => ?_⟩
    exact Bounds.lt_of_not_isReached hreached most hmost

/-- All rounds conform, and there are no more of them than a count that allows one. -/
theorem items_conforms (hitem : item.Sound names) (hdelimiter : ∀ d ∈ delimiter, d.Sound names)
    (count : Bounds Nat) (hpositive : ∀ most ∈ count.most, 1 ≤ most) (input : List Char) :
    let items := items (item.run names) (delimiter.map (·.run names)) count input
    ConformsRounds names item delimiter items.values items.consumed ∧
      ∀ most ∈ count.most, items.values.length ≤ most := by
  unfold items
  cases hrun : item.run names input with
  | error why => exact ⟨.none, fun most _ => Nat.zero_le most⟩
  | ok first =>
    have hfirst := hitem input first hrun
    dsimp only
    split_ifs
    · exact ⟨.first hfirst .nil, hpositive⟩
    · obtain ⟨hmore, hcount⟩ := more_conforms hitem hdelimiter count 1 first.remaining
      refine ⟨.first hfirst hmore, fun most hmost => ?_⟩
      have hrest := hcount most hmost (hpositive most hmost)
      simp only [Items.before, List.length_cons]
      omega

theorem read_conforms (hitem : item.Sound names) (delimiter : Option (Grammar C))
    (hdelimiter : ∀ d ∈ delimiter, d.Sound names) {count : Bounds Nat} {input : List Char}
    {parsed : Parsed C}
    (h : read (item.run names) (delimiter.map (·.run names)) count input = .ok parsed) :
    (Grammar.many item count delimiter).Conforms names parsed.value parsed.consumed := by
  unfold read at h
  split_ifs at h with hvoid
  · cases h
    exact .manyOfNone (Bounds.isVoid_iff.mp hvoid)
  · obtain ⟨rfl, hleast⟩ := Items.parsed_of_outcome h
    have hpositive : ∀ most ∈ count.most, 1 ≤ most := by
      intro most hmost
      refine Nat.one_le_iff_ne_zero.mpr ?_
      rintro rfl
      exact hvoid (Bounds.isVoid_iff.mpr (.inl hmost))
    obtain ⟨hrounds, hmost⟩ := items_conforms hitem hdelimiter count hpositive input
    exact .many ⟨hleast, hmost⟩ hrounds

end Repetition

/-! ## Grammars -/

namespace Grammar

variable (names : List String)

mutual

/-- Every grammar reads only what conforms to it. -/
theorem run_sound : (g : Grammar C) → g.Sound names
  | .int bounds => by
    intro input parsed h
    rw [run] at h
    obtain ⟨n, hvalue, hadmits⟩ := Leaf.value_of_integer h
    rw [hvalue]
    exact .int hadmits
  | .token word => by
    intro input parsed h
    rw [run] at h
    rw [Leaf.value_of_word h]
    exact .token
  | .choice candidates exact => by
    intro input parsed h
    rw [run] at h
    obtain ⟨candidate, hlisted, hvalue⟩ := Candidate.value_of_read h
    rw [hvalue]
    exact .choice hlisted
  | .oneOf alternatives => by
    intro input parsed h
    rw [run] at h
    obtain ⟨g, hlisted, hconforms⟩ := runFirst_sound alternatives .empty input parsed h
    exact .oneOf hlisted hconforms
  | .chain parts => by
    intro input parsed h
    rw [run] at h
    cases hall : runAll names parts input with
    | error why =>
      rw [hall] at h
      cases h
    | ok items =>
      rw [hall] at h
      cases h
      exact .chain (runAll_sound parts input items hall)
  | .many item count none => by
    intro input parsed h
    rw [run] at h
    exact Repetition.read_conforms (run_sound item) none nofun h
  | .many item count (some delimiter) => by
    intro input parsed h
    rw [run] at h
    have hdelimiter := run_sound delimiter
    exact Repetition.read_conforms (run_sound item) (some delimiter) (by simpa using hdelimiter) h
  | .opt inner => by
    intro input parsed h
    rw [run] at h
    cases hrun : inner.run names input with
    | error why =>
      rw [hrun] at h
      cases h
      exact .optAbsent
    | ok taken =>
      rw [hrun] at h
      cases h
      exact .optTaken (run_sound inner input _ hrun)
  | .doc _ _ inner => by
    intro input parsed h
    rw [run] at h
    exact .doc (run_sound inner input parsed h)
  | .player => by
    intro input parsed h
    rw [run] at h
    obtain ⟨candidate, hlisted, hvalue⟩ := Candidate.value_of_read h
    obtain ⟨seat, hseat, hplayer⟩ := Candidate.value_of_mem_ofPlayers hlisted
    rw [hvalue, hplayer]
    exact .player hseat
  | .space => by
    intro input parsed h
    rw [run] at h
    obtain ⟨hvalue, hnonempty, hblank⟩ := Leaf.value_of_blanks h
    rw [hvalue]
    exact .space hnonempty hblank
  | .map f inner => by
    intro input parsed h
    rw [run] at h
    cases hrun : inner.run names input with
    | error why =>
      rw [hrun] at h
      cases h
    | ok before =>
      rw [hrun] at h
      cases h
      exact .map (run_sound inner input _ hrun)

theorem runFirst_sound : (gs : List (Grammar C)) → (deepest : Deepest) → (input : List Char) →
    (parsed : Parsed C) → runFirst names gs deepest input = .ok parsed →
    ∃ g ∈ gs, g.Conforms names parsed.value parsed.consumed
  | [], deepest, input, parsed, h => by
    rw [runFirst] at h
    cases h
  | g :: rest, deepest, input, parsed, h => by
    rw [runFirst] at h
    cases hrun : g.run names input with
    | ok first =>
      rw [hrun] at h
      cases h
      exact ⟨g, List.mem_cons_self, run_sound g input _ hrun⟩
    | error why =>
      rw [hrun] at h
      obtain ⟨later, hlisted, hconforms⟩ := runFirst_sound rest (deepest.add why) input parsed h
      exact ⟨later, List.mem_cons_of_mem _ hlisted, hconforms⟩

theorem runAll_sound : (gs : List (Grammar C)) → (input : List Char) → (items : Items C) →
    runAll names gs input = .ok items → ConformsAll names gs items.values items.consumed
  | [], input, items, h => by
    rw [runAll] at h
    cases h
    exact .nil
  | g :: rest, input, items, h => by
    rw [runAll] at h
    cases hrun : g.run names input with
    | error why =>
      rw [hrun] at h
      cases h
    | ok first =>
      rw [hrun] at h
      dsimp only at h
      cases hall : runAll names rest first.remaining with
      | error why =>
        rw [hall] at h
        cases h
      | ok others =>
        rw [hall] at h
        cases h
        exact .cons (run_sound g input first hrun) (runAll_sound rest _ others hall)

end

/-- What a grammar makes of a text conforms to it, whatever the text. -/
theorem parse_conforms (g : Grammar C) {input : String} {parsed : Parsed C}
    (h : g.parse input names = .ok parsed) :
    g.Conforms names parsed.value parsed.consumed :=
  run_sound names g input.toList parsed h

/-- One of the amounts that make up a share. -/
def amount : Grammar Unit :=
  .int ⟨some 0, some 15⟩

/-- One to three amounts, and perhaps who gets them. -/
def shares : Grammar Unit :=
  .chain [.many amount ⟨some 1, some 3⟩ (some (.token ",")), .opt (.chain [.space, .player])]

theorem parse_conforms_of_shares :
    shares.parse "3,14 be!" ["Mick", "Beth"] =
        .ok ⟨.list [.list [.int 3, .int 14], .list [.text " ", .player 1]], "3,14 be".toList,
          ['!']⟩ ∧
      shares.Conforms ["Mick", "Beth"]
        (.list [.list [.int 3, .int 14], .list [.text " ", .player 1]]) "3,14 be".toList := by
  have hlast : Repetition.more (amount.run ["Mick", "Beth"])
      (some (run ["Mick", "Beth"] (.token ","))) ⟨some 1, some 3⟩ 2 " be!".toList =
        .none " be!".toList := by
    rw [Repetition.more]
    rfl
  have hsecond : Repetition.more (amount.run ["Mick", "Beth"])
      (some (run ["Mick", "Beth"] (.token ","))) ⟨some 1, some 3⟩ 1 ",14 be!".toList =
        .before ⟨.int 14, ",14".toList, " be!".toList⟩ (.none " be!".toList) := by
    rw [Repetition.more]
    exact congrArg (Items.before _) hlast
  have hamounts : Repetition.items (amount.run ["Mick", "Beth"])
      (some (run ["Mick", "Beth"] (.token ","))) ⟨some 1, some 3⟩ "3,14 be!".toList =
        .before ⟨.int 3, ['3'], ",14 be!".toList⟩
          (.before ⟨.int 14, ",14".toList, " be!".toList⟩ (.none " be!".toList)) :=
    congrArg (Items.before _) hsecond
  have h : shares.parse "3,14 be!" ["Mick", "Beth"] =
      .ok ⟨.list [.list [.int 3, .int 14], .list [.text " ", .player 1]], "3,14 be".toList,
        ['!']⟩ := by
    rw [parse, shares, run, runAll, run, Repetition.read, if_neg (by decide), hamounts]
    rfl
  exact ⟨h, parse_conforms _ shares h⟩

end Grammar

end Tabletop
