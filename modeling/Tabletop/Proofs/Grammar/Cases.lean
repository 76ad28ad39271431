import Tabletop.Grammar.Run
import Tabletop.Proofs.Text.Literals
import Tabletop.Proofs.Text.Variants

/-!
# Readings in other cases

A player may type in any case. A text and a variant of it in other cases are read
with the same value and cut after the same number of characters, or rejected with the
same words after the same number of characters. In bytes the two places may differ,
and alternatives are judged by bytes; but a place that is further in one text is
further in the other, so that the judgement is the same.
-/

namespace Tabletop

universe u

variable {C : Type u}

open Text

/-- Two texts are cut in two after the same number of characters. -/
def Text.SameCut (text variant : List Char) (left right : List Char × List Char) : Prop :=
  ∃ count ≤ text.length, left = (text.take count, text.drop count) ∧
    right = (variant.take count, variant.drop count)

/-- Two byte positions come after the same number of characters of two texts. -/
def Text.SamePlace (text variant : List Char) (left right : Nat) : Prop :=
  ∃ count ≤ text.length, left = width (text.take count) ∧ right = width (variant.take count)

namespace Text.SameCut

variable {text variant consumed remaining consumed' remaining' : List Char}

theorem nothing (text variant : List Char) : SameCut text variant ([], text) ([], variant) :=
  ⟨0, Nat.zero_le _, rfl, rfl⟩

theorem of_append {front back front' back' : List Char} (h : front.length = front'.length) :
    SameCut (front ++ back) (front' ++ back') (front, back) (front', back') := by
  refine ⟨front.length, ?_, ?_, ?_⟩
  · rw [List.length_append]
    exact Nat.le_add_right _ _
  · rw [List.take_left, List.drop_left]
  · rw [h, List.take_left, List.drop_left]

/-- A count beyond the end of both texts cuts them at their ends. -/
theorem take_drop (hvariant : CaseVariant text variant) (count : Nat) :
    SameCut text variant (text.take count, text.drop count)
      (variant.take count, variant.drop count) := by
  have hlength := hvariant.length_eq
  rcases Nat.le_total count text.length with h | h
  · exact ⟨count, h, rfl, rfl⟩
  · refine ⟨text.length, Nat.le_refl _, ?_, ?_⟩
    · rw [List.take_of_length_le h, List.drop_of_length_le h, List.take_length, List.drop_length]
    · rw [List.take_of_length_le (by omega), List.drop_of_length_le (by omega), hlength,
        List.take_length, List.drop_length]

/-- A run of caseless characters ends at the same place. -/
theorem takeWhile {p : Char → Bool} (hp : ∀ c, p c = true → Caseless c)
    (hvariant : CaseVariant text variant) :
    SameCut text variant (text.takeWhile p, text.dropWhile p)
      (variant.takeWhile p, variant.dropWhile p) := by
  have hcut : SameCut (text.takeWhile p ++ text.dropWhile p)
      (variant.takeWhile p ++ variant.dropWhile p) (text.takeWhile p, text.dropWhile p)
      (variant.takeWhile p, variant.dropWhile p) :=
    of_append (congrArg List.length (hvariant.takeWhile_eq hp))
  rwa [List.takeWhile_append_dropWhile, List.takeWhile_append_dropWhile] at hcut

/-- What agrees with a target is cut off both texts alike. -/
theorem agreement (hvariant : CaseVariant text variant) (target : List Char) :
    SameCut text variant
      (Text.agreement text target, text.drop (Text.agreement text target).length)
      (Text.agreement variant target, variant.drop (Text.agreement variant target).length) := by
  have hlength := hvariant.length_agreement target
  refine ⟨(Text.agreement text target).length, (agreement_isPrefix text target).length_le, ?_, ?_⟩
  · exact Prod.ext (agreement_eq_take text target) rfl
  · rw [hlength]
    exact Prod.ext (agreement_eq_take variant target) rfl

theorem remaining_variant (h : SameCut text variant (consumed, remaining) (consumed', remaining'))
    (hvariant : CaseVariant text variant) : CaseVariant remaining remaining' := by
  obtain ⟨count, -, hleft, hright⟩ := h
  obtain ⟨-, rfl⟩ := Prod.mk.inj hleft
  obtain ⟨-, rfl⟩ := Prod.mk.inj hright
  exact List.forall₂_drop count hvariant

/-- A cut of what remains is a cut of the whole. -/
theorem behind (h : SameCut text variant (consumed, remaining) (consumed', remaining'))
    {later rest later' rest' : List Char}
    (hlater : SameCut remaining remaining' (later, rest) (later', rest')) :
    SameCut text variant (consumed ++ later, rest) (consumed' ++ later', rest') := by
  obtain ⟨m, hm, hleft, hright⟩ := h
  obtain ⟨n, hn, hleft', hright'⟩ := hlater
  obtain ⟨rfl, rfl⟩ := Prod.mk.inj hleft
  obtain ⟨rfl, rfl⟩ := Prod.mk.inj hright
  obtain ⟨rfl, rfl⟩ := Prod.mk.inj hleft'
  obtain ⟨rfl, rfl⟩ := Prod.mk.inj hright'
  rw [List.length_drop] at hn
  refine ⟨m + n, by omega, ?_, ?_⟩ <;> rw [List.take_add, List.drop_drop]

theorem place (h : SameCut text variant (consumed, remaining) (consumed', remaining')) :
    SamePlace text variant (width consumed) (width consumed') := by
  obtain ⟨count, hcount, hleft, hright⟩ := h
  obtain ⟨rfl, -⟩ := Prod.mk.inj hleft
  obtain ⟨rfl, -⟩ := Prod.mk.inj hright
  exact ⟨count, hcount, rfl, rfl⟩

/-- A place in what remains is a place in the whole. -/
theorem place_behind (h : SameCut text variant (consumed, remaining) (consumed', remaining'))
    {left right : Nat} (hplace : SamePlace remaining remaining' left right) :
    SamePlace text variant (left + width consumed) (right + width consumed') := by
  obtain ⟨m, hm, hleft, hright⟩ := h
  obtain ⟨n, hn, rfl, rfl⟩ := hplace
  obtain ⟨rfl, rfl⟩ := Prod.mk.inj hleft
  obtain ⟨rfl, rfl⟩ := Prod.mk.inj hright
  rw [List.length_drop] at hn
  refine ⟨m + n, by omega, ?_, ?_⟩ <;> rw [List.take_add, width_append, Nat.add_comm]

theorem length_eq (h : SameCut text variant (consumed, remaining) (consumed', remaining'))
    (hvariant : CaseVariant text variant) : consumed.length = consumed'.length := by
  obtain ⟨count, -, hleft, hright⟩ := h
  obtain ⟨rfl, -⟩ := Prod.mk.inj hleft
  obtain ⟨rfl, -⟩ := Prod.mk.inj hright
  rw [List.length_take, List.length_take, hvariant.length_eq]

end Text.SameCut

namespace Text.SamePlace

variable {text variant : List Char} {left right left' right' : Nat}

theorem start (text variant : List Char) : SamePlace text variant 0 0 :=
  ⟨0, Nat.zero_le _, rfl, rfl⟩

/-- Which of two places is further is the same in both texts. -/
theorem lt_iff (h : SamePlace text variant left right) (h' : SamePlace text variant left' right')
    (hvariant : CaseVariant text variant) : left < left' ↔ right < right' := by
  obtain ⟨m, hm, rfl, rfl⟩ := h
  obtain ⟨n, hn, rfl, rfl⟩ := h'
  have hlength := hvariant.length_eq
  rw [width_take_lt_iff hm hn, width_take_lt_iff (by omega) (by omega)]

theorem eq_iff (h : SamePlace text variant left right) (h' : SamePlace text variant left' right')
    (hvariant : CaseVariant text variant) : left = left' ↔ right = right' := by
  have hlt := h.lt_iff h' hvariant
  have hgt := h'.lt_iff h hvariant
  omega

end Text.SamePlace

/-! ## Outcomes -/

/-- The same value, and the same cut. -/
structure Parsed.CutAlike (text variant : List Char) (a b : Parsed C) : Prop where
  value : a.value = b.value
  cut : SameCut text variant (a.consumed, a.remaining) (b.consumed, b.remaining)

/-- The same values, and the same cut. -/
structure Items.CutAlike (text variant : List Char) (a b : Items C) : Prop where
  values : a.values = b.values
  cut : SameCut text variant (a.consumed, a.remaining) (b.consumed, b.remaining)

/-- The same words at the same place. -/
structure Rejection.PlacedAlike (text variant : List Char) (a b : Rejection) : Prop where
  message : a.message = b.message
  expected : a.expected = b.expected
  place : SamePlace text variant a.offset b.offset

/-- The outcomes of a text and a variant of it. -/
inductive SameUpToCase {α : Type u} (related : α → α → Prop) (text variant : List Char) :
    Except Rejection α → Except Rejection α → Prop
  | ok {a b : α} (h : related a b) : SameUpToCase related text variant (.ok a) (.ok b)
  | error {why why' : Rejection} (h : why.PlacedAlike text variant why') :
    SameUpToCase related text variant (.error why) (.error why')

/-- A matcher that reads every text like its variants. -/
def Matcher.IgnoresCase (matcher : Matcher C) : Prop :=
  ∀ text variant, CaseVariant text variant →
    SameUpToCase (Parsed.CutAlike text variant) text variant (matcher text) (matcher variant)

theorem Rejection.placedAlike_start {text variant : List Char} (why : Rejection)
    (h : why.offset = 0) : why.PlacedAlike text variant why :=
  ⟨rfl, rfl, by rw [h]; exact .start text variant⟩

/-! ## Leaves -/

namespace Text.Decimal

/-- Literals are the same in both texts. -/
def SameLiteral (text variant : List Char) : List Char × List Char → List Char × List Char → Prop :=
  fun found found' => found.1 = found'.1 ∧ SameCut text variant found found'

theorem digits?_variant {text variant : List Char} (h : CaseVariant text variant) :
    Option.Rel (SameLiteral text variant) (digits? text) (digits? variant) := by
  have heq : text.takeWhile Char.isDigit = variant.takeWhile Char.isDigit :=
    h.takeWhile_eq fun _ => caseless_of_isDigit
  have hcut : SameCut text variant (text.takeWhile Char.isDigit, text.dropWhile Char.isDigit)
      (variant.takeWhile Char.isDigit, variant.dropWhile Char.isDigit) :=
    .takeWhile (fun _ => caseless_of_isDigit) h
  unfold digits?
  rw [← heq] at hcut ⊢
  split
  · exact .none
  · exact .some ⟨rfl, hcut⟩

theorem literal?_variant {text variant : List Char} (h : CaseVariant text variant) :
    Option.Rel (SameLiteral text variant) (literal? text) (literal? variant) := by
  cases h with
  | nil => exact .none
  | @cons c d text variant hc hrest =>
    by_cases hminus : c = '-'
    · subst hminus
      obtain rfl : d = '-' := caseless_minus d hc.symm
      have hdigits := digits?_variant hrest
      simp only [literal?]
      generalize digits? text = found, digits? variant = found' at hdigits
      cases hdigits with
      | none => exact .none
      | some h =>
        have hsign : SameCut (['-'] ++ text) (['-'] ++ variant) (['-'], text) (['-'], variant) :=
          .of_append rfl
        exact .some ⟨congrArg ('-' :: ·) h.1, hsign.behind h.2⟩
    · have hminus' : d ≠ '-' := by
        rintro rfl
        exact hminus (caseless_minus c hc)
      rw [literal?_of_ne hminus, literal?_of_ne hminus']
      exact digits?_variant (.cons hc hrest)

end Text.Decimal

namespace Leaf

open Text.Decimal

theorem integer_ignoresCase (bounds : Bounds Int) :
    Matcher.IgnoresCase (integer bounds : Matcher C) := by
  intro text variant h
  have hliteral := literal?_variant h
  unfold integer
  generalize literal? text = found, literal? variant = found' at hliteral
  cases hliteral with
  | none => exact .error (Rejection.placedAlike_start _ rfl)
  | @some found found' hsame =>
    obtain ⟨literal, rest⟩ := found
    obtain ⟨literal', rest'⟩ := found'
    obtain ⟨rfl, hcut⟩ := hsame
    dsimp only
    split_ifs
    · exact .error (Rejection.placedAlike_start _ rfl)
    · exact .error (Rejection.placedAlike_start _ rfl)
    · exact .error (Rejection.placedAlike_start _ rfl)
    · exact .ok ⟨rfl, hcut⟩

theorem word_ignoresCase (target : String) :
    Matcher.IgnoresCase (word target : Matcher C) := by
  intro text variant h
  have hlength := h.length_agreement target.toList
  have hcut := SameCut.agreement h target.toList
  unfold word
  dsimp only
  rw [hlength] at hcut ⊢
  split_ifs
  · exact .error (Rejection.placedAlike_start _ rfl)
  · exact .ok ⟨rfl, hcut⟩

theorem blanks_ignoresCase : Matcher.IgnoresCase (blanks : Matcher C) := by
  intro text variant h
  have heq : text.takeWhile isBlank = variant.takeWhile isBlank :=
    h.takeWhile_eq fun _ => caseless_of_isBlank
  have hcut : SameCut text variant (text.takeWhile isBlank, text.dropWhile isBlank)
      (variant.takeWhile isBlank, variant.dropWhile isBlank) :=
    .takeWhile (fun _ => caseless_of_isBlank) h
  unfold blanks
  rw [← heq] at hcut ⊢
  split
  · exact .error (Rejection.placedAlike_start _ rfl)
  · exact .ok ⟨rfl, hcut⟩

end Leaf

/-! ## Names -/

theorem Shortlist.consider_variant {text variant : List Char} (h : CaseVariant text variant)
    (exact : Bool) :
    (consider exact text : Shortlist C → _) = consider exact variant := by
  funext list candidate
  unfold consider
  rw [h.length_agreement candidate.name.toList]

theorem Candidate.read_ignoresCase (candidates : List (Candidate C)) (exact : Bool) :
    Matcher.IgnoresCase (read candidates exact) := by
  intro text variant h
  unfold read Shortlist.ofCandidates
  rw [Shortlist.consider_variant h]
  dsimp only
  split
  · exact .error (Rejection.placedAlike_start _ rfl)
  · exact .ok ⟨rfl, .take_drop h _⟩
  · exact .error (Rejection.placedAlike_start _ rfl)

/-! ## Repetitions -/

namespace Items.CutAlike

variable {text variant : List Char}

theorem none (text variant : List Char) :
    Items.CutAlike (C := C) text variant (.none text) (.none variant) :=
  ⟨rfl, .nothing text variant⟩

theorem before {first first' : Parsed C} {rest rest' : Items C}
    (hfirst : first.CutAlike text variant first')
    (hrest : rest.CutAlike first.remaining first'.remaining rest') :
    (Items.before first rest).CutAlike text variant (Items.before first' rest') where
  values := by simp only [Items.before, hfirst.value, hrest.values]
  cut := hfirst.cut.behind hrest.cut

/-- Too few items are too few in both texts, and are refused where the last of them ended. -/
theorem outcome {items items' : Items C} (h : items.CutAlike text variant items')
    (count : Bounds Nat) :
    SameUpToCase (Parsed.CutAlike text variant) text variant (items.outcome count)
      (items'.outcome count) := by
  unfold Items.outcome
  rw [h.values]
  split
  · exact .ok ⟨rfl, h.cut⟩
  · split_ifs
    · exact .error ⟨rfl, rfl, h.cut.place⟩
    · exact .ok ⟨rfl, h.cut⟩

end Items.CutAlike

namespace Repetition

variable {item : Matcher C} {delimiter : Option (Matcher C)}

theorem round_variant (hitem : Matcher.IgnoresCase item)
    (hdelimiter : ∀ d ∈ delimiter, Matcher.IgnoresCase d) {text variant : List Char}
    (h : CaseVariant text variant) :
    Option.Rel (Parsed.CutAlike text variant) (round item delimiter text)
      (round item delimiter variant) := by
  unfold round
  cases delimiter with
  | none =>
    have hnext := hitem text variant h
    dsimp only
    generalize item text = next, item variant = next' at hnext
    cases hnext with
    | ok hnext => exact .some hnext
    | error _ => exact .none
  | some delimiter =>
    have hmark := hdelimiter delimiter rfl text variant h
    dsimp only
    generalize delimiter text = mark, delimiter variant = mark' at hmark
    cases hmark with
    | error _ => exact .none
    | @ok mark mark' hmark =>
      have hnext := hitem mark.remaining mark'.remaining (hmark.cut.remaining_variant h)
      dsimp only
      generalize item mark.remaining = next, item mark'.remaining = next' at hnext
      cases hnext with
      | error _ => exact .none
      | ok hnext => exact .some ⟨hnext.value, hmark.cut.behind hnext.cut⟩

theorem more_variant (hitem : Matcher.IgnoresCase item)
    (hdelimiter : ∀ d ∈ delimiter, Matcher.IgnoresCase d) (count : Bounds Nat) (done : Nat)
    {text variant : List Char} (h : CaseVariant text variant) :
    (more item delimiter count done text).CutAlike text variant
      (more item delimiter count done variant) := by
  fun_induction more item delimiter count done text generalizing variant with
  | case1 done text hreached =>
    rw [more.eq_def item delimiter count done variant, if_pos hreached]
    exact .none text variant
  | case2 done text hreached hround =>
    have hrounds := round_variant hitem hdelimiter h
    rw [hround] at hrounds
    rw [more.eq_def item delimiter count done variant, if_neg hreached]
    generalize round item delimiter variant = round' at hrounds
    cases hrounds
    exact .none text variant
  | case3 done text hreached next hround hless ih =>
    have hrounds := round_variant hitem hdelimiter h
    rw [hround] at hrounds
    rw [more.eq_def item delimiter count done variant, if_neg hreached]
    generalize round item delimiter variant = round' at hrounds
    cases hrounds with
    | @some next next' hnext =>
      have hremaining := hnext.cut.remaining_variant h
      dsimp only
      rw [hremaining.length_eq, h.length_eq] at hless
      rw [if_pos hless]
      exact .before hnext (ih hremaining)
  | case4 done text hreached next hround hless =>
    have hrounds := round_variant hitem hdelimiter h
    rw [hround] at hrounds
    rw [more.eq_def item delimiter count done variant, if_neg hreached]
    generalize round item delimiter variant = round' at hrounds
    cases hrounds with
    | @some next next' hnext =>
      have hremaining := hnext.cut.remaining_variant h
      dsimp only
      rw [hremaining.length_eq, h.length_eq] at hless
      rw [if_neg hless]
      exact .before hnext (.none _ _)

theorem items_variant (hitem : Matcher.IgnoresCase item)
    (hdelimiter : ∀ d ∈ delimiter, Matcher.IgnoresCase d) (count : Bounds Nat)
    {text variant : List Char} (h : CaseVariant text variant) :
    (items item delimiter count text).CutAlike text variant
      (items item delimiter count variant) := by
  have hfirst := hitem text variant h
  unfold items
  generalize item text = first, item variant = first' at hfirst
  cases hfirst with
  | error _ => exact .none text variant
  | @ok first first' hfirst =>
    have hremaining := hfirst.cut.remaining_variant h
    have hstalled : stalled text first = stalled variant first' := by
      rw [stalled, stalled, hremaining.length_eq, h.length_eq]
    dsimp only
    rw [hstalled]
    split_ifs
    · exact .before hfirst (.none _ _)
    · exact .before hfirst (more_variant hitem hdelimiter count 1 hremaining)

theorem read_ignoresCase (hitem : Matcher.IgnoresCase item)
    (hdelimiter : ∀ d ∈ delimiter, Matcher.IgnoresCase d) (count : Bounds Nat) :
    Matcher.IgnoresCase (read item delimiter count) := by
  intro text variant h
  unfold read
  split_ifs
  · exact .ok ⟨rfl, .nothing text variant⟩
  · exact (items_variant hitem hdelimiter count h).outcome count

end Repetition

/-! ## Alternations -/

/-- The same words of the deepest failures, and the same place. -/
structure Deepest.PlacedAlike (text variant : List Char) (a b : Deepest) : Prop where
  messages : a.failures.map (·.message) = b.failures.map (·.message)
  expected : a.failures.map (·.expected) = b.failures.map (·.expected)
  place : SamePlace text variant a.offset b.offset

namespace Deepest.PlacedAlike

variable {text variant : List Char} {deepest deepest' : Deepest}

theorem empty (text variant : List Char) : Deepest.empty.PlacedAlike text variant .empty :=
  ⟨rfl, rfl, .start text variant⟩

/-- A failure displaces those before it, joins them or is passed over in both texts alike. -/
theorem add (hvariant : CaseVariant text variant)
    (h : deepest.PlacedAlike text variant deepest') {why why' : Rejection}
    (hwhy : why.PlacedAlike text variant why') :
    (deepest.add why).PlacedAlike text variant (deepest'.add why') := by
  have hdeeper := h.place.lt_iff hwhy.place hvariant
  have hsame := hwhy.place.eq_iff h.place hvariant
  unfold Deepest.add
  by_cases hlt : deepest.offset < why.offset
  · rw [if_pos hlt, if_pos (hdeeper.mp hlt)]
    exact ⟨congrArg (fun m => [m]) hwhy.message, congrArg (fun e => [e]) hwhy.expected, hwhy.place⟩
  · rw [if_neg hlt, if_neg (mt hdeeper.mpr hlt)]
    by_cases heq : why.offset = deepest.offset
    · rw [if_pos heq, if_pos (hsame.mp heq)]
      refine ⟨?_, ?_, h.place⟩
      · simp only [List.map_append, List.map_cons, List.map_nil, h.messages, hwhy.message]
      · simp only [List.map_append, List.map_cons, List.map_nil, h.expected, hwhy.expected]
    · rw [if_neg heq, if_neg (mt hsame.mpr heq)]
      exact h

theorem merged (h : deepest.PlacedAlike text variant deepest') :
    deepest.merged.PlacedAlike text variant deepest'.merged := by
  have hmessages : deepest.messages = deepest'.messages := by
    have := congrArg (fun ms => (ms.filterMap id).filter (· ≠ "")) h.messages
    rwa [List.filterMap_map, List.filterMap_map] at this
  have hexpected : deepest.failures.flatMap (·.expected) =
      deepest'.failures.flatMap (·.expected) := by
    have := congrArg List.flatten h.expected
    simpa only [← List.flatMap_def] using this
  exact ⟨by simp only [Deepest.merged, hmessages], hexpected, h.place⟩

end Deepest.PlacedAlike

/-! ## Grammars -/

namespace Grammar

variable (names : List String)

mutual

/-- Every grammar reads a text like its variants. -/
theorem run_ignoresCase : (g : Grammar C) → Matcher.IgnoresCase (g.run names)
  | .int bounds => by
    intro text variant h
    rw [run, run]
    exact Leaf.integer_ignoresCase bounds text variant h
  | .token word => by
    intro text variant h
    rw [run, run]
    exact Leaf.word_ignoresCase word text variant h
  | .choice candidates exact => by
    intro text variant h
    rw [run, run]
    exact Candidate.read_ignoresCase candidates exact text variant h
  | .oneOf alternatives => by
    intro text variant h
    rw [run, run]
    exact runFirst_variant alternatives h (.empty text variant)
  | .chain parts => by
    intro text variant h
    rw [run, run]
    have hparts := runAll_variant parts h
    generalize runAll names parts text = items, runAll names parts variant = items' at hparts
    cases hparts with
    | error hwhy => exact .error hwhy
    | ok hitems => exact .ok ⟨congrArg Value.list hitems.values, hitems.cut⟩
  | .many item count none => by
    intro text variant h
    rw [run, run]
    exact Repetition.read_ignoresCase (run_ignoresCase item) (by simp) count text variant h
  | .many item count (some delimiter) => by
    intro text variant h
    rw [run, run]
    have hdelimiter := run_ignoresCase delimiter
    exact Repetition.read_ignoresCase (run_ignoresCase item) (by simpa using hdelimiter) count text
      variant h
  | .opt inner => by
    intro text variant h
    rw [run, run]
    have hinner := run_ignoresCase inner text variant h
    generalize inner.run names text = outcome, inner.run names variant = outcome' at hinner
    cases hinner with
    | ok hparsed => exact .ok hparsed
    | error _ => exact .ok ⟨rfl, .nothing text variant⟩
  | .doc _ _ inner => by
    intro text variant h
    rw [run, run]
    exact run_ignoresCase inner text variant h
  | .player => by
    intro text variant h
    rw [run, run]
    exact Candidate.read_ignoresCase _ false text variant h
  | .space => by
    intro text variant h
    rw [run, run]
    exact Leaf.blanks_ignoresCase text variant h
  | .map f inner => by
    intro text variant h
    rw [run, run]
    have hinner := run_ignoresCase inner text variant h
    generalize inner.run names text = outcome, inner.run names variant = outcome' at hinner
    cases hinner with
    | ok hparsed => exact .ok ⟨congrArg f hparsed.value, hparsed.cut⟩
    | error hwhy => exact .error hwhy

theorem runFirst_variant : (gs : List (Grammar C)) → {text variant : List Char} →
    CaseVariant text variant → {deepest deepest' : Deepest} →
    deepest.PlacedAlike text variant deepest' →
    SameUpToCase (Parsed.CutAlike text variant) text variant (runFirst names gs deepest text)
      (runFirst names gs deepest' variant)
  | [], text, variant, h, deepest, deepest', hdeepest => by
    rw [runFirst, runFirst]
    exact .error hdeepest.merged
  | g :: rest, text, variant, h, deepest, deepest', hdeepest => by
    rw [runFirst, runFirst]
    have hfirst := run_ignoresCase g text variant h
    generalize g.run names text = outcome, g.run names variant = outcome' at hfirst
    cases hfirst with
    | ok hparsed => exact .ok hparsed
    | error hwhy => exact runFirst_variant rest h (hdeepest.add h hwhy)

theorem runAll_variant : (gs : List (Grammar C)) → {text variant : List Char} →
    CaseVariant text variant →
    SameUpToCase (Items.CutAlike text variant) text variant (runAll names gs text)
      (runAll names gs variant)
  | [], text, variant, h => by
    rw [runAll, runAll]
    exact .ok (.none text variant)
  | g :: rest, text, variant, h => by
    rw [runAll, runAll]
    have hfirst := run_ignoresCase g text variant h
    generalize g.run names text = outcome, g.run names variant = outcome' at hfirst
    cases hfirst with
    | error hwhy => exact .error hwhy
    | @ok first first' hfirst =>
      have hrest := runAll_variant rest (hfirst.cut.remaining_variant h)
      dsimp only
      generalize runAll names rest first.remaining = items,
        runAll names rest first'.remaining = items' at hrest
      cases hrest with
      | error hwhy =>
        exact .error ⟨hwhy.message, hwhy.expected, hfirst.cut.place_behind hwhy.place⟩
      | ok hitems => exact .ok (.before hfirst hitems)

end

/-- Two texts that agree up to case, character by character, are read with the same value and as
many characters consumed, or rejected with the same words after as many characters. -/
theorem parse_caseVariant (g : Grammar C) {text variant : String}
    (h : CaseVariant text.toList variant.toList) :
    (∃ a b, g.parse text names = .ok a ∧ g.parse variant names = .ok b ∧
      a.value = b.value ∧ a.consumed.length = b.consumed.length) ∨
    (∃ why why', g.parse text names = .error why ∧ g.parse variant names = .error why' ∧
      why.message = why'.message ∧ why.expected = why'.expected ∧
      ∃ count ≤ text.toList.length, why.offset = width (text.toList.take count) ∧
        why'.offset = width (variant.toList.take count)) := by
  have hrun := run_ignoresCase names g text.toList variant.toList h
  unfold parse
  generalize g.run names text.toList = outcome, g.run names variant.toList = outcome' at hrun ⊢
  cases hrun with
  | @ok a b hparsed =>
    exact .inl ⟨a, b, rfl, rfl, hparsed.value, hparsed.cut.length_eq h⟩
  | @error why why' hwhy =>
    exact .inr ⟨why, why', rfl, rfl, hwhy.message, hwhy.expected, hwhy.place⟩

/-- Two alternatives, the second of which may get further before it fails. -/
def queenOrKingUp : Grammar Unit :=
  .oneOf [.token "queen", .chain [.token "king", .space, .token "up"]]

/-- The kelvin sign is a variant of the letter, three bytes wide. -/
theorem parse_caseVariant_of_kelvin :
    CaseVariant "\u212AING down".toList "king DOWN".toList ∧
    ((∃ a b, queenOrKingUp.parse "\u212AING down" [] = .ok a ∧
      queenOrKingUp.parse "king DOWN" [] = .ok b ∧
      a.value = b.value ∧ a.consumed.length = b.consumed.length) ∨
    (∃ why why', queenOrKingUp.parse "\u212AING down" [] = .error why ∧
      queenOrKingUp.parse "king DOWN" [] = .error why' ∧
      why.message = why'.message ∧ why.expected = why'.expected ∧
      ∃ count ≤ "\u212AING down".toList.length,
        why.offset = width ("\u212AING down".toList.take count) ∧
        why'.offset = width ("king DOWN".toList.take count))) := by
  have h : CaseVariant "\u212AING down".toList "king DOWN".toList := by
    repeat' constructor
  exact ⟨h, parse_caseVariant [] queenOrKingUp h⟩

end Grammar

end Tabletop
