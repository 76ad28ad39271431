import Tabletop.Proofs.Grammar.Bytes
import Tabletop.Proofs.Grammar.Splitting

/-!
# No cut misses

The reading with byte counts always answers, and answers what `Grammar.run` does.
A leaf's byte count is the width of the part it takes. In a sequence and in a
repetition the count into the text is the width of an initial segment, because
every part read before it splits its text; so the next cut is at a boundary.
-/

namespace Tabletop

universe u

variable {C : Type u}

/-- A matcher as one with byte counts that always answers. -/
def Matcher.answering (matcher : Matcher C) : ByteMatcher C :=
  fun input => some (matcher input)

/-- Counting the bytes of an initial segment splits the text behind it. -/
theorem Measured.split?_of_append {input front back : List Char} (value : Value C)
    (h : front ++ back = input) :
    Measured.split? (.ok (value, Text.width front)) input = some (.ok ⟨value, front, back⟩) := by
  subst h
  simp only [split?, Text.cut?_append, Option.map_some]

/-! ## Leaves -/

theorem Text.agreementSize_eq (input target : List Char) :
    agreementSize input target =
      ((agreement input target).length, width (agreement input target)) := by
  fun_induction agreement input target with
  | case1 c input t target hsame ih =>
    rw [agreementSize, if_pos hsame, ih]
    simp only [List.length_cons, width_cons, Nat.add_comm]
  | case2 c input t target hsame => rw [agreementSize, if_neg hsame]; rfl
  | case3 input target hne =>
    rw [agreementSize]
    · rfl
    · exact hne

namespace Leaf

theorem split?_integerBytes (bounds : Bounds Int) (input : List Char) :
    (integerBytes bounds input : Measured C).split? input = some (integer bounds input) := by
  unfold integerBytes integer
  cases h : Text.Decimal.literal? input with
  | none => rfl
  | some found =>
    obtain ⟨literal, rest⟩ := found
    dsimp only
    split_ifs
    · rfl
    · rfl
    · rfl
    · exact Measured.split?_of_append _ (Text.Decimal.append_of_literal? h)

theorem split?_wordBytes (target : String) (input : List Char) :
    (wordBytes target input : Measured C).split? input = some (word target input) := by
  unfold wordBytes word
  rw [Text.agreementSize_eq]
  dsimp only
  split_ifs
  · rfl
  · exact Measured.split?_of_append _
      (List.prefix_iff_eq_append.mp (Text.agreement_isPrefix input target.toList))

theorem split?_blanksBytes (input : List Char) :
    (blanksBytes input : Measured C).split? input = some (blanks input) := by
  have hsplit : input.takeWhile Text.isBlank ++ input.dropWhile Text.isBlank = input :=
    List.takeWhile_append_dropWhile
  unfold blanksBytes blanks
  cases hfound : input.takeWhile Text.isBlank with
  | nil => rfl
  | cons c found =>
    rw [hfound] at hsplit
    exact Measured.split?_of_append _ hsplit

end Leaf

/-! ## Names -/

namespace MeasuredShortlist

/-- The bytes kept are those of the characters that the candidates agree with. -/
def Tracks (list : MeasuredShortlist C) (input : List Char) : Prop :=
  list.bytes = Text.width (input.take list.length)

theorem consider_tracks (exact : Bool) {input : List Char} {list : MeasuredShortlist C}
    (candidate : Candidate C) (h : list.Tracks input) :
    (consider exact input list candidate).toShortlist =
        Shortlist.consider exact input list.toShortlist candidate ∧
      (consider exact input list candidate).Tracks input := by
  have htake : input.take (Text.agreement input candidate.name.toList).length =
      Text.agreement input candidate.name.toList :=
    (List.prefix_iff_eq_take.mp (Text.agreement_isPrefix input candidate.name.toList)).symm
  unfold consider Shortlist.consider
  rw [Text.agreementSize_eq]
  dsimp only
  split_ifs
  all_goals first
    | exact ⟨rfl, h⟩
    | exact ⟨rfl, by simp only [Tracks, htake]⟩

theorem ofCandidates_tracks (candidates : List (Candidate C)) (exact : Bool)
    (input : List Char) :
    (ofCandidates candidates exact input).toShortlist =
        Shortlist.ofCandidates candidates exact input ∧
      (ofCandidates candidates exact input).Tracks input := by
  suffices hfold : ∀ list : MeasuredShortlist C, list.Tracks input →
      (candidates.foldl (consider exact input) list).toShortlist =
          candidates.foldl (Shortlist.consider exact input) list.toShortlist ∧
        (candidates.foldl (consider exact input) list).Tracks input from hfold empty rfl
  induction candidates with
  | nil => exact fun list h => ⟨rfl, h⟩
  | cons candidate rest ih =>
    intro list h
    obtain ⟨hlist, htracks⟩ := consider_tracks exact candidate h
    simp only [List.foldl_cons]
    rw [← hlist]
    exact ih _ htracks

end MeasuredShortlist

theorem Candidate.split?_readBytes (candidates : List (Candidate C)) (exact : Bool)
    (input : List Char) :
    (readBytes candidates exact input).split? input = some (read candidates exact input) := by
  obtain ⟨hlist, htracks⟩ := MeasuredShortlist.ofCandidates_tracks candidates exact input
  unfold readBytes read
  rw [← hlist]
  dsimp only
  cases hlisted : (MeasuredShortlist.ofCandidates candidates exact input).listed with
  | nil => rfl
  | cons first others =>
    cases others with
    | nil =>
      dsimp only
      rw [htracks]
      exact Measured.split?_of_append _ (List.take_append_drop _ _)
    | cons second others => rfl

/-! ## Repetitions -/

namespace Repetition

variable {item : Matcher C} {delimiter : Option (Matcher C)}

/-- A round behind an initial segment, whose width is the count that it starts from. -/
theorem roundBytes_append (item : Matcher C) (hdelimiter : ∀ d ∈ delimiter, Matcher.Fitting d)
    (front tail : List Char) :
    roundBytes item.answering (delimiter.map Matcher.answering) (front ++ tail)
        (Text.width front) false =
      some ((round item delimiter tail).map fun next =>
        (next.value, Text.width front + Text.width next.consumed)) := by
  cases delimiter with
  | none =>
    simp only [roundBytes, startBytes, Option.map_none, Text.cut?_append, Matcher.answering, round]
    cases item tail <;> rfl
  | some delimiter =>
    simp only [roundBytes, startBytes, Option.map_some, Text.cut?_append, Matcher.answering, round]
    have hfit := hdelimiter delimiter rfl tail
    cases hmark : delimiter tail with
    | error why => rfl
    | ok mark =>
      rw [hmark] at hfit
      have hcut := Text.cut?_append (front ++ mark.consumed) mark.remaining
      rw [List.append_assoc, hfit.split, Text.width_append] at hcut
      simp only [hcut]
      cases item mark.remaining with
      | error why => rfl
      | ok next => simp only [Option.map_some, Text.width_append, Nat.add_assoc]

/-- The first round has no delimiter to read. -/
theorem roundBytes_first (item : Matcher C) (delimiter : Option (Matcher C)) (input : List Char) :
    roundBytes item.answering (delimiter.map Matcher.answering) input 0 true =
      some ((item input).toOption.map fun next => (next.value, Text.width next.consumed)) := by
  have hstart : startBytes (delimiter.map Matcher.answering) input 0 true = some (some 0) := by
    cases delimiter <;> rfl
  simp only [roundBytes, hstart, Text.cut?_zero, Matcher.answering, Nat.zero_add]
  cases item input <;> rfl

/-- A round has read nothing exactly if it leaves as much text as it found. -/
theorem stalledBytes_eq {input : List Char} {next : Parsed C} {offset stop : Nat}
    (h : next.consumed ++ next.remaining = input)
    (hstop : stop = offset + Text.width next.consumed) (delimiter : Option (ByteMatcher C))
    (first : Bool) :
    stalledBytes delimiter offset stop first =
      (stalled input next && (delimiter.isNone || !first)) := by
  have hstalled : (stop == offset) = stalled input next := by
    subst h hstop
    rw [Bool.eq_iff_iff]
    simp only [stalled, beq_iff_eq, Nat.add_eq_left, Text.width_eq_zero_iff, List.length_append,
      Bool.not_eq_true', decide_eq_false_iff_not, ← List.length_eq_zero_iff]
    omega
  rw [stalledBytes, hstalled]

theorem more_of_isReached {count : Bounds Nat} {done : Nat} (h : count.isReached done = true)
    (input : List Char) : more item delimiter count done input = .none input := by
  rw [more, if_pos h]

/-- All rounds behind an initial segment from which the values have been read. -/
theorem roundsBytes_append (hitem : Matcher.Fitting item)
    (hdelimiter : ∀ d ∈ delimiter, Matcher.Fitting d) (count : Bounds Nat) (done : Nat)
    (front tail : List Char) (values : List (Value C)) (hdone : values.length = done)
    (hne : values.isEmpty = false) (hcount : count.isReached done = false) :
    roundsBytes item.answering (delimiter.map Matcher.answering) count (front ++ tail)
        (Text.width front) values =
      some (values ++ (more item delimiter count done tail).values,
        Text.width front + Text.width (more item delimiter count done tail).consumed) := by
  fun_induction more item delimiter count done tail generalizing front values with
  | case1 done tail hreached => exact absurd hreached (by rw [hcount]; exact Bool.false_ne_true)
  | case2 done tail _ hround =>
    have hbytes := roundBytes_append item hdelimiter front tail
    rw [← hne, hround] at hbytes
    rw [roundsBytes_of_none hbytes]
    simp [Items.none]
  | case3 done tail _ next hround hless ih =>
    have hsplit := split_of_round hitem hdelimiter hround
    have hbytes := roundBytes_append item hdelimiter front tail
    have hgoes : stalled tail next = false := by simp [stalled, hless]
    rw [← hne, hround] at hbytes
    rw [roundsBytes_of_some hbytes, stalledBytes_eq hsplit rfl, hgoes, hdone, Bool.false_and,
      Bool.false_or]
    cases hlast : count.isReached (done + 1) with
    | true =>
      rw [if_pos rfl, more_of_isReached hlast]
      simp [Items.before, Items.none]
    | false =>
      have hrest := ih (front ++ next.consumed) (values ++ [next.value]) (by simp [hdone])
        (by simp) hlast
      rw [List.append_assoc, hsplit, Text.width_append] at hrest
      rw [if_neg Bool.false_ne_true, hrest]
      simp [Items.before, Nat.add_assoc]
  | case4 done tail _ next hround hless =>
    have hsplit := split_of_round hitem hdelimiter hround
    have hbytes := roundBytes_append item hdelimiter front tail
    have hstalls : stalled tail next = true := by simp [stalled, hless]
    rw [← hne, hround] at hbytes
    rw [roundsBytes_of_some hbytes, stalledBytes_eq hsplit rfl, hstalls, hne]
    simp [Items.before, Items.none]

/-- All rounds of a text. -/
theorem roundsBytes_eq (hitem : Matcher.Fitting item)
    (hdelimiter : ∀ d ∈ delimiter, Matcher.Fitting d) (count : Bounds Nat) (input : List Char) :
    roundsBytes item.answering (delimiter.map Matcher.answering) count input 0 [] =
      some ((items item delimiter count input).values,
        Text.width (items item delimiter count input).consumed) := by
  have hbytes := roundBytes_first item delimiter input
  unfold items
  have hfit := hitem input
  cases hfirst : item input with
  | error why =>
    rw [hfirst] at hbytes
    rw [roundsBytes_of_none hbytes]
    rfl
  | ok first =>
    rw [hfirst] at hbytes hfit
    have hnone : (delimiter.map Matcher.answering).isNone = delimiter.isNone := by
      cases delimiter <;> rfl
    rw [roundsBytes_of_some hbytes, stalledBytes_eq hfit.split (Nat.zero_add _).symm, hnone,
      List.isEmpty_nil, Bool.not_true, Bool.or_false, Bool.and_comm]
    dsimp only
    cases hstalled : delimiter.isNone && stalled input first with
    | true => simp [Items.before, Items.none]
    | false =>
      rw [if_neg Bool.false_ne_true, Bool.false_or]
      cases hlast : count.isReached 1 with
      | true =>
        rw [more_of_isReached hlast, if_pos rfl]
        simp [Items.before, Items.none]
      | false =>
        have hrest := roundsBytes_append hitem hdelimiter count 1 first.consumed first.remaining
          [first.value] rfl rfl hlast
        rw [hfit.split] at hrest
        rw [if_neg Bool.false_ne_true, List.nil_append, hrest]
        simp [Items.before]

theorem readBytes_eq (delimiter : Option (Matcher C)) (hitem : Matcher.Fitting item)
    (hdelimiter : ∀ d ∈ delimiter, Matcher.Fitting d) (count : Bounds Nat) (input : List Char) :
    (readBytes item.answering (delimiter.map Matcher.answering) count input).bind
        (·.split? input) =
      some (read item delimiter count input) := by
  have hsplit := items_split hitem hdelimiter count input
  unfold readBytes read
  split_ifs with hvoid
  · exact Measured.split?_of_append _ (List.nil_append input)
  · rw [roundsBytes_eq hitem hdelimiter count input]
    unfold Items.outcome
    cases hleast : count.least with
    | none => exact Measured.split?_of_append _ hsplit
    | some least =>
      simp only [Option.map_some, Option.bind_some]
      split_ifs with hfew
      · rfl
      · exact Measured.split?_of_append _ hsplit

end Repetition

/-! ## Grammars -/

namespace Grammar

variable (names : List String)

mutual

/-- Whatever the grammar and the text, every cut that is made has a boundary. -/
theorem runBytes_eq : (g : Grammar C) → g.runBytes names = Matcher.answering (g.run names)
  | .int bounds => by
    funext input
    rw [runBytes, Leaf.split?_integerBytes, Matcher.answering, run]
  | .token word => by
    funext input
    rw [runBytes, Leaf.split?_wordBytes, Matcher.answering, run]
  | .choice candidates exact => by
    funext input
    rw [runBytes, Candidate.split?_readBytes, Matcher.answering, run]
  | .oneOf alternatives => by
    funext input
    rw [runBytes, runFirstBytes_eq alternatives, Matcher.answering, run]
  | .chain parts => by
    funext input
    have hall := runAllBytes_eq parts [] input []
    have hsplit := (runAll_fits names parts input).1
    rw [List.nil_append, Text.width_nil] at hall
    rw [runBytes, hall, Matcher.answering, run]
    cases hrun : runAll names parts input with
    | error why => rfl
    | ok items =>
      simp only [List.nil_append, Nat.zero_add, Option.bind_some]
      exact Measured.split?_of_append _ (hsplit items hrun)
  | .many item count none => by
    funext input
    rw [runBytes, runBytes_eq item, Matcher.answering, run]
    exact Repetition.readBytes_eq none (run_fits names item) (by simp) count input
  | .many item count (some delimiter) => by
    funext input
    have hdelimiter := run_fits names delimiter
    rw [runBytes, runBytes_eq item, runBytes_eq delimiter, Matcher.answering, run]
    exact Repetition.readBytes_eq (some (delimiter.run names)) (run_fits names item)
      (by simpa using hdelimiter) count input
  | .opt inner => by
    funext input
    simp only [runBytes, runBytes_eq inner, Matcher.answering, run]
    cases inner.run names input with
    | error why => exact Measured.split?_of_append _ (List.nil_append input)
    | ok parsed => rfl
  | .doc _ _ inner => by
    funext input
    simp only [runBytes, runBytes_eq inner, Matcher.answering, run]
  | .player => by
    funext input
    rw [runBytes, Candidate.split?_readBytes, Matcher.answering, run]
  | .space => by
    funext input
    rw [runBytes, Leaf.split?_blanksBytes, Matcher.answering, run]
  | .map f inner => by
    funext input
    rw [runBytes, runBytes_eq inner, Matcher.answering, Matcher.answering, run]
    rfl

theorem runFirstBytes_eq : (gs : List (Grammar C)) → (deepest : Deepest) → (input : List Char) →
    runFirstBytes names gs deepest input = some (runFirst names gs deepest input)
  | [], deepest, input => by rw [runFirstBytes, runFirst]
  | g :: rest, deepest, input => by
    rw [runFirstBytes, runFirst, runBytes_eq g, Matcher.answering]
    cases g.run names input with
    | ok parsed => rfl
    | error why => exact runFirstBytes_eq rest _ input

/-- The parts of a sequence behind an initial segment from which the values have been read. -/
theorem runAllBytes_eq : (gs : List (Grammar C)) → (front tail : List Char) →
    (values : List (Value C)) →
    runAllBytes names gs (front ++ tail) (Text.width front) values =
      some (match runAll names gs tail with
        | .error why => .error (why.shifted (Text.width front))
        | .ok items => .ok (.list (values ++ items.values),
            Text.width front + Text.width items.consumed))
  | [], front, tail, values => by
    rw [runAllBytes, runAll]
    simp [Items.none]
  | g :: rest, front, tail, values => by
    simp only [runAllBytes, runAll, Text.cut?_append, runBytes_eq g, Matcher.answering]
    have hfit := run_fits names g tail
    cases hrun : g.run names tail with
    | error why => rfl
    | ok first =>
      rw [hrun] at hfit
      have hrest := runAllBytes_eq rest (front ++ first.consumed) first.remaining
        (values ++ [first.value])
      rw [List.append_assoc, hfit.split, Text.width_append] at hrest
      dsimp only
      rw [hrest]
      cases runAll names rest first.remaining with
      | error why =>
        simp only [Rejection.shifted]
        rw [Nat.add_assoc, Nat.add_comm (Text.width first.consumed)]
      | ok items => simp [Items.before, Nat.add_assoc]

end

/-- Reading a player's text ends with an answer, and divides the text and its parts at character
boundaries only: the reading with byte counts never misses a cut, and answers what `parse` does.
Success splits the text in two, and failure points to a valid position of it. -/
theorem parse_cuts_at_boundaries (g : Grammar C) (input : String) :
    g.parseBytes input names = some (g.parse input names) ∧
      match g.parse input names with
      | .ok parsed => String.ofList parsed.consumed ++ String.ofList parsed.remaining = input
      | .error why =>
        why.offset ≤ input.utf8ByteSize ∧ (String.Pos.Raw.mk why.offset).IsValid input := by
  refine ⟨by rw [parseBytes, runBytes_eq]; rfl, ?_⟩
  have hfit := run_fits names g input.toList
  unfold parse
  cases hrun : g.run names input.toList with
  | ok parsed =>
    rw [hrun] at hfit
    dsimp only
    rw [← String.ofList_append, hfit.split, String.ofList_toList]
  | error why =>
    rw [hrun] at hfit
    have hle := hfit.boundary.le_width
    rw [Text.width_toList] at hle
    exact ⟨hle, Text.boundary_toList_iff.mp hfit.boundary⟩

end Grammar

end Tabletop
