import Tabletop.Proofs.Json.Scalars

/-!
# What is written can be read

Every tree of arrays, objects, texts, integers and truth values is read back from both
its compact and its pretty form. What the two forms share is the order of the tokens;
they differ in the white space between them, to which the reader pays no heed. So the
lemmas speak of any form with gaps of white space between its tokens, in front of any
text that does not continue an integer.

The reader's bound on its calls is no obstacle: each call that it makes for a value
has at least half a character of the value's form to itself.
-/

namespace Tabletop.Json

open Text

mutual

/-- Values whose strings are texts and whose numbers are integers. -/
def Plain : Json → Prop
  | .real _ _ => False
  | .string content => content.isSome
  | .array items => PlainItems items
  | .object members => PlainMembers members
  | .null | .bool _ | .int _ => True

def PlainItems : List Json → Prop
  | [] => True
  | item :: rest => item.Plain ∧ PlainItems rest

def PlainMembers : List (Option String × Json) → Prop
  | [] => True
  | (name, value) :: rest => name.isSome ∧ value.Plain ∧ PlainMembers rest

end

/-! ## Gaps -/

/-- White space between tokens. -/
def Gap (text : List Char) : Prop :=
  ∀ c ∈ text, isSpace c = true

theorem gap_nil : Gap [] :=
  fun _ hc => absurd hc List.not_mem_nil

theorem gap_blank : Gap [' '] :=
  List.forall_mem_singleton.mpr rfl

theorem gap_newline (level : Nat) : Gap (newline level) := by
  refine List.forall_mem_cons.mpr ⟨rfl, fun c hc => ?_⟩
  rw [List.eq_of_mem_replicate hc]
  rfl

theorem skip_gap {gap : List Char} (h : Gap gap) (rest : List Char) :
    skip (gap ++ rest) = skip rest :=
  List.dropWhile_append_of_pos h

theorem skip_of_isSpace_false {c : Char} (h : isSpace c = false) (rest : List Char) :
    skip (c :: rest) = c :: rest := by
  rw [skip, List.dropWhile_cons, h]
  rfl

/-- The reader finds a token behind a gap. -/
theorem skip_gap_cons {gap : List Char} (h : Gap gap) {c : Char} (hc : isSpace c = false)
    (rest : List Char) : skip (gap ++ c :: rest) = c :: rest := by
  rw [skip_gap h, skip_of_isSpace_false hc]

theorem value?_gap {gap : List Char} (h : Gap gap) (calls : Nat) (rest : List Char) :
    value? calls (gap ++ rest) = value? calls rest := by
  cases calls with
  | zero => rfl
  | succ calls => rw [value?, value?, skip_gap h]

theorem items?_gap {gap : List Char} (h : Gap gap) (calls : Nat) (rest : List Char) :
    items? calls (gap ++ rest) = items? calls rest := by
  cases calls with
  | zero => rfl
  | succ calls => rw [items?, items?, value?_gap h]

theorem members?_gap {gap : List Char} (h : Gap gap) (calls : Nat) (rest : List Char) :
    members? calls (gap ++ rest) = members? calls rest := by
  cases calls with
  | zero => rfl
  | succ calls => rw [members?, members?, skip_gap h]

theorem endsNumber_of_isSpace {c : Char} (h : isSpace c = true) (rest : List Char) :
    EndsNumber (c :: rest) := by
  rintro _ ⟨⟩
  simp only [isSpace, Bool.or_eq_true, beq_iff_eq] at h
  rcases h with ((rfl | rfl) | rfl) | rfl <;> decide

theorem endsNumber_gap {gap rest : List Char} (h : Gap gap) (hrest : EndsNumber rest) :
    EndsNumber (gap ++ rest) := by
  cases gap with
  | nil => exact hrest
  | cons c gap => exact endsNumber_of_isSpace (h c List.mem_cons_self) _

/-! ## Forms with gaps -/

mutual

/-- The tokens of a value in order, with gaps between them. -/
inductive Laid : Json → List Char → Prop
  | null : Laid .null (scalar .null)
  | bool (b : Bool) : Laid (.bool b) (scalar (.bool b))
  | int (n : Int) : Laid (.int n) (scalar (.int n))
  | string (content : String) : Laid (.string (some content)) (quote (some content))
  | emptyArray {gap : List Char} : Gap gap → Laid (.array []) ('[' :: (gap ++ [']']))
  | array {items : List Json} {gap text : List Char} :
      Gap gap → LaidItems items text → Laid (.array items) ('[' :: (gap ++ text))
  | emptyObject {gap : List Char} : Gap gap → Laid (.object []) ('\x7b' :: (gap ++ ['\x7d']))
  | object {members : List (Option String × Json)} {gap text : List Char} :
      Gap gap → LaidMembers members text → Laid (.object members) ('\x7b' :: (gap ++ text))

/-- At least one item, and the closing bracket. -/
inductive LaidItems : List Json → List Char → Prop
  | last {item : Json} {text gap : List Char} :
      Laid item text → Gap gap → LaidItems [item] (text ++ (gap ++ [']']))
  | next {item : Json} {rest : List Json} {text before behind others : List Char} :
      Laid item text → Gap before → Gap behind → LaidItems rest others →
      LaidItems (item :: rest) (text ++ (before ++ ',' :: (behind ++ others)))

/-- At least one member, and the closing brace. -/
inductive LaidMembers : List (Option String × Json) → List Char → Prop
  | last {name : String} {value : Json} {before behind text gap : List Char} :
      Gap before → Gap behind → Laid value text → Gap gap →
      LaidMembers [(some name, value)]
        (quote (some name) ++ (before ++ ':' :: (behind ++ (text ++ (gap ++ ['\x7d'])))))
  | next {name : String} {value : Json} {rest : List (Option String × Json)}
      {before behind text ahead after others : List Char} :
      Gap before → Gap behind → Laid value text → Gap ahead → Gap after →
      LaidMembers rest others →
      LaidMembers ((some name, value) :: rest)
        (quote (some name) ++
          (before ++ ':' :: (behind ++ (text ++ (ahead ++ ',' :: (after ++ others))))))

end

theorem isSpace_of_isDigit {c : Char} (h : c.isDigit = true) : isSpace c = false := by
  refine Bool.eq_false_iff.mpr fun hspace => ?_
  simp only [isSpace, Bool.or_eq_true, beq_iff_eq] at hspace
  rcases hspace with ((rfl | rfl) | rfl) | rfl <;> exact absurd h (by decide)

/-- The first character of an integer's form. -/
theorem ofInt_head (n : Int) :
    ∃ c tail, Decimal.ofInt n = c :: tail ∧ (c = '-' ∨ c.isDigit = true) := by
  cases n with
  | negSucc n => exact ⟨'-', _, rfl, .inl rfl⟩
  | ofNat n =>
    cases hdigits : Decimal.ofNat n with
    | nil => exact absurd hdigits (Decimal.ofNat_ne_nil n)
    | cons c digits =>
      exact ⟨c, digits, hdigits, .inr (Decimal.isDigit_of_mem_ofNat (by rw [hdigits]; simp))⟩

/-- Where the form of a value begins, the reader neither skips anything nor sees a bracket close. -/
theorem Laid.head {j : Json} {text : List Char} (h : Laid j text) :
    ∃ c tail, text = c :: tail ∧ isSpace c = false ∧ c ≠ ']' := by
  cases h with
  | null => exact ⟨'n', _, rfl, rfl, by decide⟩
  | bool b =>
    cases b
    · exact ⟨'f', _, rfl, rfl, by decide⟩
    · exact ⟨'t', _, rfl, rfl, by decide⟩
  | int n =>
    obtain ⟨c, tail, htext, hc⟩ := ofInt_head n
    refine ⟨c, tail, htext, ?_, ?_⟩
    · rcases hc with rfl | hc
      · rfl
      · exact isSpace_of_isDigit hc
    · rintro rfl
      exact absurd hc (by decide)
  | string content => exact ⟨'"', _, rfl, rfl, by decide⟩
  | emptyArray hgap => exact ⟨'[', _, rfl, rfl, by decide⟩
  | array hgap hitems => exact ⟨'[', _, rfl, rfl, by decide⟩
  | emptyObject hgap => exact ⟨'\x7b', _, rfl, rfl, by decide⟩
  | object hgap hmembers => exact ⟨'\x7b', _, rfl, rfl, by decide⟩

theorem LaidItems.head {items : List Json} {text : List Char} (h : LaidItems items text) :
    ∃ c tail, text = c :: tail ∧ isSpace c = false ∧ c ≠ ']' := by
  cases h with
  | last hitem hgap =>
    obtain ⟨c, tail, rfl, hc⟩ := hitem.head
    exact ⟨c, _, rfl, hc⟩
  | next hitem hbefore hbehind hrest =>
    obtain ⟨c, tail, rfl, hc⟩ := hitem.head
    exact ⟨c, _, rfl, hc⟩

theorem LaidMembers.head {members : List (Option String × Json)} {text : List Char}
    (h : LaidMembers members text) : ∃ tail, text = '"' :: tail := by
  cases h with
  | last => exact ⟨_, rfl⟩
  | next => exact ⟨_, rfl⟩

/-! ## One step of the reader -/

section

variable {calls : Nat} {gap text rest behind : List Char}

/-- No other form begins like that of an integer. -/
theorem value?_number {c : Char} (h : c = '-' ∨ c.isDigit = true) (calls : Nat)
    (rest : List Char) : value? (calls + 1) (c :: rest) = number? (c :: rest) := by
  have hspace : isSpace c = false := by
    rcases h with rfl | h
    · rfl
    · exact isSpace_of_isDigit h
  rw [value?, skip_of_isSpace_false hspace]
  split
  case h_7 => rfl
  all_goals
    rename_i heq
    obtain ⟨rfl, -⟩ := List.cons.inj heq
    exact absurd h (by decide)

/-- A string in quotes, in front of a colon or anything else. -/
theorem quote_append (content : String) (rest : List Char) :
    quote (some content) ++ rest = '"' :: (content.toList.flatMap escape ++ '"' :: rest) := by
  simp only [quote, List.cons_append, List.append_assoc, List.nil_append]

theorem value?_string (content : String) (calls : Nat) (after : List Char) :
    value? (calls + 1) (quote (some content) ++ after) =
      some (.string (some content), after) := by
  have hquote (rest : List Char) : skip ('"' :: rest) = '"' :: rest := rfl
  rw [quote_append, value?]
  simp only [hquote, string?_quoted, Option.map_some]

theorem value?_emptyArray (hgap : Gap gap) (calls : Nat) (after : List Char) :
    value? (calls + 1) ('[' :: (gap ++ ']' :: after)) = some (.array [], after) := by
  have hopen : skip ('[' :: (gap ++ ']' :: after)) = '[' :: (gap ++ ']' :: after) := rfl
  have hclose : skip (gap ++ ']' :: after) = ']' :: after := skip_gap_cons hgap rfl after
  rw [value?]
  simp only [hopen, hclose]

/-- Behind an opening bracket, a text in which it does not close at once. -/
theorem value?_array (hgap : Gap gap) {c : Char} (hspace : isSpace c = false) (hc : c ≠ ']')
    (calls : Nat) (rest : List Char) :
    value? (calls + 1) ('[' :: (gap ++ c :: rest)) =
      (items? calls (c :: rest)).map fun (items, after) => (.array items, after) := by
  have hopen : skip ('[' :: (gap ++ c :: rest)) = '[' :: (gap ++ c :: rest) := rfl
  have hfirst : skip (gap ++ c :: rest) = c :: rest := skip_gap_cons hgap hspace rest
  rw [value?]
  simp only [hopen, hfirst]
  split
  · rename_i heq
    exact absurd (List.cons.inj heq).1 hc
  · rfl

theorem value?_emptyObject (hgap : Gap gap) (calls : Nat) (after : List Char) :
    value? (calls + 1) ('\x7b' :: (gap ++ '\x7d' :: after)) = some (.object [], after) := by
  have hopen : skip ('\x7b' :: (gap ++ '\x7d' :: after)) = '\x7b' :: (gap ++ '\x7d' :: after) := rfl
  have hclose : skip (gap ++ '\x7d' :: after) = '\x7d' :: after := skip_gap_cons hgap rfl after
  rw [value?]
  simp only [hopen, hclose]

/-- Behind an opening brace, the first name. -/
theorem value?_object (hgap : Gap gap) (calls : Nat) (rest : List Char) :
    value? (calls + 1) ('\x7b' :: (gap ++ '"' :: rest)) =
      (members? calls ('"' :: rest)).map fun (members, after) => (.object members, after) := by
  have hopen : skip ('\x7b' :: (gap ++ '"' :: rest)) = '\x7b' :: (gap ++ '"' :: rest) := rfl
  have hfirst : skip (gap ++ '"' :: rest) = '"' :: rest := skip_gap_cons hgap rfl rest
  rw [value?]
  simp only [hopen, hfirst]
  rfl

/-- The last item of an array. -/
theorem items?_last {item : Json} (h : value? calls text = some (item, rest))
    (hrest : skip rest = ']' :: behind) :
    items? (calls + 1) text = some ([item], behind) := by
  rw [items?, h]
  simp only [hrest]

/-- An item in front of others. -/
theorem items?_next {item : Json} (h : value? calls text = some (item, rest))
    (hrest : skip rest = ',' :: behind) :
    items? (calls + 1) text =
      (items? calls behind).map fun (items, after) => (item :: items, after) := by
  rw [items?, h]
  simp only [hrest]

variable {value : Json}

/-- The last member of an object. -/
theorem members?_last (name : String) (hgap : Gap gap) (h : value? calls text = some (value, rest))
    (hrest : skip rest = '\x7d' :: behind) :
    members? (calls + 1) (quote (some name) ++ (gap ++ ':' :: text)) =
      some ([(some name, value)], behind) := by
  have hquote (rest : List Char) : skip ('"' :: rest) = '"' :: rest := rfl
  have hcolon : skip (gap ++ ':' :: text) = ':' :: text := skip_gap_cons hgap rfl text
  rw [quote_append, members?]
  simp only [hquote, string?_quoted, hcolon, h, hrest]

/-- A member in front of others. -/
theorem members?_next (name : String) (hgap : Gap gap) (h : value? calls text = some (value, rest))
    (hrest : skip rest = ',' :: behind) :
    members? (calls + 1) (quote (some name) ++ (gap ++ ':' :: text)) =
      (members? calls behind).map fun (members, after) =>
        ((some name, value) :: members, after) := by
  have hquote (rest : List Char) : skip ('"' :: rest) = '"' :: rest := rfl
  have hcolon : skip (gap ++ ':' :: text) = ':' :: text := skip_gap_cons hgap rfl text
  rw [quote_append, members?]
  simp only [hquote, string?_quoted, hcolon, h, hrest]

end

/-! ## Reading any form -/

theorem Laid.length_pos {j : Json} {text : List Char} (h : Laid j text) : 0 < text.length := by
  obtain ⟨c, tail, rfl, -⟩ := h.head
  exact Nat.succ_pos _

mutual

/-- A value is read from each of its forms, whatever follows. -/
theorem Laid.value? {j : Json} {text : List Char} (h : Laid j text) (calls : Nat)
    (hcalls : 2 * text.length ≤ calls) {after : List Char} (hafter : EndsNumber after) :
    value? calls (text ++ after) = some (j, after) := by
  -- every value has a character to pay for its call
  obtain ⟨calls, rfl⟩ : ∃ n, calls = n + 1 :=
    Nat.exists_eq_add_one_of_ne_zero (by have := h.length_pos; omega)
  cases h with
  | null => rfl
  | bool b => cases b <;> rfl
  | int n =>
    obtain ⟨c, tail, htext, hc⟩ := ofInt_head n
    rw [scalar, htext, List.cons_append, value?_number hc, ← List.cons_append, ← htext]
    exact number?_ofInt n hafter
  | string content => exact value?_string content calls after
  | emptyArray hgap =>
    rw [List.cons_append, List.append_assoc]
    exact value?_emptyArray hgap calls after
  | @array items gap text hgap hitems =>
    -- the bracket pays for the call that leads to the first item
    have hread := hitems.items? calls
      (by rw [List.length_cons, List.length_append] at hcalls; omega) after
    obtain ⟨c, tail, rfl, hspace, hc⟩ := hitems.head
    rw [List.cons_append, List.append_assoc, List.cons_append, value?_array hgap hspace hc,
      ← List.cons_append, hread]
    rfl
  | emptyObject hgap =>
    rw [List.cons_append, List.append_assoc]
    exact value?_emptyObject hgap calls after
  | @object members gap text hgap hmembers =>
    have hread := hmembers.members? calls
      (by rw [List.length_cons, List.length_append] at hcalls; omega) after
    obtain ⟨tail, rfl⟩ := hmembers.head
    rw [List.cons_append, List.append_assoc, List.cons_append, value?_object hgap,
      ← List.cons_append, hread]
    rfl

theorem LaidItems.items? {items : List Json} {text : List Char} (h : LaidItems items text)
    (calls : Nat) (hcalls : 2 * text.length ≤ calls) (after : List Char) :
    items? calls (text ++ after) = some (items, after) := by
  cases h with
  | @last item text gap hitem hgap =>
    rw [List.length_append, List.length_append, List.length_singleton] at hcalls
    obtain ⟨calls, rfl⟩ : ∃ n, calls = n + 1 := Nat.exists_eq_add_one_of_ne_zero (by omega)
    have hends := endsNumber_gap hgap (endsNumber_bracket after)
    have hclose : skip (gap ++ ']' :: after) = ']' :: after := skip_gap_cons hgap rfl after
    rw [List.append_assoc, List.append_assoc, List.singleton_append]
    exact items?_last (hitem.value? calls (by omega) hends) hclose
  | @next item rest text before behind others hitem hbefore hbehind hrest =>
    rw [List.length_append, List.length_append, List.length_cons, List.length_append] at hcalls
    obtain ⟨calls, rfl⟩ : ∃ n, calls = n + 1 := Nat.exists_eq_add_one_of_ne_zero (by omega)
    have hends := endsNumber_gap hbefore (endsNumber_comma (behind ++ (others ++ after)))
    have hcomma : skip (before ++ ',' :: (behind ++ (others ++ after))) =
        ',' :: (behind ++ (others ++ after)) := skip_gap_cons hbefore rfl _
    -- and the comma for the one that leads to the next
    have hothers := hrest.items? calls (by omega) after
    rw [List.append_assoc, List.append_assoc, List.cons_append, List.append_assoc,
      items?_next (hitem.value? calls (by omega) hends) hcomma, items?_gap hbehind, hothers,
      Option.map_some]

theorem LaidMembers.members? {members : List (Option String × Json)} {text : List Char}
    (h : LaidMembers members text) (calls : Nat) (hcalls : 2 * text.length ≤ calls)
    (after : List Char) : members? calls (text ++ after) = some (members, after) := by
  cases h with
  | @last name value before behind text gap hbefore hbehind hvalue hgap =>
    simp only [List.length_append, List.length_cons] at hcalls
    obtain ⟨calls, rfl⟩ : ∃ n, calls = n + 1 := Nat.exists_eq_add_one_of_ne_zero (by omega)
    have hends := endsNumber_gap hgap (endsNumber_brace after)
    have hclose : skip (gap ++ '\x7d' :: after) = '\x7d' :: after := skip_gap_cons hgap rfl after
    have hread := hvalue.value? calls (by omega) hends
    rw [← value?_gap hbehind] at hread
    have hlast := members?_last name hbefore hread hclose
    simpa only [List.append_assoc, List.cons_append, List.nil_append] using hlast
  | @next name value rest before behind text ahead next others hbefore hbehind hvalue hahead hnext
      hrest =>
    simp only [List.length_append, List.length_cons] at hcalls
    obtain ⟨calls, rfl⟩ : ∃ n, calls = n + 1 := Nat.exists_eq_add_one_of_ne_zero (by omega)
    have hends := endsNumber_gap hahead (endsNumber_comma (next ++ (others ++ after)))
    have hcomma : skip (ahead ++ ',' :: (next ++ (others ++ after))) =
        ',' :: (next ++ (others ++ after)) := skip_gap_cons hahead rfl _
    have hread := hvalue.value? calls (by omega) hends
    rw [← value?_gap hbehind] at hread
    have hothers := hrest.members? calls (by omega) after
    have hmember := members?_next name hbefore hread hcomma
    rw [members?_gap hnext, hothers, Option.map_some] at hmember
    simpa only [List.append_assoc, List.cons_append] using hmember

end

/-- A text in one of the forms of a value holds this value. -/
theorem Laid.parse? {j : Json} {text : List Char} (h : Laid j text) :
    parse? (.ofList text) = some j := by
  have hvalue := h.value? (2 * text.length + 2) (by omega) endsNumber_nil
  rw [List.append_nil] at hvalue
  simp only [Json.parse?, String.toList_ofList, hvalue]
  rfl

/-! ## The compact form -/

mutual

-- The empty gaps do not show in the form that is written: `( :)` has each constructor
-- elaborated before it is compared with this form.

theorem laid_write : {j : Json} → j.Plain → Laid j j.write
  | .null, _ => .null
  | .bool b, _ => .bool b
  | .int n, _ => .int n
  | .string (some content), _ => .string content
  | .array [], _ => .emptyArray gap_nil
  | .array (_ :: _), h => (Laid.array gap_nil (laidItems_write (laid_write h.1) h.2) :)
  | .object [], _ => .emptyObject gap_nil
  | .object ((some _, _) :: _), h =>
    (Laid.object gap_nil (laidMembers_write (laid_write h.2.1) h.2.2) :)

/-- Items are written behind the form of the first. -/
theorem laidItems_write {item : Json} {text : List Char} (hitem : Laid item text) :
    {rest : List Json} → PlainItems rest → LaidItems (item :: rest) (text ++ writeItems rest)
  | [], _ => .last hitem gap_nil
  | _ :: _, h =>
    (LaidItems.next hitem gap_nil gap_nil (laidItems_write (laid_write h.1) h.2) :)

theorem laidMembers_write {name : String} {value : Json} {text : List Char}
    (hvalue : Laid value text) :
    {rest : List (Option String × Json)} → PlainMembers rest →
      LaidMembers ((some name, value) :: rest)
        (quote (some name) ++ ':' :: (text ++ writeMembers rest))
  | [], _ => .last gap_nil gap_nil hvalue gap_nil
  | (some _, _) :: _, h =>
    (LaidMembers.next gap_nil gap_nil hvalue gap_nil gap_nil
      (laidMembers_write (laid_write h.2.1) h.2.2) :)

end

/-- A plain value is read back from its compact text. -/
theorem parse?_compact {j : Json} (h : j.Plain) : parse? j.compact = some j :=
  (laid_write h).parse?

/-! ## The pretty form -/

mutual

theorem laid_layout : {j : Json} → j.Plain → (level : Nat) → Laid j (j.layout level)
  | .null, _, _ => .null
  | .bool b, _, _ => .bool b
  | .int n, _, _ => .int n
  | .string (some content), _, _ => .string content
  | .array [], _, _ => .emptyArray gap_nil
  | .array (_ :: _), h, level => by
    rw [layout, List.append_assoc]
    exact .array (gap_newline _) (laidItems_layout (laid_layout h.1 _) h.2 level)
  | .object [], _, _ => .emptyObject gap_nil
  | .object ((some _, _) :: _), h, level => by
    rw [layout, List.append_assoc]
    exact .object (gap_newline _) (laidMembers_layout (laid_layout h.2.1 _) h.2.2 level)

/-- Items stand on lines of their own behind the form of the first. -/
theorem laidItems_layout {item : Json} {text : List Char} (hitem : Laid item text) :
    {rest : List Json} → PlainItems rest → (level : Nat) →
      LaidItems (item :: rest) (text ++ layoutItems level rest)
  | [], _, level => .last hitem (gap_newline level)
  | _ :: _, h, level => by
    rw [layoutItems, List.append_assoc]
    exact .next hitem gap_nil (gap_newline _) (laidItems_layout (laid_layout h.1 _) h.2 level)

theorem laidMembers_layout {name : String} {value : Json} {text : List Char}
    (hvalue : Laid value text) :
    {rest : List (Option String × Json)} → PlainMembers rest → (level : Nat) →
      LaidMembers ((some name, value) :: rest)
        (quote (some name) ++ ':' :: ' ' :: (text ++ layoutMembers level rest))
  | [], _, level => .last gap_nil gap_blank hvalue (gap_newline level)
  | (some _, _) :: _, h, level => by
    rw [layoutMembers, List.append_assoc]
    exact .next gap_nil gap_blank hvalue gap_nil (gap_newline _)
      (laidMembers_layout (laid_layout h.2.1 _) h.2.2 level)

end

/-- A plain value is read back from its pretty text. -/
theorem parse?_pretty {j : Json} (h : j.Plain) : parse? j.pretty = some j :=
  (laid_layout h 0).parse?

end Tabletop.Json
