import Tabletop.Outline.Basic

/-!
# Help

Plain-text help made from an outline: one entry for each top-level alternative,
with a compact form such as `bid 0-15` and perhaps a description. Where several
entries have to share one place, their forms are bracketed and the first one's
description is kept. What can match nothing but the empty text, such as an
alternation of nothing or a repetition that allows no item, has no entry.
-/

namespace Tabletop.Outline

open Text.Decimal (intText natText)

/-- One line of help. -/
structure Entry where
  form : String
  about : Option String
deriving DecidableEq

namespace Entry

/-- An entry without a description. -/
def plain (form : String) : Entry :=
  ⟨form, none⟩

/-- Several entries in the place of one. -/
def join : List Entry → Option Entry
  | [] => none
  | [only] => some only
  | first :: rest =>
    some ⟨"[" ++ String.intercalate " | " ((first :: rest).map (·.form)) ++ "]", first.about⟩

/-- The entries of the parts of a sequence run together. The description is that of the part at
the beginning. -/
def sequence (parts : List (Option Entry)) : Entry where
  form := String.join ((parts.filterMap id).map (·.form))
  about := parts.head?.join.bind (·.about)

/-- The text of help: descriptions on lines of their own, above the indented form. -/
def render (entries : List Entry) : String :=
  String.intercalate "\n" (entries.map fun entry =>
    match entry.about with
    | none => entry.form
    | some about => about ++ "\n  " ++ entry.form)

end Entry

/-- The form of an integer within bounds. A range without a lower end is shown from zero. -/
def integerForm (bounds : Bounds Int) : String :=
  match bounds.least, bounds.most with
  | none, none => "#"
  | some least, none => intText least ++ "+"
  | none, some most => intText 0 ++ "-" ++ intText most
  | some least, some most =>
    if least = most then intText least else intText least ++ "-" ++ intText most

/-- The form of a repetition, unless it allows no item. -/
def repeatedForm (count : Bounds Nat) (form : String) : Option String :=
  if count.isVoid then none
  else some <| match count.least, count.most with
    | none, some 1 | some 0, some 1 => form ++ "?"
    | some 1, some 1 => form
    | none, _ | some 0, _ => form ++ "*"
    | some 1, _ => form ++ "+"
    | some least, none => "(" ++ natText least ++ "+)" ++ form
    | some least, some most => form ++ "(" ++ natText least ++ "-" ++ natText most ++ ")"

mutual

/-- The help entries of an outline. The label is the name of the nearest `doc` around it, which
stands in for lists of names. -/
def entries (label : Option String) : Outline → List Entry
  | .int bounds => [.plain (integerForm bounds)]
  | .token word => [.plain word]
  | .choice names _ =>
    [.plain ("[" ++ label.getD (String.intercalate " | " names) ++ "]")]
  | .oneOf alternatives => (joined label alternatives).filterMap id
  | .chain parts => [.sequence (joined label parts)]
  | .many item count _ =>
    ((Entry.join (item.entries label)).bind fun entry =>
      (repeatedForm count entry.form).map fun form => { entry with form }).toList
  | .opt inner =>
    ((Entry.join (inner.entries label)).map fun entry =>
      { entry with form := entry.form ++ "?" }).toList
  | .doc name about inner =>
    ((Entry.join (inner.entries (some name))).map fun entry =>
      { entry with about := about.or entry.about }).toList
  | .player => [.plain "player"]
  | .space => [.plain " "]

/-- Each outline's entries in the place of one. -/
def joined (label : Option String) : List Outline → List (Option Entry)
  | [] => []
  | o :: rest => Entry.join (o.entries label) :: joined label rest

end

/-- The help for a whole outline. -/
def help (o : Outline) : List Entry :=
  o.entries none

end Tabletop.Outline
