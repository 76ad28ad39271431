/-!
# Lists in running text

Names and expectations are shown to players as "a, b or c". Every other join in
the library puts one separator between neighbours and is `String.intercalate`.
-/

namespace Tabletop.Text

/-- The items separated by commas, with the conjunction before the last one. -/
def phrase (conjunction : String) : List String → String
  | [] => ""
  | [only] => only
  | [first, last] => first ++ " " ++ conjunction ++ " " ++ last
  | first :: rest => first ++ ", " ++ phrase conjunction rest

/-- The items joined with "and". -/
def phraseAnd (items : List String) : String :=
  phrase "and" items

/-- The items joined with "or". -/
def phraseOr (items : List String) : String :=
  phrase "or" items

end Tabletop.Text
