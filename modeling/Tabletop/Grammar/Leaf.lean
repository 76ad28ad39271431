import Tabletop.Grammar.Expected
import Tabletop.Grammar.Outcome
import Tabletop.Text.Blank
import Tabletop.Text.Lowercase
import Tabletop.Word

/-!
# Reading integers, words and white space

All three fail at the very start of the text, before anything is consumed, and say
what they expected. An integer literal is cut whole before its value is judged, so
a literal that is too large, or outside the bounds, is named in the explanation.
-/

namespace Tabletop

universe u

namespace Leaf

open Text Text.Decimal

variable {C : Type u}

/-- Reads the longest integer literal and checks it against the bounds. -/
def integer (bounds : Bounds Int) (input : List Char) : Outcome C :=
  let refused := Rejection.expecting [bounds.describeInt]
  match literal? input with
  | none => .error refused
  | some (literal, rest) =>
    let n := toInt literal
    if !Word.fitsSigned n then .error (refused.because (.ofList literal ++ " is out of range"))
    else if bounds.least.any (n < ·) then .error (refused.because (intText n ++ " is too low"))
    else if bounds.most.any (· < n) then .error (refused.because (intText n ++ " is too high"))
    else .ok ⟨.int n, literal, rest⟩

/-- Reads a whole word, in any case. The value is the word as it was declared. -/
def word (target : String) (input : List Char) : Outcome C :=
  let shared := agreement input target.toList
  if shared.length < target.toList.length then .error (.expecting [target])
  else .ok ⟨.text target, shared, input.drop shared.length⟩

/-- Reads all the white space at the beginning, of which there must be some. -/
def blanks (input : List Char) : Outcome C :=
  match input.takeWhile isBlank with
  | [] => .error ((Rejection.expecting ["whitespace"]).because "expected whitespace")
  | found => .ok ⟨.text (.ofList found), found, input.dropWhile isBlank⟩

end Leaf

end Tabletop
