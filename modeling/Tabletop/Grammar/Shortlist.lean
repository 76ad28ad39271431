import Tabletop.Grammar.Outcome
import Tabletop.Grammar.Basic
import Tabletop.Text.Lowercase
import Tabletop.Text.Phrase

/-!
# Names that may be abbreviated

A player may type any abbreviation of a name that tells it from the others. The
candidates are considered in order, and a shortlist of those still in the running
is kept:

* a longer agreement with the input displaces everyone on the list;
* at equal length, a name typed in full displaces the abbreviated ones;
* once a name typed in full is on the list, abbreviated ones of the same length
  are passed over, but others typed in full are listed beside it.

One survivor is a match. Several are an ambiguity that the player has to resolve
by typing more.
-/

namespace Tabletop

universe u

/-- The candidates in the running: how much of the input they agree with, and whether their
names were typed in full. -/
structure Shortlist (C : Type u) where
  listed : List (Candidate C)
  length : Nat
  full : Bool

namespace Shortlist

open Text

variable {C : Type u}

def empty : Shortlist C :=
  ⟨[], 0, false⟩

/-- Considers one more candidate, whose name agrees with `shared` characters of the input. -/
def consider (exact : Bool) (input : List Char) (list : Shortlist C) (candidate : Candidate C) :
    Shortlist C :=
  let shared := (agreement input candidate.name.toList).length
  let full := shared == candidate.name.toList.length
  if exact && !full then list
  else if shared == 0 || shared < list.length then list
  else
    let list :=
      if list.length < shared || (full && !list.full) then ⟨[], shared, full⟩ else list
    if full || !list.full then { list with listed := list.listed ++ [candidate] } else list

/-- The shortlist after all candidates have been considered in order. -/
def ofCandidates (candidates : List (Candidate C)) (exact : Bool) (input : List Char) :
    Shortlist C :=
  candidates.foldl (consider exact input) empty

end Shortlist

namespace Candidate

open Text

variable {C : Type u}

/-- Reads the name of exactly one candidate. -/
def read (candidates : List (Candidate C)) (exact : Bool) (input : List Char) : Outcome C :=
  let shortlist := Shortlist.ofCandidates candidates exact input
  let refused := Rejection.expecting (candidates.map (·.name))
  match shortlist.listed with
  | [] => .error refused
  | [only] => .ok ⟨only.value, input.take shortlist.length, input.drop shortlist.length⟩
  | several => .error (refused.because ("matched " ++ phraseAnd (several.map (·.name)) ++
      ", more input is required to uniquely match one"))

/-- The players as candidates, each standing for its seat. -/
def ofPlayers (names : List String) : List (Candidate C) :=
  names.mapIdx fun seat name => ⟨name, .player seat⟩

end Candidate

end Tabletop
