/-!
# Character classes given by ranges

Unicode properties are tables of inclusive code point ranges. A class is searched
from its lowest range upwards.
-/

namespace Tabletop.Text

/-- Whether a character lies in one of the inclusive code point ranges. -/
def inRanges (ranges : List (Nat × Nat)) (c : Char) : Bool :=
  ranges.any fun (first, last) => first ≤ c.toNat && c.toNat ≤ last

end Tabletop.Text
