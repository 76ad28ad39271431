import Tabletop.Text.Ranges

/-!
# White space

The Unicode property White_Space: 25 code points in ten ranges. Zero-width
characters such as U+200B and U+FEFF are not among them.
-/

namespace Tabletop.Text

def blankRanges : List (Nat × Nat) :=
  [(0x0009, 0x000D), (0x0020, 0x0020), (0x0085, 0x0085), (0x00A0, 0x00A0), (0x1680, 0x1680),
   (0x2000, 0x200A), (0x2028, 0x2029), (0x202F, 0x202F), (0x205F, 0x205F), (0x3000, 0x3000)]

/-- Whether a character is white space. -/
def isBlank (c : Char) : Bool :=
  inRanges blankRanges c

/-- The text without its leading white space. -/
def trimStart (text : String) : String :=
  .ofList (text.toList.dropWhile isBlank)

@[simp]
theorem toList_trimStart (text : String) :
    (trimStart text).toList = text.toList.dropWhile isBlank := by
  simp [trimStart]

end Tabletop.Text
