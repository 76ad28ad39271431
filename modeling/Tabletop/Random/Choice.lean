import Tabletop.Random.Stream
import Tabletop.Word

/-!
# Random choices

A number below `n` is drawn by multiplying a random word with `n` and keeping the
high half of the product. Words whose low half is beyond the last full multiple of
`n`, doubled as often as fits the word, would favour some numbers and are drawn
again. Each word is kept with a chance of more than one half, so that more than
`patience` of them are hardly ever refused in a row. The one after these is kept
unconditionally, and every result is below `n` in any case.
-/

namespace Tabletop.Random.Stream

/-- The greatest number of words that are refused for one choice. -/
def patience : Nat :=
  256

/-- The greatest low half of a product with `n` that is kept, for words of some bits. -/
def zone (bits n : Nat) : Nat :=
  (n <<< (bits - 1 - n.log2)) - 1

/-- Draws a number below `n` from words of some bits, in at most `tries + 1` draws. This departs
from the library that games draw with, whose loop goes on until a word is kept and has no limit:
here the last word stands even if its low half is beyond the zone. The two agree unless `tries + 1`
such words come in a row. -/
def drawBelow (bits : Nat) (draw : Stream → Nat × Stream) (n : Nat) :
    Nat → Stream → Nat × Stream
  | 0, stream =>
    let (word, stream) := draw stream
    ((word * n) >>> bits, stream)
  | tries + 1, stream =>
    let (word, stream) := draw stream
    if word * n % (1 <<< bits) ≤ zone bits n then ((word * n) >>> bits, stream)
    else drawBelow bits draw n tries stream

/-- A 32-bit draw as a natural number. -/
def nat32 (stream : Stream) : Nat × Stream :=
  let (word, stream) := stream.draw32
  (word.toNat, stream)

/-- A 64-bit draw as a natural number. -/
def nat64 (stream : Stream) : Nat × Stream :=
  let (word, stream) := stream.draw64
  (word.toNat, stream)

/-- Draws an integer between two signed 64-bit ends, both included. If that is every such integer,
any word will do. -/
def drawBetween (low high : Int) (stream : Stream) : Int × Stream :=
  let count := (high - low + 1).toNat
  if count < Word.count then
    let (n, stream) := drawBelow 64 nat64 count patience stream
    (low + n, stream)
  else
    let (word, stream) := nat64 stream
    (Word.wrap word, stream)

/-- Exchanges each of the first `n` items, from the last one down, with one not after it. -/
def shuffleFirst {α : Type} : Nat → Array α → Stream → Array α × Stream
  | 0, items, stream => (items, stream)
  | 1, items, stream => (items, stream)
  | n + 2, items, stream =>
    let (j, stream) := drawBelow 32 nat32 (n + 2) patience stream
    shuffleFirst (n + 1) (items.swapIfInBounds (n + 1) j) stream

/-- Puts items into a random order. -/
def shuffle {α : Type} (items : List α) (stream : Stream) : List α × Stream :=
  let (items, stream) := shuffleFirst items.length items.toArray stream
  (items.toList, stream)

end Tabletop.Random.Stream
