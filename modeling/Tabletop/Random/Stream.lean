/-!
# Streams of random words

A stream of 32-bit words is determined by a key of eight words and a position. Words
come from blocks of sixteen: block `n` is the ChaCha function with eight rounds of
the key, the 64-bit counter `n` and a zero nonce. A seed is stretched to a key by a
linear congruential generator with permuted output.

A draw takes words from the position on and advances it.
-/

namespace Tabletop.Random

structure Stream where
  key : Vector UInt32 8
  /-- The number of words drawn so far. -/
  position : Nat
deriving DecidableEq

/-- Sixteen words, the state of the block function. -/
abbrev Block := Vector UInt32 16

def rotateLeft (x : UInt32) (n : UInt32) : UInt32 :=
  (x <<< n) ||| (x >>> (32 - n))

def rotateRight (x : UInt32) (n : UInt32) : UInt32 :=
  (x >>> n) ||| (x <<< (32 - n))

namespace Block

/-- Adds word `b` to word `a`, and rotates the difference of word `d` from the sum. -/
def mix (block : Block) (a b d : Fin 16) (n : UInt32) : Block :=
  let sum := block[a] + block[b]
  (block.set a sum).set d (rotateLeft (block[d] ^^^ sum) n)

def quarterRound (block : Block) (a b c d : Fin 16) : Block :=
  (((block.mix a b d 16).mix c d b 12).mix a b d 8).mix c d b 7

/-- A round on the columns and a round on the diagonals. -/
def doubleRound (block : Block) : Block :=
  let block := block.quarterRound 0 4 8 12
  let block := block.quarterRound 1 5 9 13
  let block := block.quarterRound 2 6 10 14
  let block := block.quarterRound 3 7 11 15
  let block := block.quarterRound 0 5 10 15
  let block := block.quarterRound 1 6 11 12
  let block := block.quarterRound 2 7 8 13
  block.quarterRound 3 4 9 14

/-- The block before any round: the constants, the key, the counter and a zero nonce. -/
def initial (key : Vector UInt32 8) (counter : UInt64) : Block :=
  #v[0x61707865, 0x3320646e, 0x79622d32, 0x6b206574,
    key[0], key[1], key[2], key[3], key[4], key[5], key[6], key[7],
    counter.toUInt32, (counter >>> 32).toUInt32, 0, 0]

/-- The block of a key and a counter. -/
def ofKey (key : Vector UInt32 8) (counter : UInt64) : Block :=
  let start := initial key counter
  Vector.zipWith (· + ·) start start.doubleRound.doubleRound.doubleRound.doubleRound

end Block

namespace Stream

/-- The state of the seed's generator after a step. -/
def stepSeed (s : UInt64) : UInt64 :=
  s * 6364136223846793005 + 11634580027462260723

/-- The word that the seed's generator gives out in a state. -/
def seedWord (s : UInt64) : UInt32 :=
  rotateRight (((s >>> 18) ^^^ s) >>> 27).toUInt32 (s >>> 59).toUInt32

/-- The stream of a seed. -/
def ofSeed (seed : UInt64) : Stream where
  key := Vector.ofFn fun i => seedWord (Nat.repeat stepSeed (i + 1) seed)
  position := 0

/-- The word at a position. -/
def word (key : Vector UInt32 8) (position : Nat) : UInt32 :=
  (Block.ofKey key (UInt64.ofNat (position / 16)))[position % 16]

/-- Draws a 32-bit word. -/
def draw32 (stream : Stream) : UInt32 × Stream :=
  (word stream.key stream.position, { stream with position := stream.position + 1 })

/-- Draws a 64-bit word, its low half first. -/
def draw64 (stream : Stream) : UInt64 × Stream :=
  let (low, stream) := stream.draw32
  let (high, stream) := stream.draw32
  (low.toUInt64 ||| (high.toUInt64 <<< 32), stream)

/-- Draws several times. -/
def times {α : Type} (draw : Stream → α × Stream) : Nat → Stream → List α × Stream
  | 0, stream => ([], stream)
  | n + 1, stream =>
    let (a, stream) := draw stream
    let (rest, stream) := times draw n stream
    (a :: rest, stream)

/-- The bytes of a word, lowest first. -/
def bytesOf (word : UInt32) : List UInt8 :=
  [word.toUInt8, (word >>> 8).toUInt8, (word >>> 16).toUInt8, (word >>> 24).toUInt8]

/-- Draws bytes. What is left of the last word is dropped. -/
def drawBytes (n : Nat) (stream : Stream) : List UInt8 × Stream :=
  let (words, stream) := times draw32 ((n + 3) / 4) stream
  ((words.flatMap bytesOf).take n, stream)

/-- Draws the key of a new stream. -/
def split (stream : Stream) : Stream × Stream :=
  (⟨Vector.ofFn fun i => word stream.key (stream.position + i), 0⟩,
    { stream with position := stream.position + 8 })

end Stream

end Tabletop.Random
