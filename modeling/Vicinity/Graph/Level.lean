/-!
The levels of graph nodes. Each node draws a level from a fixed stream of random numbers, so two
builds over the same batch give the same graph. The stream is the ChaCha cipher with twelve
rounds, its key filled from a small seed.
-/

namespace Vicinity.Level

def seed : UInt64 := 100

/-- One step of the generator that fills the key. -/
def nextState (s : UInt64) : UInt64 := s * 6364136223846793005 + 11634580027462260723

def rotateLeft (w : UInt32) (n : UInt32) : UInt32 := (w <<< n) ||| (w >>> ((32 - n) % 32))

/-- The word that a state of the key generator gives: its high bits folded together, rotated by
the highest five. -/
def keyWord (s : UInt64) : UInt32 :=
  let folded := (((s >>> 18) ^^^ s) >>> 27).toUInt32
  let amount := (s >>> 59).toUInt32
  (folded >>> amount) ||| (folded <<< ((32 - amount) % 32))

/-- The words that follow a state of the key generator. -/
def keyWords : Nat → UInt64 → List UInt32
  | 0, _ => []
  | n + 1, s => keyWord (nextState s) :: keyWords n (nextState s)

def key : List UInt32 := keyWords 8 seed

abbrev Block := Array UInt32

/-- The state that stands before the rounds of a block: four constants, the key, the number of
the block, and a nonce of zeros. -/
def startBlock (counter : UInt64) : Block :=
  let constants : Block := #[0x61707865, 0x3320646E, 0x79622D32, 0x6B206574]
  constants ++ key.toArray ++ #[counter.toUInt32, (counter >>> 32).toUInt32, 0, 0]

def word (b : Block) (i : Nat) : UInt32 := b.getD i 0

def quarterRound (b : Block) (i j k l : Nat) : Block :=
  let a := word b i + word b j
  let d := rotateLeft (word b l ^^^ a) 16
  let c := word b k + d
  let e := rotateLeft (word b j ^^^ c) 12
  let a := a + e
  let d := rotateLeft (d ^^^ a) 8
  let c := c + d
  let e := rotateLeft (e ^^^ c) 7
  (((b.setIfInBounds i a).setIfInBounds j e).setIfInBounds k c).setIfInBounds l d

/-- A round over the columns and one over the diagonals. -/
def doubleRound (b : Block) : Block :=
  let b := quarterRound b 0 4 8 12
  let b := quarterRound b 1 5 9 13
  let b := quarterRound b 2 6 10 14
  let b := quarterRound b 3 7 11 15
  let b := quarterRound b 0 5 10 15
  let b := quarterRound b 1 6 11 12
  let b := quarterRound b 2 7 8 13
  quarterRound b 3 4 9 14

def rounds : Nat → Block → Block
  | 0, b => b
  | n + 1, b => rounds n (doubleRound b)

def streamBlock (counter : UInt64) : Block :=
  let start := startBlock counter
  Array.zipWith (· + ·) start (rounds 6 start)

/-- The `i`-th 64-bit draw of the stream. A block holds eight, each with its low word first. -/
def draw (i : Nat) : UInt64 :=
  let b := streamBlock (UInt64.ofNat (i / 8))
  let j := 2 * (i % 8)
  (word b j).toUInt64 ||| ((word b (j + 1)).toUInt64 <<< 32)

def maxLevel : Nat := 16

def unitInterval (d : UInt64) : Float := (d >>> 11).toFloat / 9007199254740992

/-- The level of the `i`-th node of a graph with `m` links: it falls off so that about one node in
`m` reaches the next level. -/
def ofNode (m i : Nat) : Nat :=
  let r := unitInterval (draw i)
  let scale := 1 / Float.log (Float.ofNat m)
  min maxLevel (Float.floor (-(Float.log (1 - r)) * scale)).toUInt64.toNat

end Vicinity.Level
