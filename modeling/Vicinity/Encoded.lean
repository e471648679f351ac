import Vicinity.Error
import Vicinity.Number.Single

/-!
Vectors as an index stores them. A dense vector keeps its components; a sparse one keeps the
ascending indices of the nonzero components; a bit vector packs one bit for each component into
32-bit words, the lowest bit first, and ends with a word that holds the dimension.
-/

namespace Vicinity

abbrev RawVector := List Single

def wordBits : Nat := 32

def popCount (w : UInt32) : Nat :=
  (List.range wordBits).countP fun i => w.toNat.testBit i

/-- The number whose binary digits are given, lowest first. -/
def bitsValue : List Bool → Nat
  | [] => 0
  | b :: bs => b.toNat + 2 * bitsValue bs

/-- The number of words that hold one bit for each of `dimension` components. -/
def wordCount (dimension : Nat) : Nat := (dimension + (wordBits - 1)) / wordBits

/-- Bits in words. The last word is the dimension; nothing ties it to the number of the others,
because the words may come from a file. -/
structure PackedBits where
  words : List UInt32
  deriving DecidableEq, Repr

namespace PackedBits

/-- One bit for each component, set where the component is nonzero. -/
def pack (raw : RawVector) : PackedBits :=
  let dataWord (i : Nat) : UInt32 :=
    UInt32.ofNat (bitsValue (((raw.drop (wordBits * i)).take wordBits).map fun x => !x.isZero))
  ⟨(List.range (wordCount raw.length)).map dataWord ++ [UInt32.ofNat raw.length]⟩

/-- The dimension that the last word gives; zero if there is no word. -/
def dimension (b : PackedBits) : Nat :=
  match b.words.getLast? with
  | some w => w.toNat
  | none => 0

def dataWords (b : PackedBits) : List UInt32 := b.words.dropLast

/-- A data word with every bit at or past the dimension cleared. A word that is missing has no bit
set. -/
def maskedWord (b : PackedBits) (index : Nat) : UInt32 :=
  let word := b.dataWords[index]?.getD 0
  let start := index * wordBits
  if b.dimension ≤ start then 0
  else
    let live := b.dimension - start
    if wordBits ≤ live then word
    else word &&& (((1 : UInt32) <<< UInt32.ofNat live) - 1)

def bit (b : PackedBits) (index : Nat) : Bool :=
  index < b.dimension &&
    ((b.maskedWord (index / wordBits) >>> UInt32.ofNat (index % wordBits)) &&& 1) == 1

def countOnes (b : PackedBits) : Nat :=
  ((List.range b.dataWords.length).map fun i => popCount (b.maskedWord i)).foldl (· + ·) 0

end PackedBits

/-- A vector as an index stores it. -/
inductive Encoded where
  | dense (values : List Single)
  | sparse (indices : List UInt32)
  | bits (packed : PackedBits)

/-- The four bytes of a word, lowest first. -/
def wordBytes (w : UInt32) : List UInt8 :=
  [w.toUInt8, (w >>> 8).toUInt8, (w >>> 16).toUInt8, (w >>> 24).toUInt8]

namespace Encoded

def encoding : Encoded → Encoding
  | dense _ => .dense
  | sparse _ => .sparse
  | bits _ => .bits

def unitCount : Encoded → Nat
  | dense values => values.length
  | sparse indices => indices.length
  | bits packed => packed.words.length

def byteCount (v : Encoded) : Nat := v.unitCount * 4

/-- The units as words: the bit patterns of components, the indices, or the packed words. -/
def units : Encoded → List UInt32
  | dense values => values.map Single.bits
  | sparse indices => indices
  | bits packed => packed.words

/-- The bytes, each unit from its lowest byte on. -/
def bytes (v : Encoded) : List UInt8 := v.units.flatMap wordBytes

def dense? : Encoded → Option (List Single)
  | dense values => some values
  | _ => none

end Encoded

/-- The indices of the nonzero components, ascending. -/
def nonzeroIndices (raw : RawVector) : List UInt32 :=
  (raw.zipIdx.filter fun c => !c.1.isZero).map fun c => UInt32.ofNat c.2

/-- The least dimension that can be packed into bits. -/
def minBitDimension : Nat := 2

/-- Refuses a dimension too small to be packed into bits. -/
def checkBitDimension (dimension : Nat) : Except Error Unit :=
  if dimension < minBitDimension then .error (.bitsTooFew dimension) else .ok ()

/-- The form in which a space stores a raw vector. -/
def Space.encode (s : Space) (raw : RawVector) : Except Error Encoded :=
  match s.encoding with
  | .dense => .ok (.dense raw)
  | .sparse => .ok (.sparse (nonzeroIndices raw))
  | .bits =>
    match checkBitDimension raw.length with
    | .error e => .error e
    | .ok () => .ok (.bits (PackedBits.pack raw))

end Vicinity
