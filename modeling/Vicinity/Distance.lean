import Vicinity.Encoded

/-!
Distances between encoded vectors; smaller means closer. Sums run from the first component to the
last in single precision, one rounding for each operation, and start from the negative zero. Two
dense vectors are compared over the length of the shorter one.
-/

namespace Vicinity

open Number (singleOfNat)

namespace Distance

/-- The sum of terms, from the first to the last. It starts from the zero with a minus sign. -/
def total (terms : List Single) : Single := Single.sum (-0) terms

def l1 (a b : List Single) : Single :=
  total (List.zipWith (fun x y => (x - y).abs) a b)

/-- The square root of the sum of squared differences. -/
def l2 (a b : List Single) : Single :=
  (total (List.zipWith (fun x y => (x - y) * (x - y)) a b)).sqrt

def linf (a b : List Single) : Single :=
  (List.zipWith (fun x y => (x - y).abs) a b).foldl Single.max 0

/-- One less the cosine of the angle between two vectors; a zero vector is at distance one from
everything. -/
def cosine (a b : List Single) : Single :=
  let pairs := List.zip a b
  let dot := Single.sum 0 (pairs.map fun p => p.1 * p.2)
  let normA := Single.sum 0 (pairs.map fun p => p.1 * p.1)
  let normB := Single.sum 0 (pairs.map fun p => p.2 * p.2)
  if normA.isZero || normB.isZero then 1
  else 1 - Single.clamp (-1) 1 (dot / (normA.sqrt * normB.sqrt))

def negatedDot (a b : List Single) : Single :=
  -total (List.zipWith (· * ·) a b)

/-- One less the share that `common` has in `union`; nothing in common with nothing is no
distance. -/
def jaccard (common union : Nat) : Single :=
  if union = 0 then 0 else 1 - singleOfNat common / singleOfNat union

/-- The number of indices that two ascending lists have in common. -/
def commonCount : List UInt32 → List UInt32 → Nat
  | [], _ => 0
  | _, [] => 0
  | a :: as, b :: bs =>
    if a < b then commonCount as (b :: bs)
    else if b < a then commonCount (a :: as) bs
    else commonCount as bs + 1
termination_by as bs => as.length + bs.length

/-- The Jaccard distance of two ascending lists of indices. -/
def sparseJaccard (a b : List UInt32) : Single :=
  let common := commonCount a b
  jaccard common (a.length + b.length - common)

/-- The number of bits set in the words that `combine` makes of two bit vectors. -/
def combinedCount (combine : UInt32 → UInt32 → UInt32) (a b : PackedBits) : Nat :=
  ((List.range (max a.dataWords.length b.dataWords.length)).map fun i =>
    popCount (combine (a.maskedWord i) (b.maskedWord i))).foldl (· + ·) 0

def bitJaccard (a b : PackedBits) : Single :=
  jaccard (combinedCount (· &&& ·) a b) (combinedCount (· ||| ·) a b)

/-- The distance of two vectors that are not encoded for the space in use. -/
def unrelated : Single := Single.infinity

end Distance

/-- The distance of two encoded vectors in a space. Vectors of another encoding than the space's
are infinitely far apart. -/
def Space.distance (s : Space) (a b : Encoded) : Single :=
  match s, a, b with
  | .l1, .dense a, .dense b => Distance.l1 a b
  | .l2, .dense a, .dense b => Distance.l2 a b
  | .linf, .dense a, .dense b => Distance.linf a b
  | .cosine, .dense a, .dense b => Distance.cosine a b
  | .innerProduct, .dense a, .dense b => Distance.negatedDot a b
  | .sparseJaccard, .sparse a, .sparse b => Distance.sparseJaccard a b
  | .bitJaccard, .bits a, .bits b => Distance.bitJaccard a b
  | _, _, _ => Distance.unrelated

end Vicinity
