import Vicinity.Space

/-!
The nearest candidates seen so far. A queue keeps at most as many neighbours as it has room for,
and always the nearest ones; of two at the same distance the one with the smaller id is nearer.
-/

namespace Vicinity

/-- Puts an item in its place among others that stand in order: behind those that stay before it. -/
def place (staysBefore : α → α → Bool) (a : α) : List α → List α
  | [] => [a]
  | b :: rest => if staysBefore b a then b :: place staysBefore a rest else a :: b :: rest

/-- A ranked neighbour. -/
structure Neighbor where
  id : Int
  distance : Single

namespace Neighbor

/-- Whether one neighbour ranks strictly before another: by distance, then by id. -/
def before (a b : Neighbor) : Bool :=
  a.distance.rankKey < b.distance.rankKey ||
    (a.distance.rankKey == b.distance.rankKey && a.id < b.id)

/-- The score of a neighbour found in a space. -/
def score (n : Neighbor) (space : Space) : Single := space.score n.distance

end Neighbor

/-- A bounded queue. `farthestFirst` holds the neighbours kept, the farthest first. -/
structure TopK where
  capacity : Nat
  farthestFirst : List Neighbor

namespace TopK

/-- A queue with room for `k` neighbours. -/
def empty (k : Nat) : TopK := ⟨k, []⟩

/-- Puts a neighbour in its place among others that stand farthest first. -/
def insertRanked (n : Neighbor) (others : List Neighbor) : List Neighbor :=
  place (fun m n => n.before m) n others

def size (q : TopK) : Nat := q.farthestFirst.length

def isEmpty (q : TopK) : Bool := q.farthestFirst.isEmpty

/-- Offers a candidate; says whether it is kept. A full queue gives up its farthest neighbour for
a nearer one. -/
def push (q : TopK) (n : Neighbor) : Bool × TopK :=
  if q.capacity = 0 then (false, q)
  else if q.size < q.capacity then
    (true, { q with farthestFirst := insertRanked n q.farthestFirst })
  else
    match q.farthestFirst with
    | [] => (false, q)
    | worst :: rest =>
      if n.before worst then (true, { q with farthestFirst := insertRanked n rest })
      else (false, q)

def pushAll (q : TopK) (candidates : List Neighbor) : TopK :=
  candidates.foldl (fun q n => (q.push n).2) q

/-- The distance of the farthest neighbour kept. -/
def farthest? (q : TopK) : Option Single := q.farthestFirst.head?.map (·.distance)

def pop (q : TopK) : Option Neighbor × TopK :=
  match q.farthestFirst with
  | [] => (none, q)
  | worst :: rest => (some worst, { q with farthestFirst := rest })

/-- The neighbours kept, the nearest first. -/
def toSorted (q : TopK) : List Neighbor := q.farthestFirst.reverse

end TopK

end Vicinity
