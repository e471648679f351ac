import Vicinity.Index.Seam
import Vicinity.Stored.Snapshot

/-!
The index that compares a query with every stored vector. Its answers are exact, and it is the
measure for the others.
-/

namespace Vicinity

/-- The stored vectors, and the space they were created for. -/
structure ExactIndex where
  space : Space
  entries : List Entry

namespace ExactIndex

def fresh (m : MetricSpace) : ExactIndex := ⟨m.space, []⟩

/-- Takes in the vectors of a dataset in place of those held. -/
def construct (dataset : Dataset) (params : Params) (ix : ExactIndex) :
    Except Error Unit × ExactIndex :=
  match params.checkKnown constructNames with
  | .error e => (.error e, ix)
  | .ok () => (.ok (), { ix with entries := dataset.entries })

def save (ix : ExactIndex) (path : String) (fs : Files) : Except Error Unit × Files :=
  writeFile fs path (EntrySnapshot.render ⟨ix.space.storedName, ix.entries⟩)

/-- Takes in the vectors of an index file in place of those held. -/
def load (m : MetricSpace) (path : String) (fs : Files) (ix : ExactIndex) :
    Except Error Unit × ExactIndex :=
  match readFile fs path EntrySnapshot.ofText? with
  | .error e => (.error e, ix)
  | .ok s =>
    if s.space ≠ m.space.storedName then
      (.error (.index (.otherSpace s.space m.space.storedName)), ix)
    else (.ok (), { ix with entries := s.entries })

/-- Checks the names of search parameters; none of them changes an exact scan. -/
def setParams (params : Params) (ix : ExactIndex) : Except Error Unit × ExactIndex :=
  (params.checkKnown searchNames, ix)

def search (m : MetricSpace) (q : Query) (ix : ExactIndex) : TopK :=
  (TopK.empty q.k).pushAll (ix.entries.map fun e => ⟨e.id, m.dist q.vector e.vector⟩)

end ExactIndex

end Vicinity
