import Vicinity.Number.Single
import Vicinity.Text.Blank

/-!
The spaces in which neighbours are sought. A space fixes how two vectors are compared and how a
raw vector is encoded before it is stored.
-/

namespace Vicinity

/-- How the vectors of a space are stored: all components, the indices of the nonzero ones, or one
bit for each component. -/
inductive Encoding where
  | dense
  | sparse
  | bits
  deriving DecidableEq, Repr

/-- A space type. -/
inductive Space where
  | l1
  | l2
  | linf
  | cosine
  | innerProduct
  | sparseJaccard
  | bitJaccard
  deriving DecidableEq, Repr

namespace Space

/-- Every space, in the order in which names are looked up. -/
def all : List Space := [l1, l2, linf, cosine, innerProduct, sparseJaccard, bitJaccard]

def name : Space → String
  | l1 => "l1"
  | l2 => "l2"
  | linf => "linf"
  | cosine => "cosinesimil"
  | innerProduct => "innerproduct"
  | sparseJaccard => "jaccard_sparse"
  | bitJaccard => "bit_jaccard"

/-- The name under which an index file stores a space. Inner products are searched as negated dot
products, so that a smaller distance always means closer, and the file says so. -/
def storedName : Space → String
  | innerProduct => "negdotprod"
  | s => s.name

def encoding : Space → Encoding
  | sparseJaccard => .sparse
  | bitJaccard => .bits
  | _ => .dense

/-- Whether all vectors of an index have one length. -/
def hasFixedDimension (s : Space) : Bool := s.encoding != .sparse

def standard : Space := l2

/-- The space of the given name; blanks around it and the case of letters do not matter. -/
def ofName? (name : String) : Option Space :=
  all.find? fun s => s.name == Text.foldCase (Text.trim name)

/-- A score that grows as the distance shrinks. -/
def score (s : Space) (distance : Single) : Single :=
  match s with
  | l1 | l2 | linf | cosine => 1 / (1 + distance)
  | innerProduct => if 0 ≤ distance then 1 / (1 + distance) else -distance + 1
  | sparseJaccard | bitJaccard => 1 - distance

end Space

end Vicinity
