import Vicinity.Manifest
import Vicinity.Text.Calendar

/-!
What the command line prints: a table of neighbours, and the facts of a manifest.
-/

namespace Vicinity

open Number (fixedPlaces integerText)

namespace Report

/-- A text pushed to the right of a column; a longer text is kept whole. -/
def column (width : Nat) (text : String) : String :=
  String.ofList (Text.padLeft width ' ' text.toList)

/-- One line of the table: columns of width 4, 12, 12 and 10 with two blanks between them. -/
def line (rank id distance score : String) : String :=
  column 4 rank ++ "  " ++ column 12 id ++ "  " ++ column 12 distance ++ "  " ++
    column 10 score ++ "\n"

def neighborLine (space : Space) (rank : Nat) (n : Neighbor) : String :=
  line (toString rank) (integerText n.id) (fixedPlaces 6 n.distance) (fixedPlaces 6 (n.score space))

/-- The lines of neighbours, ranked from `rank` up. -/
def neighborLines (space : Space) (rank : Nat) : List Neighbor → List String
  | [] => []
  | n :: rest => neighborLine space rank n :: neighborLines space (rank + 1) rest

def neighbors (space : Space) (found : List Neighbor) : String :=
  if found.isEmpty then "No results\n"
  else line "rank" "id" "distance" "score" ++ String.join (neighborLines space 1 found)

/-- A labelled fact; the values of short labels stand below one another. -/
def fact (label value : String) : String :=
  label ++ ":" ++ String.ofList (List.replicate (max 1 (13 - label.length)) ' ') ++ value ++ "\n"

def optionalFact (label : String) : Option Nat → String
  | some n => fact label (toString n)
  | none => ""

def manifest (m : Manifest) : String :=
  fact "Space type" m.space.name ++ fact "Dimension" (toString m.dimension) ++
    fact "Vectors" (toString m.vectorCount) ++ fact "Backend" m.backend ++
    optionalFact ParamName.efConstruction m.buildParams.efConstruction ++
    optionalFact ParamName.m m.buildParams.m ++ fact "Created" (Text.timestamp m.createdAt)

end Report

end Vicinity
