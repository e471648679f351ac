import Vicinity.Toml.Value

/-!
Tables as they are built up. A table remembers how it came to be, because a table that was written
out once may not be written out again, while one that only leads to others may still be.
-/

namespace Vicinity.Toml

/-- What stands under a key while a document is read. Of an array of tables the last one is the
one that grows, and it stands first here. -/
inductive Node where
  | value (v : Value)
  | table (implied dotted : Bool) (entries : List (String × Node))
  | tables (lastFirst : List (List (String × Node)))

/-- A table while a document is read. It is `implied` if it was not written out itself, and
`dotted` if a key with dots made it. -/
structure Section where
  implied : Bool
  dotted : Bool
  entries : List (String × Node)

namespace Section

/-- A table written out, with nothing in it so far. -/
def fresh : Section := ⟨false, false, []⟩

def toNode (s : Section) : Node := .table s.implied s.dotted s.entries

def get? (s : Section) (key : String) : Option Node := s.entries.lookup key

def put (s : Section) (key : String) (n : Node) : Section :=
  { s with entries := s.entries.filter (fun e => e.1 != key) ++ [(key, n)] }

/-- Changes the table at the end of a path, and makes those that are missing along it. A key with
dots may not lead through a table that was written out. -/
def changeAt (dotted : Bool) (change : Section → Option Section) :
    List String → Section → Option Section
  | [], s => change s
  | key :: rest, s =>
    match s.get? key with
    | none =>
      (changeAt dotted change rest ⟨true, dotted, []⟩).map fun inner => s.put key inner.toNode
    | some (.table implied isDotted entries) =>
      if dotted ∧ ¬ implied then none
      else (changeAt dotted change rest ⟨implied, isDotted, entries⟩).map fun inner =>
        s.put key inner.toNode
    | some (.tables (entries :: earlier)) =>
      (changeAt dotted change rest ⟨false, false, entries⟩).map fun inner =>
        s.put key (.tables (inner.entries :: earlier))
    | some _ => none

/-- Adds a value under a key that is still free. A table that a key with dots leads to has to be
made by such keys. -/
def addValue (path : List String) (key : String) (v : Value) (s : Section) : Option Section :=
  s.changeAt true (fun s =>
    if s.dotted = path.isEmpty then none
    else
      match s.get? key with
      | some _ => none
      | none => some (s.put key (.value v))) path

/-- What a table with the given header holds before its own lines are read. It may have been
implied before, but not written out. -/
def startTable (key : String) (s : Section) : Option Section :=
  match s.get? key with
  | none => some fresh
  | some (.table true false entries) => some ⟨false, false, entries⟩
  | some _ => none

def endTable (key : String) (inner : Section) (s : Section) : Option Section :=
  some (s.put key inner.toNode)

/-- Whether an array of tables can stand under a key. -/
def startItem (key : String) (s : Section) : Option Section :=
  match s.get? key with
  | none => some fresh
  | some (.tables _) => some fresh
  | some _ => none

/-- Adds a table to the array of tables under a key. -/
def endItem (key : String) (inner : Section) (s : Section) : Option Section :=
  match s.get? key with
  | none => some (s.put key (.tables [inner.entries]))
  | some (.tables items) => some (s.put key (.tables (inner.entries :: items)))
  | some _ => none

end Section

mutual

def Node.toValue : Node → Value
  | .value v => v
  | .table _ _ entries => .table (entryValues entries)
  | .tables lastFirst => .array (tableValues lastFirst).reverse

def entryValues : List (String × Node) → List (String × Value)
  | [] => []
  | (key, n) :: rest => (key, n.toValue) :: entryValues rest

def tableValues : List (List (String × Node)) → List Value
  | [] => []
  | entries :: rest => .table (entryValues entries) :: tableValues rest

end

def Section.toEntries (s : Section) : List (String × Value) := entryValues s.entries

end Vicinity.Toml
