import Vicinity.Engine

/-!
The table of loaded indexes. A host knows an index only by the number it was given; numbers start
at one, go up by one, and are never given twice. Each entry remembers the file it was loaded from,
in the one spelling that all paths to that file share. A file may be loaded more than once; which of
its indexes a path leads to is up to the table.
-/

namespace Vicinity.Host

/-- A loaded index and the path of its file. -/
structure HandleEntry (σ : Type) where
  loaded : LoadedIndex σ
  path : String

/-- A choice between the entries whose files are at one place. It is left open which of them is
picked, but not that one of them is. -/
structure PathChoice (σ : Type) where
  pick : List (Nat × HandleEntry σ) → List String → Option (Nat × HandleEntry σ)
  mem_of_pick : ∀ {entries place e}, pick entries place = some e →
    e ∈ entries ∧ Files.names e.2.path = place
  ne_of_pick : ∀ {entries place}, pick entries place = none →
    ∀ e ∈ entries, Files.names e.2.path ≠ place

/-- The choice of the entry that came first. -/
def PathChoice.oldest : PathChoice σ where
  pick entries place := entries.find? fun e => Files.names e.2.path == place
  mem_of_pick h := ⟨List.mem_of_find?_eq_some h, by simpa using List.find?_some h⟩
  ne_of_pick h e he := by simpa using List.find?_eq_none.mp h e he

/-- The loaded indexes by number, oldest first, the next number to give, and the choice between the
indexes from one file. -/
@[ext]
structure HandleTable (σ : Type) where
  next : Nat
  entries : List (Nat × HandleEntry σ)
  choice : PathChoice σ
  positive : 0 < next
  ascending : entries.Pairwise fun e e' => e.1 < e'.1
  given : ∀ e ∈ entries, 0 < e.1 ∧ e.1 < next

namespace HandleTable

def emptyBy (choice : PathChoice σ) : HandleTable σ where
  next := 1
  entries := []
  choice := choice
  positive := Nat.one_pos
  ascending := .nil
  given := by simp

def empty : HandleTable σ := emptyBy .oldest

def insert (t : HandleTable σ) (loaded : LoadedIndex σ) (path : String) :
    Nat × HandleTable σ :=
  (t.next,
    { t with
      next := t.next + 1
      entries := t.entries ++ [(t.next, ⟨loaded, path⟩)]
      positive := Nat.succ_pos t.next
      ascending := by
        refine List.pairwise_append.mpr ⟨t.ascending, List.pairwise_singleton _ _, ?_⟩
        intro e he e' he'
        rw [List.mem_singleton.mp he']
        exact (t.given e he).2
      given := by
        intro e he
        rcases List.mem_append.mp he with hold | hnew
        · exact ⟨(t.given e hold).1, Nat.lt_succ_of_lt (t.given e hold).2⟩
        · rw [List.mem_singleton.mp hnew]
          exact ⟨t.positive, Nat.lt_succ_self t.next⟩ })

def get? (t : HandleTable σ) (handle : Nat) : Option (LoadedIndex σ) :=
  (t.entries.lookup handle).map (·.loaded)

/-- The index with a number, or the error that says there is none. -/
def get (t : HandleTable σ) (handle : Nat) : Except Error (LoadedIndex σ) :=
  match t.get? handle with
  | some loaded => .ok loaded
  | none => .error (.invalidHandle handle)

def erase (t : HandleTable σ) (handle : Nat) : HandleTable σ :=
  { t with
    entries := t.entries.filter fun e => e.1 != handle
    ascending := t.ascending.filter _
    given := fun e he => t.given e (List.mem_filter.mp he).1 }

/-- Takes out the index with a number, which has to be in the table. -/
def remove (t : HandleTable σ) (handle : Nat) : Except Error (HandleTable σ) :=
  match t.get? handle with
  | some _ => .ok (t.erase handle)
  | none => .error (.invalidHandle handle)

/-- An index whose file has a path of the same names, by the choice of the table. -/
def findByPath? (t : HandleTable σ) (path : String) : Option (Nat × LoadedIndex σ) :=
  (t.choice.pick t.entries (Files.names path)).map fun e => (e.1, e.2.loaded)

def size (t : HandleTable σ) : Nat := t.entries.length

end HandleTable

end Vicinity.Host
