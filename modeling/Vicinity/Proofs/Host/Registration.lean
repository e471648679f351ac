import Mathlib.Data.List.Infix
import Vicinity.Host.Operations
import Vicinity.Proofs.Engine
import Vicinity.Proofs.Host.Handles

/-!
What it does to the table that an index is loaded for a host. An index that is loaded stands at the
end of the table under the next number, and all that was in the table before stays as it was; a load
that fails leaves the table alone. The indexes that are opened are written down with their numbers,
so that a run can be held against them.
-/

namespace Vicinity.Host

variable {σ : Type} {b : Backend σ} {s s' s₁ : State σ} {path : String} {request : LoadRequest}
  {more more' : List (Nat × LoadedIndex σ)} {result : Except Error Nat}

/-- The index that a registration loads, with the number that it gives. -/
def opened (b : Backend σ) (path : String) (request : LoadRequest) (s : State σ) :
    List (Nat × LoadedIndex σ) :=
  match Engine.load b path request.space request.params s.world, register b path request s with
  | (.ok loaded, _), (.ok handle, _) => [(handle, loaded)]
  | _, _ => []

/-- Whether a state came from another one by opening indexes, which stand at the end of the table
under the next numbers in their order. -/
structure Grows (s : State σ) (more : List (Nat × LoadedIndex σ)) (s' : State σ) : Prop where
  files : s'.world.files = s.world.files
  kept : s.handles.entries <+: s'.handles.entries
  live : s'.handles.live = s.handles.live ++ more
  next : s'.handles.next = s.handles.next + more.length
  choice : s'.handles.choice = s.handles.choice
  numbered : more.map Prod.fst = List.range' s.handles.next more.length

theorem Grows.of_handles_eq (hfiles : s'.world.files = s.world.files)
    (hhandles : s'.handles = s.handles) : Grows s [] s' where
  files := hfiles
  kept := by rw [hhandles]
  live := by rw [hhandles, List.append_nil]
  next := by rw [hhandles, List.length_nil, Nat.add_zero]
  choice := by rw [hhandles]
  numbered := rfl

theorem Grows.insert {w : World} (hfiles : w.files = s.world.files) (loaded : LoadedIndex σ)
    (path : String) :
    Grows s [(s.handles.next, loaded)] ⟨(s.handles.insert loaded path).2, w⟩ where
  files := hfiles
  kept := List.prefix_append _ _
  live := HandleTable.live_insert _ _ _
  next := rfl
  choice := rfl
  numbered := rfl

theorem Grows.trans (h : Grows s more s₁) (h' : Grows s₁ more' s') :
    Grows s (more ++ more') s' where
  files := h'.files.trans h.files
  kept := h.kept.trans h'.kept
  live := by rw [h'.live, h.live, List.append_assoc]
  next := by rw [h'.next, h.next, List.length_append, Nat.add_assoc]
  choice := h'.choice.trans h.choice
  numbered := by
    rw [List.map_append, h.numbered, h'.numbered, h.next, List.length_append,
      List.range'_append_1]

theorem Grows.size_eq (h : Grows s more s') :
    s'.handles.size = s.handles.size + more.length := by
  rw [HandleTable.size_eq_length_live, h.live, List.length_append,
    ← HandleTable.size_eq_length_live]

/-- The table is as before if nothing was opened, and only then. -/
theorem Grows.handles_eq_iff (h : Grows s more s') : s'.handles = s.handles ↔ more = [] := by
  have hsize := h.size_eq
  constructor
  · intro hsame
    rw [hsame] at hsize
    exact List.eq_nil_of_length_eq_zero (by omega)
  · rintro rfl
    rw [List.length_nil, Nat.add_zero] at hsize
    refine HandleTable.ext ?_ (h.kept.eq_of_length hsize.symm).symm h.choice
    rw [h.next, List.length_nil, Nat.add_zero]

theorem Grows.size_eq_iff (h : Grows s more s') :
    s'.handles.size = s.handles.size ↔ more = [] := by
  rw [h.size_eq, Nat.add_eq_left, List.length_eq_zero_iff]

/-- What a registration can come to. -/
inductive Registered (b : Backend σ) (path : String) (request : LoadRequest) (s : State σ) :
    List (Nat × LoadedIndex σ) → Except Error Nat → State σ → Prop
  | refused {e : Error} {s' : State σ} (files : s'.world.files = s.world.files)
      (handles : s'.handles = s.handles) : Registered b path request s [] (.error e) s'
  | loaded {loaded : LoadedIndex σ} {w : World} (files : w.files = s.world.files)
      (space : loaded.space = request.space)
      (load : Engine.load b path request.space request.params s.world = (.ok loaded, w)) :
      Registered b path request s [(s.handles.next, loaded)] (.ok s.handles.next)
        ⟨(s.handles.insert loaded (s.world.files.normalize path)).2, w⟩

theorem register_spec (h : register b path request s = (result, s')) :
    Registered b path request s (opened b path request s) result s' := by
  have hfiles := Engine.keepsFiles_load b path request.space request.params s.world
  unfold opened
  rw [h]
  unfold register at h
  rcases hload : Engine.load b path request.space request.params s.world with ⟨_ | loaded, w⟩
  · rw [hload] at h hfiles
    cases h
    exact .refused hfiles rfl
  · rw [hload] at h hfiles
    cases h
    dsimp only at hfiles ⊢
    rw [hfiles]
    exact .loaded hfiles (Engine.manifest_of_loaded (Engine.load_spec hload)).1 hload

theorem Registered.grows (h : Registered b path request s more result s') : Grows s more s' := by
  cases h with
  | refused files handles => exact .of_handles_eq files handles
  | loaded files _ _ => exact .insert files _ _

end Vicinity.Host
