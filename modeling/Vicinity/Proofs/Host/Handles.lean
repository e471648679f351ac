import Mathlib.Data.List.Nodup
import Vicinity.Host.Handles

/-!
What the table of loaded indexes holds. It is seen as a list of numbers with their indexes, and
as a list of the places of their files. A number is in the table at most once, so it stands for one
index from one file.
-/

namespace Vicinity.Host.HandleTable

variable {σ : Type} {t : HandleTable σ} {handle handle' : Nat} {loaded loaded' : LoadedIndex σ}
  {path : String} {place place' : List String}

/-- The loaded indexes with their numbers. -/
def live (t : HandleTable σ) : List (Nat × LoadedIndex σ) :=
  t.entries.map fun e => (e.1, e.2.loaded)

/-- Where the files of the loaded indexes are. -/
def places (t : HandleTable σ) : List (List String) :=
  t.entries.map fun e => Files.names e.2.path

/-- Whether a number stands for an index whose file is at a place. -/
def Holds (t : HandleTable σ) (handle : Nat) (loaded : LoadedIndex σ) (place : List String) :
    Prop :=
  ∃ path, (handle, ⟨loaded, path⟩) ∈ t.entries ∧ Files.names path = place

theorem size_eq_length_live (t : HandleTable σ) : t.size = t.live.length :=
  (List.length_map _).symm

theorem size_eq_length_places (t : HandleTable σ) : t.size = t.places.length :=
  (List.length_map _).symm

theorem live_insert (t : HandleTable σ) (loaded : LoadedIndex σ) (path : String) :
    (t.insert loaded path).2.live = t.live ++ [(t.next, loaded)] :=
  List.map_append

theorem places_insert (t : HandleTable σ) (loaded : LoadedIndex σ) (path : String) :
    (t.insert loaded path).2.places = t.places ++ [Files.names path] :=
  List.map_append

theorem live_erase (t : HandleTable σ) (handle : Nat) :
    (t.erase handle).live = t.live.filter fun e => e.1 ≠ handle := by
  rw [live, live, List.filter_map]
  congr 1
  exact List.filter_congr fun e _ => Bool.eq_iff_iff.mpr (by simp)

section Once

/-- A number stands for one entry of the table. -/
theorem entry_unique {e e' : Nat × HandleEntry σ} (he : e ∈ t.entries) (he' : e' ∈ t.entries)
    (hsame : e.1 = e'.1) : e = e' := by
  have hnodup : (t.entries.map Prod.fst).Nodup :=
    List.pairwise_map.mpr (t.ascending.imp fun hlt => Nat.ne_of_lt hlt)
  exact List.inj_on_of_nodup_map hnodup he he' hsame

theorem Holds.unique (h : t.Holds handle loaded place) (h' : t.Holds handle loaded' place') :
    loaded = loaded' ∧ place = place' := by
  obtain ⟨path, hmem, rfl⟩ := h
  obtain ⟨path', hmem', rfl⟩ := h'
  cases entry_unique hmem hmem' rfl
  exact ⟨rfl, rfl⟩

theorem Holds.mem_live (h : t.Holds handle loaded place) : (handle, loaded) ∈ t.live := by
  obtain ⟨path, hmem, -⟩ := h
  exact List.mem_map.mpr ⟨_, hmem, rfl⟩

theorem Holds.mem_places (h : t.Holds handle loaded place) : place ∈ t.places := by
  obtain ⟨path, hmem, rfl⟩ := h
  exact List.mem_map.mpr ⟨_, hmem, rfl⟩

theorem holds_insert (t : HandleTable σ) (loaded : LoadedIndex σ) (path : String) :
    (t.insert loaded path).2.Holds t.next loaded (Files.names path) :=
  ⟨path, List.mem_append_right _ List.mem_cons_self, rfl⟩

end Once

section Lookup

theorem get?_eq_some_iff : t.get? handle = some loaded ↔ (handle, loaded) ∈ t.live := by
  rw [get?, Option.map_eq_some_iff, live, List.mem_map]
  constructor
  · rintro ⟨entry, hlookup, rfl⟩
    obtain ⟨before, after, hsplit, -⟩ := List.lookup_eq_some_iff.mp hlookup
    refine ⟨(handle, entry), ?_, rfl⟩
    rw [hsplit]
    exact List.mem_append_right _ List.mem_cons_self
  · rintro ⟨e, hmem, heq⟩
    cases heq
    refine ⟨e.2, ?_, rfl⟩
    cases hlookup : t.entries.lookup e.1 with
    | none => exact absurd (List.lookup_eq_none_iff.mp hlookup e hmem) (by simp)
    | some entry =>
        obtain ⟨before, after, hsplit, -⟩ := List.lookup_eq_some_iff.mp hlookup
        have hfound : (e.1, entry) ∈ t.entries := by
          rw [hsplit]
          exact List.mem_append_right _ List.mem_cons_self
        rw [← entry_unique hfound hmem rfl]

theorem get?_eq_none_iff : t.get? handle = none ↔ ∀ loaded, (handle, loaded) ∉ t.live := by
  rw [Option.eq_none_iff_forall_ne_some]
  exact forall_congr' fun loaded => not_congr get?_eq_some_iff

theorem get_of_mem_live (h : (handle, loaded) ∈ t.live) : t.get handle = .ok loaded := by
  rw [get, get?_eq_some_iff.mpr h]

theorem get_of_not_live (h : ∀ loaded, (handle, loaded) ∉ t.live) :
    t.get handle = .error (.invalidHandle handle) := by
  rw [get, get?_eq_none_iff.mpr h]

theorem remove_of_mem_live (h : (handle, loaded) ∈ t.live) :
    t.remove handle = .ok (t.erase handle) := by
  rw [remove, get?_eq_some_iff.mpr h]

theorem remove_of_not_live (h : ∀ loaded, (handle, loaded) ∉ t.live) :
    t.remove handle = .error (.invalidHandle handle) := by
  rw [remove, get?_eq_none_iff.mpr h]

theorem findByPath?_eq_none_iff : t.findByPath? path = none ↔ Files.names path ∉ t.places := by
  rw [findByPath?, Option.map_eq_none_iff, places, List.mem_map]
  constructor
  · rintro hnone ⟨e, he, hplace⟩
    exact t.choice.ne_of_pick hnone e he hplace
  · intro hnone
    refine Option.eq_none_iff_forall_ne_some.mpr fun e hpick => ?_
    exact hnone ⟨e, t.choice.mem_of_pick hpick⟩

theorem holds_of_findByPath? (h : t.findByPath? path = some (handle, loaded)) :
    t.Holds handle loaded (Files.names path) := by
  obtain ⟨e, hpick, heq⟩ := Option.map_eq_some_iff.mp h
  cases heq
  obtain ⟨he, hplace⟩ := t.choice.mem_of_pick hpick
  exact ⟨e.2.path, he, hplace⟩

end Lookup

end Vicinity.Host.HandleTable
