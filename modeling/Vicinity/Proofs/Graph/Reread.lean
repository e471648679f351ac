import Vicinity.Proofs.Stored
import Vicinity.Proofs.Graph.Growth

/-!
A graph that was written and read. It has the same nodes, linked in the same way, so whatever the
links of the graph that was written lead to, those of the graph that was read lead to as well.
-/

namespace Vicinity.Graph

/-- One graph is what the other one is read as. -/
structure Reread (g g' : Graph) : Prop where
  config : g'.config = g.config
  entry : g'.entry = g.entry
  maxLevel : g'.maxLevel = g.maxLevel
  nodes : List.Forall₂ (fun n n' => n'.id = n.id ∧ n'.links = n.links ∧
    n.vector.reread = some n'.vector) g.nodes.toList g'.nodes.toList

variable {g g' : Graph}

theorem reread_spec (h : g.reread = some g') : Reread g g' := by
  unfold reread at h
  split at h
  · obtain ⟨nodes, hnodes, rfl⟩ := Option.map_eq_some_iff.mp h
    refine { config := rfl, entry := rfl, maxLevel := rfl, nodes := ?_ }
    exact (Json.mapM_forall₂ hnodes).imp fun _ _ hn => Node.reread_spec hn
  · simp at h

/-- A well-formed graph can be read back if its numbers fit in words and its vectors can. -/
theorem exists_reread (hg : g.WellFormed) (hconfig : g.config.InWords)
    (hsize : g.size ≤ Nat.pow 2 32) (hmax : g.maxLevel ≤ Number.maxWord)
    (hentries : ∀ e ∈ entriesOf g.nodes, ∃ e', e.reread = some e') : ∃ g', g.reread = some g' := by
  have hfits : g.InWords := by
    refine ⟨hconfig, fun e he => ?_, hmax⟩
    have hlt := hg.entry_lt he
    omega
  have hnodes : ∀ n ∈ g.nodes.toList, ∃ n', n.reread = some n' := by
    intro n hn
    obtain ⟨e, he⟩ := hentries ⟨n.id, n.vector⟩ (List.mem_map_of_mem hn)
    obtain ⟨hid, -, hvector⟩ := Entry.reread_spec he
    have hlinks : ∀ links ∈ n.links, ∀ l ∈ links, l ≤ Nat.pow 2 32 - 1 := by
      intro links hmem l hl
      obtain ⟨level, hlevel⟩ := List.mem_iff_getElem?.mp hmem
      obtain ⟨i, hi⟩ := List.mem_iff_getElem?.mp hn
      have hlisted : l ∈ linksOf g.nodes level i := by
        have hnode : g.nodes[i]? = some n := by simpa using hi
        simpa [linksOf, Node.linksOn, hnode, hlevel] using hl
      have hlt := hg.inRange level i l hlisted
      omega
    exact ⟨_, by rw [Node.reread, if_pos ⟨hid, hlinks⟩, hvector, Option.map_some]⟩
  obtain ⟨nodes, hnodes⟩ := Json.exists_mapM hnodes
  exact ⟨{ g with nodes := nodes.toArray }, by rw [reread, if_pos hfits, hnodes, Option.map_some]⟩

namespace Reread

theorem size_eq (h : Reread g g') : g'.size = g.size := by
  have hlength := h.nodes.length_eq
  simpa [size] using hlength.symm

/-- What does not depend on vectors is the same for every node. -/
theorem map_eq {α : Type} (h : Reread g g') (f : Int → List (List Nat) → α) :
    (g'.nodes.toList.map fun n => f n.id n.links) = g.nodes.toList.map fun n => f n.id n.links := by
  have hnodes := h.nodes
  generalize g.nodes.toList = nodes, g'.nodes.toList = nodes' at hnodes
  induction hnodes with
  | nil => rfl
  | cons hn _ ih =>
      obtain ⟨hid, hlinks, -⟩ := hn
      rw [List.map_cons, List.map_cons, hid, hlinks, ih]

theorem ids (h : Reread g g') :
    (entriesOf g'.nodes).map Entry.id = (entriesOf g.nodes).map Entry.id := by
  simpa [entriesOf, Function.comp_def] using h.map_eq fun id _ => id

theorem linksOf_eq (h : Reread g g') (level i : Nat) :
    linksOf g'.nodes level i = linksOf g.nodes level i := by
  have hlists := congrArg (fun lists => lists[i]?) (h.map_eq fun _ links => links[level]?.getD [])
  simp only [List.getElem?_map, Array.getElem?_toList] at hlists
  unfold linksOf Node.linksOn
  rw [hlists]

theorem linked_iff (h : Reread g g') {level a b : Nat} :
    Linked g'.nodes level a b ↔ Linked g.nodes level a b := by
  rw [Graph.linked_iff, Graph.linked_iff, h.linksOf_eq]

theorem connected (h : Reread g g') (hconnected : Connected g.nodes) : Connected g'.nodes := by
  have hlinked : Linked g'.nodes 0 = Linked g.nodes 0 :=
    funext fun a => funext fun b => propext h.linked_iff
  have hsize : g'.nodes.size = g.nodes.size := h.size_eq
  unfold Connected
  rw [hlinked, hsize]
  exact hconnected

theorem checkIntegrity_eq_ok (h : Reread g g') (hchecked : g.checkIntegrity = .ok ()) :
    g'.checkIntegrity = .ok () := by
  obtain ⟨hentry, hnone, hrange⟩ := (checkIntegrity_eq_ok_iff g).mp hchecked
  have hsize : g'.nodes.size = g.nodes.size := h.size_eq
  rw [checkIntegrity_eq_ok_iff, h.entry, h.size_eq]
  refine ⟨hentry, hnone, fun level a b hlink => ?_⟩
  rw [hsize]
  exact hrange level a b (h.linked_iff.mp hlink)

/-- The vectors of a graph are read one by one. -/
theorem vectors (h : Reread g g') :
    List.Forall₂ (fun e e' => e.vector.reread = some e'.vector) (entriesOf g.nodes)
      (entriesOf g'.nodes) := by
  unfold entriesOf
  rw [List.forall₂_map_left_iff, List.forall₂_map_right_iff]
  exact h.nodes.imp fun _ _ hn => hn.2.2

/-- Where every vector comes back as it was, so does the graph. -/
theorem eq_of_vectors (h : Reread g g')
    (hvectors : ∀ e ∈ entriesOf g.nodes, e.vector.reread = some e.vector) : g' = g := by
  have hnodes : g'.nodes.toList = g.nodes.toList := by
    have hsame : ∀ n ∈ g.nodes.toList, n.vector.reread = some n.vector :=
      fun n hn => hvectors ⟨n.id, n.vector⟩ (List.mem_map_of_mem hn)
    have hread := h.nodes
    clear h hvectors
    generalize g.nodes.toList = nodes, g'.nodes.toList = nodes' at hread hsame
    induction hread with
    | nil => rfl
    | @cons n n' rest rest' hn _ ih =>
        obtain ⟨hid, hlinks, hvector⟩ := hn
        rw [hsame n List.mem_cons_self] at hvector
        have hn : n' = n := by
          cases n
          cases n'
          simp_all
        rw [hn, ih fun m hm => hsame m (List.mem_cons_of_mem n hm)]
  have hconfig := h.config
  have hentry := h.entry
  have hmax := h.maxLevel
  cases g
  cases g'
  simp_all [Array.toList_inj]

end Reread

/-- A graph that was built over entries that can be read back can be read back itself. -/
theorem exists_reread_of_build {metric : Metric} {levels : Nat → Nat} {config : GraphConfig}
    {entries : List Entry} (hbuild : build metric levels config entries = some g)
    (hconfig : config.InWords) (hmany : entries.length ≤ Nat.pow 2 32)
    (hlevels : ∀ i, levels i ≤ Number.maxWord)
    (hentries : ∀ e ∈ entries, ∃ e', e.reread = some e') :
    ∃ g', g.reread = some g' ∧ g'.checkIntegrity = .ok () := by
  obtain ⟨hg, hasked, hstored⟩ := wellFormed_of_build hbuild
  have hlow := maxLevel_le_of_build hbuild hlevels
  have hsize : g.size ≤ Nat.pow 2 32 := by
    rw [size, ← entriesOf_length, hstored]
    exact hmany
  obtain ⟨g', hreread⟩ := exists_reread hg (by rw [hasked]; exact hconfig) hsize hlow
    (by rw [hstored]; exact hentries)
  exact ⟨g', hreread, (reread_spec hreread).checkIntegrity_eq_ok hg.checkIntegrity_eq_ok⟩

end Vicinity.Graph
