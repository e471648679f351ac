import Vicinity.Proofs.Graph.Build

/-!
Insertions into a graph that is small for its limits. While a list of links has room for every
other node nothing is ever cut, so links are only added, both ways, and on level zero every node
stays within reach of every other.
-/

namespace Vicinity.Graph

/-- On level zero every node leads to every other. -/
def Connected (nodes : Array Node) : Prop :=
  ∀ i < nodes.size, ∀ j < nodes.size, Relation.ReflTransGen (Linked nodes 0) i j

/-- A wide search of a connected table finds every node. -/
theorem Found.perm_range {metric : Metric} {nodes : Array Node} {query : Encoded}
    {starts : List Nat} {ef : Nat} {found : List Scored}
    (hfound : Found metric nodes query starts ef 0 found) (hrange : LinksInRange nodes)
    (hsome : starts ≠ []) (hstarts : ∀ s ∈ starts, s < nodes.size) (hconnected : Connected nodes)
    (hwide : nodes.size ≤ ef) : (found.map Scored.node).Perm (List.range nodes.size) := by
  obtain ⟨start, hstart⟩ := List.exists_mem_of_ne_nil starts hsome
  have hreach : reachCount nodes 0 starts ≤ nodes.size := reachCount_le hrange hstarts
  refine (List.perm_ext_iff_of_nodup hfound.distinct List.nodup_range).mpr fun i => ?_
  rw [List.mem_range]
  constructor
  · intro hi
    obtain ⟨s, hs, rfl⟩ := List.mem_map.mp hi
    exact (hfound.measured s hs).lt
  · intro hi
    refine hfound.complete hrange hstarts ?_
      ⟨start, hstart, hconnected start (hstarts start hstart) i hi⟩
    unfold beamWidth
    omega

namespace WellFormed

variable {g : Graph}

/-- A list of links names other nodes only. -/
theorem linksOf_length_lt (h : g.WellFormed) (level : Nat) {i : Nat} (hi : i < g.size) :
    (linksOf g.nodes level i).length < g.size := by
  have hdistinct : (i :: linksOf g.nodes level i).Nodup :=
    List.nodup_cons.mpr ⟨h.noLoop level i, h.distinct level i⟩
  have hsub : (i :: linksOf g.nodes level i) ⊆ List.range g.size := by
    intro j hj
    rcases List.mem_cons.mp hj with rfl | hj
    · exact List.mem_range.mpr hi
    · exact List.mem_range.mpr (h.inRange level i j hj)
  have hcount := (List.subperm_of_subset hdistinct hsub).length_le
  rwa [List.length_cons, List.length_range] at hcount

end WellFormed

namespace Inserted

variable {metric : Metric} {g g' : Graph} {e : Entry} {level : Nat} {chosen : Nat → List Nat}

/-- With room for all nodes a list that is given the new node keeps all its links. -/
theorem linksOf_of_room (h : Inserted metric g e level chosen g') (hg : g.WellFormed) {l i : Nat}
    (hroom : g.size ≤ g.config.maxLinks l) (hi : i ∈ chosen l) :
    linksOf g'.nodes l i = linksOf g.nodes l i ++ [g.size] := by
  rcases h.linksOf_cases hg l i with ⟨rfl, _⟩ | ⟨_, hlt, base, heq⟩ | ⟨hnot, _, _⟩
  · exact absurd (height_pos_lt (h.chosen_standing hg hi).2) (lt_irrefl _)
  · have hshort := hg.linksOf_length_lt l hlt
    rw [heq, prune_eq_self]
    rw [List.length_append, List.length_singleton]
    omega
  · exact absurd hi hnot

theorem linked_of_room (h : Inserted metric g e level chosen g') (hg : g.WellFormed) {l : Nat}
    (hroom : g.size ≤ g.config.maxLinks l) {a b : Nat} (hlink : Linked g.nodes l a b) :
    Linked g'.nodes l a b := by
  have ha := linked_lt hlink
  rw [linked_iff] at hlink ⊢
  by_cases hchosen : a ∈ chosen l
  · rw [h.linksOf_of_room hg hroom hchosen]
    exact List.mem_append_left _ hlink
  · rw [h.oldLinks l a ha, if_neg fun hboth => hchosen hboth.1]
    exact hlink

/-- A new node finds something to link to on level zero. -/
theorem chosen_ne_nil (h : Inserted metric g e level chosen g') (hg : g.WellFormed)
    (hroom : 1 ≤ g.config.maxLinks 0) : chosen 0 ≠ [] := by
  obtain ⟨starts, found, hsome, hstarts, hfound, heq⟩ := h.searched 0 (Nat.zero_le _)
  have hnonempty := hfound.nonempty hg.linksInRange (fun s hs => height_pos_lt (hstarts s hs)) hsome
  have hlength := selectLinks_length metric g.nodes (g.config.maxLinks 0) hfound.distinct
  have hpos := List.length_pos_of_ne_nil hnonempty
  rw [← heq] at hlength
  intro hnil
  rw [hnil, List.length_nil] at hlength
  omega

/-- With room for all nodes on level zero an insertion keeps them within reach of each other. -/
theorem connected (h : Inserted metric g e level chosen g') (hg : g.WellFormed)
    (hroom : g.size ≤ g.config.maxLinks 0) (hconnected : Connected g.nodes) :
    Connected g'.nodes := by
  have hgrown : ∀ i < g.size, ∀ j < g.size, Relation.ReflTransGen (Linked g'.nodes 0) i j :=
    fun i hi j hj => Relation.ReflTransGen.mono
      (fun _ _ hlink => h.linked_of_room hg hroom hlink) i j (hconnected i hi j hj)
  have hsome : 1 ≤ g.size := by
    obtain ⟨starts, _, hsome, hstarts, _⟩ := h.searched 0 (Nat.zero_le _)
    obtain ⟨s, hs⟩ := List.exists_mem_of_ne_nil starts hsome
    have hlt := height_pos_lt (hstarts s hs)
    unfold size
    omega
  -- The new node and one that it is linked to lead to each other.
  obtain ⟨c, hc⟩ := List.exists_mem_of_ne_nil _ (h.chosen_ne_nil hg (hsome.trans hroom))
  have hclt := height_pos_lt (h.chosen_standing hg hc).2
  have hout : Linked g'.nodes 0 g.size c := by
    rw [linked_iff, h.newLinks]
    exact hc
  have hback : Linked g'.nodes 0 c g.size := by
    rw [linked_iff, h.linksOf_of_room hg hroom hc]
    exact List.mem_append_right _ (List.mem_singleton.mpr rfl)
  have hsize : g'.nodes.size = g.size + 1 := h.size_eq
  intro i hi j hj
  rw [hsize] at hi hj
  rcases (Nat.lt_succ_iff.mp hi).lt_or_eq with hi | rfl
  · rcases (Nat.lt_succ_iff.mp hj).lt_or_eq with hj | rfl
    · exact hgrown i hi j hj
    · exact (hgrown i hi c hclt).tail hback
  · rcases (Nat.lt_succ_iff.mp hj).lt_or_eq with hj | rfl
    · exact (hgrown c hclt j hj).head hout
    · exact Relation.ReflTransGen.refl

end Inserted

theorem first_connected (g : Graph) (e : Entry) (level : Nat) :
    Connected (first g e level).nodes := by
  intro i hi j hj
  have hzero : ∀ i < (first g e level).nodes.size, i = 0 := fun i hi => by simpa [first] using hi
  rw [hzero i hi, hzero j hj]

theorem Step.connected {metric : Metric} {level : Nat} {e : Entry} {g g' : Graph}
    (h : Step metric level e g g') (hg : g.WellFormed) (hroom : g.size ≤ g.config.maxLinks 0)
    (hconnected : Connected g.nodes) : Connected g'.nodes := by
  cases h with
  | first _ hfirst =>
      rw [hfirst]
      exact first_connected g e level
  | later chosen hinserted => exact hinserted.connected hg hroom hconnected

/-- A graph over no more entries than one node and its links is connected. -/
theorem build_connected (metric : Metric) (levels : Nat → Nat) (config : GraphConfig)
    {entries : List Entry} (hsmall : entries.length ≤ config.bottomLinks + 1) :
    ∃ g, build metric levels config entries = some g ∧ g.WellFormed ∧ g.config = config ∧
      entriesOf g.nodes = entries ∧ Connected g.nodes := by
  obtain ⟨g, hbuild, hg, hconfig, hentries, -, hconnected⟩ := build_induction metric levels config
    entries (P := fun g => g.config = config ∧ Connected g.nodes)
    ⟨rfl, fun i hi => absurd hi (Nat.not_lt_zero i)⟩ (by
      rintro g g' e hg _ hnext ⟨hconfig, hconnected⟩ hstep
      obtain ⟨hlt, -⟩ := List.getElem?_eq_some_iff.mp hnext
      refine ⟨hstep.config.trans hconfig, hstep.connected hg ?_ hconnected⟩
      rw [hconfig, GraphConfig.maxLinks, if_pos rfl]
      omega)
  exact ⟨g, hbuild, hg, hconfig, hentries, hconnected⟩

theorem connected_of_build {metric : Metric} {levels : Nat → Nat} {config : GraphConfig}
    {entries : List Entry} {g : Graph} (hbuild : build metric levels config entries = some g)
    (hsmall : entries.length ≤ config.bottomLinks + 1) : Connected g.nodes := by
  obtain ⟨_, hbuilt, -, -, -, hconnected⟩ := build_connected metric levels config hsmall
  cases Option.some.inj (hbuild.symm.trans hbuilt)
  exact hconnected

end Vicinity.Graph
