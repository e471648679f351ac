import Vicinity.Proofs.Graph.LevelSearch
import Vicinity.Proofs.Graph.Select
import Vicinity.Proofs.Graph.Table

/-!
One insertion, as all that it does. A well-formed graph stays well formed, and an invariant that
every insertion keeps holds of every graph that is built.
-/

namespace Vicinity.Graph

/-- What building guarantees of a graph: lists of different links to other nodes, all of which
stand on the level of the list, within the limits of the configuration, and an entry on the
highest level. -/
structure WellFormed (g : Graph) : Prop where
  inRange : ∀ level i, ∀ j ∈ linksOf g.nodes level i, j < g.size
  distinct : ∀ level i, (linksOf g.nodes level i).Nodup
  noLoop : ∀ level i, i ∉ linksOf g.nodes level i
  grounded : ∀ i < g.size, 1 ≤ height g.nodes i
  standing : ∀ level i, ∀ j ∈ linksOf g.nodes level i, level < height g.nodes j
  narrow : ∀ level i, (linksOf g.nodes level i).length ≤ g.config.maxLinks level
  low : ∀ i, height g.nodes i ≤ g.maxLevel + 1
  entryTop : ∀ entry, g.entry = some entry → height g.nodes entry = g.maxLevel + 1
  started : g.entry = none → g.size = 0

namespace WellFormed

variable {g : Graph}

theorem linksInRange (h : g.WellFormed) : LinksInRange g.nodes := fun level a b hlink =>
  h.inRange level a b (linked_iff.mp hlink)

theorem entry_lt (h : g.WellFormed) {entry : Nat} (hentry : g.entry = some entry) :
    entry < g.size := by
  have htop : 0 < height g.nodes entry := by
    have hheight := h.entryTop entry hentry
    omega
  exact height_pos_lt htop

/-- A node that the graph does not have yet is in no list. -/
theorem append_nodup (h : g.WellFormed) (level i : Nat) :
    (linksOf g.nodes level i ++ [g.size]).Nodup := by
  refine List.nodup_append.mpr ⟨h.distinct level i, List.nodup_singleton _, ?_⟩
  intro a ha b hb
  rw [List.mem_singleton.mp hb]
  exact (h.inRange level i a ha).ne

/-- Loading does not refuse what building made. -/
theorem checkIntegrity_eq_ok (h : g.WellFormed) : g.checkIntegrity = .ok () :=
  (checkIntegrity_eq_ok_iff g).mpr ⟨fun _ => h.entry_lt, h.started, h.linksInRange⟩

end WellFormed

theorem empty_wellFormed (config : GraphConfig) : (empty config).WellFormed := by
  refine
    { inRange := ?_, distinct := ?_, noLoop := ?_, grounded := ?_, standing := ?_, narrow := ?_
      low := ?_, entryTop := ?_, started := fun _ => rfl }
  all_goals simp [empty, linksOf, height, size]

section Prune

/-- The candidates of a choice anew: the links that the table has, at their distances from the
base. -/
def rescored (metric : Metric) (nodes : Array Node) (base : Encoded) (links : List Nat) :
    List Scored :=
  links.filterMap fun c => nodes[c]?.map fun n => ⟨metric base n.vector, c⟩

variable {metric : Metric} {nodes : Array Node} {base : Encoded} {m : Nat} {links : List Nat}

theorem rescored_sublist : ((rescored metric nodes base links).map Scored.node).Sublist links := by
  unfold rescored
  induction links with
  | nil => exact List.Sublist.refl _
  | cons c rest ih =>
      cases hc : nodes[c]? with
      | none => simpa [hc] using ih.cons c
      | some n => simpa [hc] using ih.cons_cons c

theorem rescored_nodes (h : ∀ c ∈ links, c < nodes.size) :
    (rescored metric nodes base links).map Scored.node = links := by
  unfold rescored
  induction links with
  | nil => rfl
  | cons c rest ih =>
      have hc := h c List.mem_cons_self
      have ih := ih fun d hd => h d (List.mem_cons_of_mem c hd)
      simpa [Array.getElem?_eq_getElem hc] using ih

theorem rescored_measures {s : Scored} (hs : s ∈ rescored metric nodes base links) :
    s.Measures metric nodes base := by
  obtain ⟨c, -, hc⟩ := List.mem_filterMap.mp hs
  obtain ⟨n, hn, rfl⟩ := Option.map_eq_some_iff.mp hc
  exact ⟨n, hn, rfl⟩

theorem prune_eq_self (h : links.length ≤ m) : prune metric nodes base m links = links :=
  if_pos h

theorem prune_eq_selectLinks (h : ¬ links.length ≤ m) :
    prune metric nodes base m links =
      selectLinks metric nodes (rescored metric nodes base links) m :=
  if_neg h

theorem prune_nodup (h : links.Nodup) : (prune metric nodes base m links).Nodup := by
  by_cases hshort : links.length ≤ m
  · rw [prune_eq_self hshort]
    exact h
  · rw [prune_eq_selectLinks hshort]
    exact selectLinks_nodup metric nodes m (h.sublist rescored_sublist)

theorem prune_subset (h : links.Nodup) : prune metric nodes base m links ⊆ links := by
  by_cases hshort : links.length ≤ m
  · rw [prune_eq_self hshort]
    exact fun _ => id
  · rw [prune_eq_selectLinks hshort]
    intro i hi
    exact rescored_sublist.subset
      (selectLinks_subset metric nodes m (h.sublist rescored_sublist) hi)

theorem prune_length (h : links.Nodup) : (prune metric nodes base m links).length ≤ m := by
  by_cases hshort : links.length ≤ m
  · rw [prune_eq_self hshort]
    exact hshort
  · rw [prune_eq_selectLinks hshort,
      selectLinks_length metric nodes m (h.sublist rescored_sublist)]
    exact Nat.min_le_left _ _

theorem relinked_eq {i : Nat} {n : Node} (hn : nodes[i]? = some n) (newNode : Nat) :
    relinked metric nodes m newNode i links =
      prune metric nodes n.vector m (links ++ [newNode]) := by
  simp [relinked, hn]

end Prune

/-- What one insertion into a graph that has an entry does. `chosen` gives the links of the new node
on each level: the choice among what a search of that level found. A node that is chosen on a
level that it stands on is linked back; its list and the table around it change in nothing else. -/
structure Inserted (metric : Metric) (g : Graph) (e : Entry) (level : Nat)
    (chosen : Nat → List Nat) (g' : Graph) : Prop where
  config : g'.config = g.config
  entries : entriesOf g'.nodes = entriesOf g.nodes ++ [e]
  newHeight : height g'.nodes g.size = level + 1
  oldHeight : ∀ i < g.size, height g'.nodes i = height g.nodes i
  newLinks : ∀ l, linksOf g'.nodes l g.size = chosen l
  oldLinks : ∀ l, ∀ i < g.size, linksOf g'.nodes l i =
    if i ∈ chosen l ∧ l < height g.nodes i then
      relinked metric g'.nodes (g.config.maxLinks l) g.size i (linksOf g.nodes l i)
    else linksOf g.nodes l i
  above : ∀ l, min level g.maxLevel < l → chosen l = []
  searched : ∀ l ≤ min level g.maxLevel, ∃ starts found, starts ≠ [] ∧
    (∀ s ∈ starts, l < height g.nodes s) ∧
    Found metric g.nodes e.vector starts g.config.efConstruction l found ∧
    chosen l = selectLinks metric g.nodes found (g.config.maxLinks l)
  top : (g.maxLevel < level ∧ g'.entry = some g.size ∧ g'.maxLevel = level) ∨
    (level ≤ g.maxLevel ∧ g'.entry = g.entry ∧ g'.maxLevel = g.maxLevel)

/-- The searches for the links of a new node all come to an end, each from nodes that stand on its
level. -/
theorem linkLists_spec (metric : Metric) {g : Graph} (hg : g.WellFormed) (vector : Encoded)
    (entry levels : Nat) {entries : List Nat} (hsome : entries ≠ [])
    (hstanding : ∀ e ∈ entries, levels ≤ height g.nodes e) {marks : Visited}
    (hmarks : marks.Dated) :
    ∃ lists marks', linkLists metric g vector entry levels entries marks = some (lists, marks') ∧
      marks'.Dated ∧ lists.length = levels ∧
      ∀ l < levels, ∃ starts found, starts ≠ [] ∧ (∀ s ∈ starts, l < height g.nodes s) ∧
        Found metric g.nodes vector starts g.config.efConstruction l found ∧
        lists[l]? = some (selectLinks metric g.nodes found (g.config.maxLinks l)) := by
  induction levels generalizing entries marks with
  | zero => exact ⟨[], marks, rfl, hmarks, rfl, fun l hl => absurd hl (Nat.not_lt_zero l)⟩
  | succ level ih =>
      have hentries : ∀ e ∈ entries, level < height g.nodes e := hstanding
      have hlt : ∀ e ∈ entries, e < g.nodes.size := fun e he => height_pos_lt (hentries e he)
      obtain ⟨found, marks₁, hsearch, hmarks₁, hfound⟩ := searchLevel_found metric vector
        g.config.efConstruction level hg.linksInRange hlt hmarks
      have hnonempty := hfound.nonempty hg.linksInRange hlt hsome
      have hnext : nextEntries entry found = found.map Scored.node := by
        simp [nextEntries, hnonempty]
      -- What is reached through links of a level stands on it, like the nodes to start from.
      have hfoundStanding : ∀ e ∈ found.map Scored.node, level < height g.nodes e := by
        intro e he
        obtain ⟨s, hs, rfl⟩ := List.mem_map.mp he
        exact (hfound.reached s hs).closed (P := fun i => level < height g.nodes i) hentries
          fun a b _ hlink => hg.standing level a b (linked_iff.mp hlink)
      obtain ⟨below, marks₂, hbelow, hmarks₂, hlength, hlists⟩ :=
        ih (by simpa using hnonempty) (fun e he => (hfoundStanding e he).le) hmarks₁
      refine ⟨below ++ [selectLinks metric g.nodes found (g.config.maxLinks level)], marks₂, ?_,
        hmarks₂, by simp [hlength], ?_⟩
      · rw [linkLists, hsearch, Option.bind_eq_bind, Option.bind_some]
        dsimp only
        rw [hnext, hbelow]
        rfl
      · intro l hl
        by_cases hlower : l < level
        · obtain ⟨starts, found', hstarts, hstand, hfound', hlist⟩ := hlists l hlower
          refine ⟨starts, found', hstarts, hstand, hfound', ?_⟩
          rw [List.getElem?_append_left (by omega), hlist]
        · have hlast : l = level := by omega
          subst hlast
          refine ⟨entries, found, hsome, hentries, hfound, ?_⟩
          rw [List.getElem?_append_right (by omega), hlength, Nat.sub_self]
          rfl

/-- Levels that a node stands on without links look like levels that it does not reach. -/
theorem linksOn_append_replicate (id : Int) (vector : Encoded) (lists : List (List Nat))
    (count l : Nat) :
    (Node.mk id vector (lists ++ List.replicate count [])).linksOn l = lists[l]?.getD [] := by
  unfold Node.linksOn
  by_cases hl : l < lists.length
  · rw [List.getElem?_append_left hl]
  · rw [List.getElem?_append_right (Nat.le_of_not_lt hl),
      List.getElem?_eq_none (Nat.le_of_not_lt hl), List.getElem?_replicate]
    split <;> rfl

/-- Inserting into a well-formed graph that has an entry always gives a result. -/
theorem insert_inserted (metric : Metric) {g : Graph} (hg : g.WellFormed) (e : Entry) (level : Nat)
    {entry : Nat} (hentry : g.entry = some entry) {marks : Visited} (hmarks : marks.Dated) :
    ∃ g' marks' chosen, insert metric g marks e level = some (g', marks') ∧ marks'.Dated ∧
      Inserted metric g e level chosen g' := by
  have htop := hg.entryTop entry hentry
  -- The descent ends on a node that stands on the highest level shared with the new one.
  obtain ⟨near, marks₁, hdescend, hmarks₁, -, hnear⟩ := descend_stays metric e.vector
    hg.linksInRange (P := fun i => min level g.maxLevel + 1 ≤ height g.nodes i) level
    (g.maxLevel - level) (hg.entry_lt hentry) (by omega) (fun l hl a b _ hlink => by
      have hstanding := hg.standing l a b (linked_iff.mp hlink)
      omega) hmarks
  have hnears : ∀ i ∈ [near], min level g.maxLevel + 1 ≤ height g.nodes i := by simpa using hnear
  obtain ⟨lists, marks₂, hlists, hmarks₂, hlength, hsearched⟩ := linkLists_spec metric hg e.vector
    entry (min level g.maxLevel + 1) (List.cons_ne_nil near []) hnears hmarks₁
  let n : Node := ⟨e.id, e.vector,
    lists ++ List.replicate (level + 1 - (min level g.maxLevel + 1)) []⟩
  have hdistinct : ∀ links ∈ lists, links.Nodup := by
    intro links hlinks
    obtain ⟨l, hl, rfl⟩ := List.mem_iff_getElem.mp hlinks
    obtain ⟨_, found, _, _, hfound, hlist⟩ := hsearched l (by omega)
    rw [List.getElem?_eq_getElem hl] at hlist
    rw [Option.some.inj hlist]
    exact selectLinks_nodup metric g.nodes _ hfound.distinct
  obtain ⟨hsame, hlinked⟩ := linkBackAll_spec metric g.config g.size 0 hdistinct (g.nodes.push n)
  let nodes := linkBackAll metric g.config g.size 0 lists (g.nodes.push n)
  let g' : Graph := if g.maxLevel < level then
    { g with nodes, entry := some g.size, maxLevel := level }
    else { g with nodes, entry := some entry }
  have hnodes : g'.nodes = nodes := by
    unfold g'
    split <;> rfl
  have hself : ∀ l : Nat, g.size ∉ lists[l]?.getD [] := by
    intro l hmem
    cases hlist : lists[l]? with
    | none => simp [hlist] at hmem
    | some links =>
        obtain ⟨hl, -⟩ := List.getElem?_eq_some_iff.mp hlist
        obtain ⟨starts, found, _, hstarts, hfound, hchosen⟩ := hsearched l (by omega)
        rw [hchosen, Option.getD_some] at hmem
        obtain ⟨s, hs, hnode⟩ := List.mem_map.mp
          (selectLinks_subset metric g.nodes _ hfound.distinct hmem)
        have hlt := (hfound.measured s hs).lt
        rw [hnode] at hlt
        exact absurd hlt (lt_irrefl _)
  refine ⟨g', marks₂, fun l => lists[l]?.getD [], ?_, hmarks₂, ?_⟩
  · unfold insert
    rw [hentry]
    simp only [hdescend, hlists, Option.bind_eq_bind, Option.bind_some]
    rfl
  · refine
      { config := ?_, entries := ?_, newHeight := ?_, oldHeight := ?_, newLinks := ?_
        oldLinks := ?_, above := ?_, searched := ?_, top := ?_ }
    · unfold g'
      split <;> rfl
    · rw [hnodes, hsame.entries, entriesOf_push]
    · rw [hnodes, hsame.heights, size, height_push_self]
      simp only [n, List.length_append, hlength, List.length_replicate]
      omega
    · intro i hi
      rw [hnodes, hsame.heights, height_push_of_lt _ _ hi]
    · intro l
      rw [hnodes, hlinked, if_neg (fun h => hself l h.2.1), size, linksOf_push_self,
        linksOn_append_replicate]
    · intro l i hi
      rw [hnodes, hlinked, height_push_of_lt _ _ hi, linksOf_push_of_lt _ _ _ hi,
        relinked_congr hsame.entries]
      simp
    · intro l hl
      rw [List.getElem?_eq_none (by omega)]
      rfl
    · intro l hl
      obtain ⟨starts, found, hstarts, hstanding, hfound, hlist⟩ := hsearched l (by omega)
      refine ⟨starts, found, hstarts, hstanding, hfound, ?_⟩
      rw [hlist, Option.getD_some]
    · by_cases hlevel : g.maxLevel < level
      · exact Or.inl ⟨hlevel, by simp [g', hlevel], by simp [g', hlevel]⟩
      · exact Or.inr ⟨by omega, by simp [g', hlevel, hentry], by simp [g', hlevel]⟩

namespace Inserted

variable {metric : Metric} {g g' : Graph} {e : Entry} {level : Nat} {chosen : Nat → List Nat}

theorem size_eq (h : Inserted metric g e level chosen g') : g'.size = g.size + 1 := by
  have hlength := congrArg List.length h.entries
  simpa [size] using hlength

theorem chosen_nodup (h : Inserted metric g e level chosen g') (l : Nat) : (chosen l).Nodup := by
  by_cases hl : l ≤ min level g.maxLevel
  · obtain ⟨_, found, _, _, hfound, heq⟩ := h.searched l hl
    rw [heq]
    exact selectLinks_nodup metric g.nodes _ hfound.distinct
  · rw [h.above l (by omega)]
    exact List.nodup_nil

theorem chosen_length (h : Inserted metric g e level chosen g') (l : Nat) :
    (chosen l).length ≤ g.config.maxLinks l := by
  by_cases hl : l ≤ min level g.maxLevel
  · obtain ⟨_, found, _, _, hfound, heq⟩ := h.searched l hl
    rw [heq, selectLinks_length metric g.nodes _ hfound.distinct]
    exact Nat.min_le_left _ _
  · rw [h.above l (by omega)]
    exact Nat.zero_le _

/-- The links of a new node lead to nodes of the old graph that stand on the level, as the new one
does. -/
theorem chosen_standing (h : Inserted metric g e level chosen g') (hg : g.WellFormed) {l i : Nat}
    (hi : i ∈ chosen l) : l ≤ level ∧ l < height g.nodes i := by
  by_cases hl : l ≤ min level g.maxLevel
  · obtain ⟨starts, found, _, hstarts, hfound, heq⟩ := h.searched l hl
    rw [heq] at hi
    obtain ⟨s, hs, rfl⟩ := List.mem_map.mp (selectLinks_subset metric g.nodes _ hfound.distinct hi)
    have hstanding := (hfound.reached s hs).closed (P := fun i => l < height g.nodes i) hstarts
      fun a b _ hlink => hg.standing l a b (linked_iff.mp hlink)
    exact ⟨by omega, hstanding⟩
  · rw [h.above l (by omega)] at hi
    exact absurd hi (List.not_mem_nil)

/-- Every list of links after an insertion: that of the new node, one that was given the new node
and cut to its limit, or one that is as before. -/
theorem linksOf_cases (h : Inserted metric g e level chosen g') (hg : g.WellFormed) (l i : Nat) :
    (i = g.size ∧ linksOf g'.nodes l i = chosen l) ∨
    (i ∈ chosen l ∧ i < g.size ∧ ∃ base, linksOf g'.nodes l i =
      prune metric g'.nodes base (g.config.maxLinks l) (linksOf g.nodes l i ++ [g.size])) ∨
    (i ∉ chosen l ∧ i ≠ g.size ∧ linksOf g'.nodes l i = linksOf g.nodes l i) := by
  rcases lt_trichotomy i g.size with hlt | rfl | hgt
  · have hold := h.oldLinks l i hlt
    by_cases hi : i ∈ chosen l
    · have hin : i < g'.nodes.size := by
        have hsize := h.size_eq
        unfold size at hsize hlt
        omega
      rw [if_pos ⟨hi, (h.chosen_standing hg hi).2⟩,
        relinked_eq (Array.getElem?_eq_getElem hin)] at hold
      exact Or.inr (Or.inl ⟨hi, hlt, _, hold⟩)
    · rw [if_neg fun hboth => hi hboth.1] at hold
      exact Or.inr (Or.inr ⟨hi, hlt.ne, hold⟩)
  · exact Or.inl ⟨rfl, h.newLinks l⟩
  · have hnone : ∀ nodes : Array Node, nodes.size ≤ i → linksOf nodes l i = [] := fun nodes hi => by
      simp [linksOf, Array.getElem?_eq_none hi]
    have hsize := h.size_eq
    unfold size at hsize hgt
    have hnotMem : i ∉ chosen l := fun hi => by
      have hlt := height_pos_lt (h.chosen_standing hg hi).2
      omega
    refine Or.inr (Or.inr ⟨hnotMem, by unfold size; omega, ?_⟩)
    rw [hnone _ (by omega), hnone _ (by omega)]

/-- What a list of links holds after an insertion. -/
theorem mem_linksOf (h : Inserted metric g e level chosen g') (hg : g.WellFormed) {l i j : Nat}
    (hj : j ∈ linksOf g'.nodes l i) :
    (i = g.size ∧ j ∈ chosen l) ∨ (i ∈ chosen l ∧ j = g.size) ∨ j ∈ linksOf g.nodes l i := by
  rcases h.linksOf_cases hg l i with ⟨hi, heq⟩ | ⟨hi, hlt, base, heq⟩ | ⟨_, _, heq⟩
  · exact Or.inl ⟨hi, heq ▸ hj⟩
  · rw [heq] at hj
    rcases List.mem_append.mp (prune_subset (hg.append_nodup l i) hj) with hold | hnew
    · exact Or.inr (Or.inr hold)
    · exact Or.inr (Or.inl ⟨hi, List.mem_singleton.mp hnew⟩)
  · exact Or.inr (Or.inr (heq ▸ hj))

/-- An insertion keeps a graph well formed. -/
theorem wellFormed (h : Inserted metric g e level chosen g') (hg : g.WellFormed) :
    g'.WellFormed := by
  have hsize := h.size_eq
  have hheight : ∀ {l i : Nat}, l < height g.nodes i → l < height g'.nodes i := fun hl => by
    rw [h.oldHeight _ (height_pos_lt hl)]
    exact hl
  have hhigh : ∀ i, height g'.nodes i ≤ max level g.maxLevel + 1 := by
    intro i
    rcases lt_trichotomy i g.size with hlt | rfl | hgt
    · have hlow := hg.low i
      rw [h.oldHeight i hlt]
      omega
    · rw [h.newHeight]
      omega
    · have hnone : g'.nodes.size ≤ i := by
        unfold size at hsize hgt
        omega
      simp [height, Array.getElem?_eq_none hnone]
  refine
    { inRange := ?_, distinct := ?_, noLoop := ?_, grounded := ?_, standing := ?_, narrow := ?_
      low := ?_, entryTop := ?_, started := ?_ }
  · intro l i j hj
    rcases h.mem_linksOf hg hj with ⟨_, hj⟩ | ⟨_, rfl⟩ | hj
    · have hlt := height_pos_lt (h.chosen_standing hg hj).2
      unfold size at hsize ⊢
      omega
    · omega
    · have hlt := hg.inRange l i j hj
      omega
  · intro l i
    rcases h.linksOf_cases hg l i with ⟨_, heq⟩ | ⟨_, _, base, heq⟩ | ⟨_, _, heq⟩
    · rw [heq]
      exact h.chosen_nodup l
    · rw [heq]
      exact prune_nodup (hg.append_nodup l i)
    · rw [heq]
      exact hg.distinct l i
  · intro l i hi
    rcases h.mem_linksOf hg hi with ⟨rfl, hi⟩ | ⟨hi, rfl⟩ | hi
    · exact lt_irrefl _ (height_pos_lt (h.chosen_standing hg hi).2)
    · exact lt_irrefl _ (height_pos_lt (h.chosen_standing hg hi).2)
    · exact hg.noLoop l i hi
  · intro i hi
    rcases (show i ≤ g.size by omega).lt_or_eq with hlt | rfl
    · rw [h.oldHeight i hlt]
      exact hg.grounded i hlt
    · rw [h.newHeight]
      omega
  · intro l i j hj
    rcases h.mem_linksOf hg hj with ⟨_, hj⟩ | ⟨hi, rfl⟩ | hj
    · exact hheight (h.chosen_standing hg hj).2
    · rw [h.newHeight]
      have hlevel := (h.chosen_standing hg hi).1
      omega
    · exact hheight (hg.standing l i j hj)
  · intro l i
    rw [h.config]
    rcases h.linksOf_cases hg l i with ⟨_, heq⟩ | ⟨_, _, base, heq⟩ | ⟨_, _, heq⟩
    · rw [heq]
      exact h.chosen_length l
    · rw [heq]
      exact prune_length (hg.append_nodup l i)
    · rw [heq]
      exact hg.narrow l i
  · intro i
    have hi := hhigh i
    rcases h.top with ⟨hlevel, _, hmax⟩ | ⟨hlevel, _, hmax⟩ <;> rw [hmax] <;> omega
  · intro entry hentry
    rcases h.top with ⟨hlevel, hnew, hmax⟩ | ⟨hlevel, hold, hmax⟩
    · rw [hentry] at hnew
      rw [Option.some.inj hnew, hmax, h.newHeight]
    · rw [hentry] at hold
      rw [hmax, h.oldHeight entry (hg.entry_lt hold.symm)]
      exact hg.entryTop entry hold.symm
  · intro hnone
    rcases h.top with ⟨_, hnew, _⟩ | ⟨_, hold, _⟩
    · rw [hnone] at hnew
      exact absurd hnew (by simp)
    · have hzero := hg.started (hold.symm.trans hnone)
      obtain ⟨starts, _, hsome, hstarts, _⟩ := h.searched 0 (Nat.zero_le _)
      obtain ⟨s, hs⟩ := List.exists_mem_of_ne_nil starts hsome
      have hlt := height_pos_lt (hstarts s hs)
      unfold size at hzero
      omega

end Inserted

end Vicinity.Graph
