import Vicinity.Proofs.Graph.Findable

/-!
How vectors are crowded out. Where more vectors stand close together than a list of links can hold,
their lists are full of each other and stay so, and nothing leads from them to a vector that comes
later. Later vectors that are nearer to the crowd than to each other link to nothing but the crowd,
so a search comes to the crowd and at most one vector outside it.
-/

namespace Vicinity.Graph

/-- Entries that stand close together, and others that come later: each farther from the crowd than
the crowd is wide, and farther from those others that came before it. -/
structure Crowd (metric : Metric) (crowd others : List Entry) : Prop where
  close : ∀ a ∈ crowd, ∀ b ∈ crowd, ∀ c ∈ crowd,
    metric a.vector b.vector ≤ metric b.vector c.vector
  apart : ∀ a ∈ crowd, ∀ b ∈ crowd, ∀ x ∈ others,
    (metric a.vector b.vector).strictKey < (metric a.vector x.vector).strictKey
  beyond : others.Pairwise fun y x => ∀ a ∈ crowd,
    (metric x.vector a.vector).strictKey < (metric x.vector y.vector).strictKey ∧
      ¬ metric x.vector y.vector ≤ metric y.vector a.vector

/-- What a crowd of `count` nodes makes of the links on level zero: those of the crowd lead to all
of it and nowhere else, and others lead to the crowd. -/
structure Crowded (count : Nat) (g : Graph) : Prop where
  inside : ∀ i < min g.size count, (linksOf g.nodes 0 i).length + 1 = min g.size count ∧
    ∀ j ∈ linksOf g.nodes 0 i, j < count
  outside : ∀ i, count ≤ i → i < g.size → linksOf g.nodes 0 i ≠ [] ∧
    ∀ j ∈ linksOf g.nodes 0 i, j < count

namespace Crowded

variable {count : Nat} {g : Graph}

/-- Within the crowd every node is linked to every other. -/
theorem linked (h : Crowded count g) (hg : g.WellFormed) {i j : Nat} (hi : i < min g.size count)
    (hj : j < min g.size count) (hne : j ≠ i) : Linked g.nodes 0 i j := by
  obtain ⟨hlength, hinside⟩ := h.inside i hi
  -- A missing one would leave too few nodes of the crowd for a list that long.
  by_contra hmissing
  rw [linked_iff] at hmissing
  have hdistinct : (i :: j :: linksOf g.nodes 0 i).Nodup := by
    refine List.nodup_cons.mpr ⟨?_, List.nodup_cons.mpr ⟨hmissing, hg.distinct 0 i⟩⟩
    intro hmem
    rcases List.mem_cons.mp hmem with hij | hmem
    · exact hne hij.symm
    · exact hg.noLoop 0 i hmem
  have hsub : (i :: j :: linksOf g.nodes 0 i) ⊆ List.range (min g.size count) := by
    intro k hk
    rw [List.mem_range]
    rcases List.mem_cons.mp hk with rfl | hk
    · exact hi
    · rcases List.mem_cons.mp hk with rfl | hk
      · exact hj
      · have hlt := hg.inRange 0 i k hk
        have hcrowd := hinside k hk
        omega
  have hcount := (List.subperm_of_subset hdistinct hsub).length_le
  rw [List.length_cons, List.length_cons, List.length_range] at hcount
  omega

/-- From every node the whole crowd can be reached. -/
theorem reachable (h : Crowded count g) (hg : g.WellFormed) {i j : Nat} (hi : i < g.size)
    (hj : j < min g.size count) : Relation.ReflTransGen (Linked g.nodes 0) i j := by
  have hwithin : ∀ k < min g.size count, Relation.ReflTransGen (Linked g.nodes 0) k j := by
    intro k hk
    by_cases hkj : j = k
    · rw [hkj]
    · exact Relation.ReflTransGen.single (h.linked hg hk hj hkj)
  by_cases hcrowd : i < count
  · exact hwithin i (by omega)
  · obtain ⟨hsome, hinside⟩ := h.outside i (Nat.le_of_not_lt hcrowd) hi
    obtain ⟨k, hk⟩ := List.exists_mem_of_ne_nil _ hsome
    have hlt := hg.inRange 0 i k hk
    have hkcrowd := hinside k hk
    exact (hwithin k (by omega)).head (linked_iff.mpr hk)

/-- A search comes to the crowd and at most one node outside it. -/
theorem reachCount_le (h : Crowded count g) (last : Nat) :
    reachCount g.nodes 0 [last] ≤ count + 1 := by
  have hcount : reachCount g.nodes 0 [last] ≤ (last :: List.range count).length := by
    apply reachCount_le_length
    intro i hi
    refine hi.closed (P := fun i => i ∈ last :: List.range count) (by simp) ?_
    intro a b _ hlink
    have hlt := linked_lt hlink
    rw [linked_iff] at hlink
    refine List.mem_cons_of_mem last (List.mem_range.mpr ?_)
    by_cases ha : a < count
    · exact (h.inside a (by unfold size; omega)).2 b hlink
    · exact (h.outside a (Nat.le_of_not_lt ha) hlt).2 b hlink
  rwa [List.length_cons, List.length_range] at hcount

theorem findable_le (h : Crowded count g) (metric : Metric) (query : Encoded) :
    g.findable metric query ≤ count + 1 := by
  unfold findable
  cases g.entry with
  | none => exact Nat.zero_le _
  | some entry =>
      dsimp only
      cases descend metric g.nodes query 0 g.maxLevel entry Visited.empty with
      | none => exact Nat.zero_le _
      | some ended => exact h.reachCount_le ended.1

end Crowded

section Entries

variable {metric : Metric} {query : Encoded} {all crowd others : List Entry} {nodes : Array Node}

theorem exists_node (hentries : entriesOf nodes = all.take nodes.size) {i : Nat}
    (hi : i < nodes.size) :
    ∃ n a, all[i]? = some a ∧ nodes[i]? = some n ∧ n.vector = a.vector := by
  have hentry := entriesOf_getElem? nodes i
  rw [hentries, List.getElem?_take_of_lt hi, Array.getElem?_eq_getElem hi] at hentry
  exact ⟨nodes[i], _, hentry, Array.getElem?_eq_getElem hi, rfl⟩

/-- A scored node stands for the entry at its place. -/
theorem exists_entry (hentries : entriesOf nodes = all.take nodes.size) {s : Scored}
    (hs : s.Measures metric nodes query) :
    ∃ a, all[s.node]? = some a ∧ nodes[s.node]?.map Node.vector = some a.vector ∧
      s.distance = metric query a.vector := by
  obtain ⟨n, a, ha, hn, hvector⟩ := exists_node hentries hs.lt
  obtain ⟨n', hn', hdistance⟩ := hs
  rw [hn] at hn'
  cases Option.some.inj hn'
  exact ⟨a, ha, by rw [hn, Option.map_some, hvector], by rw [hdistance, hvector]⟩

theorem between_eq {i j : Nat} {v w : Encoded}
    (hi : nodes[i]?.map Node.vector = some v) (hj : nodes[j]?.map Node.vector = some w) :
    between metric nodes i j = metric v w := by
  obtain ⟨a, ha, rfl⟩ := Option.map_eq_some_iff.mp hi
  obtain ⟨b, hb, rfl⟩ := Option.map_eq_some_iff.mp hj
  exact between_of_nodes metric ha hb

theorem mem_crowd {i : Nat} {a : Entry} (ha : (crowd ++ others)[i]? = some a)
    (hi : i < crowd.length) : a ∈ crowd := by
  rw [List.getElem?_append_left hi] at ha
  exact List.mem_of_getElem? ha

theorem mem_others {i : Nat} {x : Entry} (hx : (crowd ++ others)[i]? = some x)
    (hi : crowd.length ≤ i) : x ∈ others := by
  rw [List.getElem?_append_right hi] at hx
  exact List.mem_of_getElem? hx

theorem Crowd.beyond_of_lt (h : Crowd metric crowd others) {i j : Nat} {x y : Entry}
    (hy : (crowd ++ others)[i]? = some y) (hx : (crowd ++ others)[j]? = some x)
    (hi : crowd.length ≤ i) (hij : i < j) {a : Entry} (ha : a ∈ crowd) :
    (metric x.vector a.vector).strictKey < (metric x.vector y.vector).strictKey ∧
      ¬ metric x.vector y.vector ≤ metric y.vector a.vector := by
  rw [List.getElem?_append_right hi] at hy
  rw [List.getElem?_append_right (hi.trans hij.le)] at hx
  obtain ⟨hilt, rfl⟩ := List.getElem?_eq_some_iff.mp hy
  obtain ⟨hjlt, rfl⟩ := List.getElem?_eq_some_iff.mp hx
  exact List.pairwise_iff_getElem.mp h.beyond _ _ hilt hjlt (by omega) a ha

end Entries

section Insertion

variable {metric : Metric} {crowd others : List Entry} {g g' : Graph} {e : Entry} {level : Nat}
  {chosen : Nat → List Nat}

theorem Inserted.entries_take {all : List Entry} (hinserted : Inserted metric g e level chosen g')
    (hentries : entriesOf g.nodes = all.take g.size) (hnext : all[g.size]? = some e) :
    entriesOf g'.nodes = all.take (g.size + 1) := by
  rw [hinserted.entries, hentries, List.take_add_one, hnext]
  rfl

/-- A search for the links of a new node finds the whole crowd. -/
theorem found_crowd (h : Crowded crowd.length g) (hg : g.WellFormed) {query : Encoded}
    {starts : List Nat} {ef : Nat} {found : List Scored}
    (hfound : Found metric g.nodes query starts ef 0 found) (hsome : starts ≠ [])
    (hstarts : ∀ s ∈ starts, s < g.size) (hwide : g.size ≤ ef) {j : Nat}
    (hj : j < min g.size crowd.length) : j ∈ found.map Scored.node := by
  obtain ⟨start, hstart⟩ := List.exists_mem_of_ne_nil starts hsome
  have hreach : reachCount g.nodes 0 starts ≤ g.nodes.size :=
    reachCount_le hg.linksInRange hstarts
  refine hfound.complete hg.linksInRange hstarts ?_
    ⟨start, hstart, h.reachable hg (hstarts start hstart) hj⟩
  unfold beamWidth
  unfold size at hwide
  omega

/-- While the crowd grows a new node is linked to all before it. -/
theorem Inserted.chosen_early (hinserted : Inserted metric g e level chosen g')
    (h : Crowded crowd.length g) (hg : g.WellFormed) (hwide : g.size ≤ g.config.efConstruction)
    (hroom : crowd.length = g.config.maxLinks 0 + 1) (hearly : g.size < crowd.length) :
    (chosen 0).length = g.size ∧ ∀ j < g.size, j ∈ chosen 0 := by
  have hin : chosen 0 ⊆ List.range g.size := fun i hi =>
    List.mem_range.mpr (height_pos_lt (hinserted.chosen_standing hg hi).2)
  have hsub := List.subperm_of_subset (hinserted.chosen_nodup 0) hin
  obtain ⟨starts, found, hsome, hstarts, hfound, heq⟩ := hinserted.searched 0 (Nat.zero_le _)
  have hall : (List.range g.size).Subperm (found.map Scored.node) :=
    List.subperm_of_subset List.nodup_range fun j hj =>
      found_crowd h hg hfound hsome (fun s hs => height_pos_lt (hstarts s hs)) hwide (by
        rw [List.mem_range] at hj
        omega)
  have hmany := hall.length_le
  have hlength := selectLinks_length metric g.nodes (g.config.maxLinks 0) hfound.distinct
  rw [← heq] at hlength
  rw [List.length_map, List.length_range] at hmany
  have hfew := hsub.length_le
  rw [List.length_range] at hfew
  refine ⟨by omega, fun j hj => ?_⟩
  refine (hsub.perm_of_length_le ?_).mem_iff.mpr (List.mem_range.mpr hj)
  rw [List.length_range]
  omega

/-- A node that comes after the crowd is linked to nothing but the crowd. -/
theorem Inserted.chosen_late (hinserted : Inserted metric g e level chosen g')
    (h : Crowded crowd.length g) (hg : g.WellFormed) (hwide : g.size ≤ g.config.efConstruction)
    (hroom : crowd.length = g.config.maxLinks 0 + 1) (hlate : crowd.length ≤ g.size)
    (hcrowd : Crowd metric crowd others)
    (hentries : entriesOf g.nodes = (crowd ++ others).take g.size)
    (hnext : (crowd ++ others)[g.size]? = some e) {i : Nat} (hi : i ∈ chosen 0) :
    i < crowd.length := by
  obtain ⟨starts, found, hsome, hstarts, hfound, heq⟩ := hinserted.searched 0 (Nat.zero_le _)
  rw [heq] at hi
  have hbeyond : ∀ s ∈ found, s.node < crowd.length → ∀ t ∈ found, ¬ t.node < crowd.length →
      s.distance.strictKey < t.distance.strictKey ∧
        ¬ t.distance ≤ between metric g.nodes t.node s.node := by
    intro s hs hnear t ht hfar
    obtain ⟨a, ha, hav, hsd⟩ := exists_entry hentries (hfound.measured s hs)
    obtain ⟨y, hy, hyv, htd⟩ := exists_entry hentries (hfound.measured t ht)
    have hapart := hcrowd.beyond_of_lt hy hnext (Nat.le_of_not_lt hfar)
      (hfound.measured t ht).lt (mem_crowd ha hnear)
    rw [hsd, htd, between_eq hyv hav]
    exact hapart
  have hpicked : ∃ s ∈ found, decide (s.node < crowd.length) = true ∧ s.node = i := by
    refine selectLinks_near _ hfound.distinct ?_ ?_ (Or.inr ?_) hi
    · intro s hs t ht hnear hfar
      exact (hbeyond s hs (of_decide_eq_true hnear) t ht (of_decide_eq_false hfar)).1
    · have hall : (List.range crowd.length).Subperm
          ((found.filter fun s => decide (s.node < crowd.length)).map Scored.node) :=
        List.subperm_of_subset List.nodup_range fun j hj => by
          rw [List.mem_range] at hj
          obtain ⟨s, hs, rfl⟩ := List.mem_map.mp (found_crowd h hg hfound hsome
            (fun s hs => height_pos_lt (hstarts s hs)) hwide (j := j) (by omega))
          exact List.mem_map_of_mem (List.mem_filter.mpr ⟨hs, decide_eq_true hj⟩)
      have hmany := hall.length_le
      rw [List.length_map, List.length_range] at hmany
      omega
    · intro t ht hfar s hs hnear
      exact (hbeyond s hs (of_decide_eq_true hnear) t ht (of_decide_eq_false hfar)).2
  obtain ⟨s, -, hnear, rfl⟩ := hpicked
  exact of_decide_eq_true hnear

/-- A full list of the crowd keeps to the crowd when a later node is linked to its own. -/
theorem prune_crowd {nodes : Array Node} {a : Entry} (ha : a ∈ crowd)
    (hcrowd : Crowd metric crowd others) {count : Nat} (hsize : nodes.size = count + 1)
    (hentries : entriesOf nodes = (crowd ++ others).take (count + 1))
    (hlate : crowd.length ≤ count) {links : List Nat} (hdistinct : links.Nodup)
    (hinside : ∀ j ∈ links, j < crowd.length) :
    (prune metric nodes a.vector links.length (links ++ [count])).length = links.length ∧
      ∀ j ∈ prune metric nodes a.vector links.length (links ++ [count]), j < crowd.length := by
  have hlonger : ¬ (links ++ [count]).length ≤ links.length := by
    rw [List.length_append, List.length_singleton]
    omega
  have hrange : ∀ c ∈ links ++ [count], c < nodes.size := by
    intro c hc
    rcases List.mem_append.mp hc with hc | hc
    · have hlt := hinside c hc
      omega
    · rw [List.mem_singleton.mp hc]
      omega
  have hnodes : (rescored metric nodes a.vector (links ++ [count])).map Scored.node =
      links ++ [count] := rescored_nodes hrange
  have hdifferent : (links ++ [count]).Nodup := by
    refine List.nodup_append.mpr ⟨hdistinct, List.nodup_singleton _, ?_⟩
    intro i hi j hj
    have hlt := hinside i hi
    rw [List.mem_singleton.mp hj]
    omega
  have hentry : ∀ s ∈ rescored metric nodes a.vector (links ++ [count]),
      ∃ b, (crowd ++ others)[s.node]? = some b ∧ nodes[s.node]?.map Node.vector = some b.vector ∧
        s.distance = metric a.vector b.vector :=
    fun s hs => exists_entry (by rw [hsize]; exact hentries) (rescored_measures hs)
  rw [prune_eq_selectLinks hlonger]
  constructor
  · rw [selectLinks_length _ _ _ (by rw [hnodes]; exact hdifferent)]
    have hlength := congrArg List.length hnodes
    rw [List.length_map, List.length_append, List.length_singleton] at hlength
    omega
  · intro j hj
    have hpicked : ∃ s ∈ rescored metric nodes a.vector (links ++ [count]),
        decide (s.node < crowd.length) = true ∧ s.node = j := by
      refine selectLinks_near _ (by rw [hnodes]; exact hdifferent) ?_ ?_ (Or.inl ?_) hj
      · intro s hs t ht hnear hfar
        obtain ⟨b, hb, -, hsd⟩ := hentry s hs
        obtain ⟨x, hx, -, htd⟩ := hentry t ht
        rw [hsd, htd]
        exact hcrowd.apart a ha b (mem_crowd hb (of_decide_eq_true hnear)) x
          (mem_others hx (Nat.le_of_not_lt (of_decide_eq_false hfar)))
      · have hall : links.Subperm (((rescored metric nodes a.vector (links ++ [count])).filter
            fun s => decide (s.node < crowd.length)).map Scored.node) :=
          List.subperm_of_subset hdistinct fun i hi => by
            have hmem :
                i ∈ (rescored metric nodes a.vector (links ++ [count])).map Scored.node := by
              rw [hnodes]
              exact List.mem_append_left _ hi
            obtain ⟨s, hs, rfl⟩ := List.mem_map.mp hmem
            exact List.mem_map_of_mem (List.mem_filter.mpr ⟨hs, decide_eq_true (hinside _ hi)⟩)
        have hmany := hall.length_le
        rwa [List.length_map] at hmany
      · intro s hs hnear t ht hnear'
        obtain ⟨b, hb, hbv, hsd⟩ := hentry s hs
        obtain ⟨c, hc, hcv, -⟩ := hentry t ht
        rw [hsd, between_eq hbv hcv]
        exact hcrowd.close a ha b (mem_crowd hb (of_decide_eq_true hnear)) c
          (mem_crowd hc (of_decide_eq_true hnear'))
    obtain ⟨s, -, hnear, rfl⟩ := hpicked
    exact of_decide_eq_true hnear

/-- An insertion keeps what the crowd makes of the links. -/
theorem Step.crowded (hstep : Step metric level e g g') (h : Crowded crowd.length g)
    (hg : g.WellFormed) (hcrowd : Crowd metric crowd others)
    (hroom : crowd.length = g.config.maxLinks 0 + 1) (hlinks : 1 ≤ g.config.maxLinks 0)
    (hwide : g.size ≤ g.config.efConstruction)
    (hentries : entriesOf g.nodes = (crowd ++ others).take g.size)
    (hnext : (crowd ++ others)[g.size]? = some e) : Crowded crowd.length g' := by
  cases hstep with
  | first hentry hfirst =>
      have hsize : g'.size = 1 := by rw [hfirst]; rfl
      rw [hfirst] at hsize ⊢
      refine { inside := fun i hi => ?_, outside := fun i hi hlt => by omega }
      rw [linksOf_first, hsize]
      exact ⟨by rw [List.length_nil]; omega, fun j hj => absurd hj List.not_mem_nil⟩
  | later chosen hinserted =>
      have hsize := hinserted.size_eq
      by_cases hearly : g.size < crowd.length
      -- The crowd still grows: the new node and all before it are linked to each other.
      · obtain ⟨hlength, hall⟩ := hinserted.chosen_early h hg hwide hroom hearly
        refine { inside := fun i hi => ?_, outside := fun i hi hlt => by omega }
        rcases (show i ≤ g.size by omega).lt_or_eq with hlt | rfl
        · obtain ⟨hold, hinside⟩ := h.inside i (by omega)
          rw [hinserted.linksOf_of_room hg (by omega) (hall i hlt)]
          refine ⟨by rw [List.length_append, List.length_singleton]; omega, fun j hj => ?_⟩
          rcases List.mem_append.mp hj with hj | hj
          · exact hinside j hj
          · rw [List.mem_singleton.mp hj]
            exact hearly
        · rw [hinserted.newLinks]
          refine ⟨by omega, fun j hj => ?_⟩
          exact (height_pos_lt (hinserted.chosen_standing hg hj).2).trans hearly
      -- The crowd is complete: its lists are full and are pruned to what they were.
      · have hlate := Nat.le_of_not_lt hearly
        have hchosen : ∀ j ∈ chosen 0, j < crowd.length := fun j hj =>
          hinserted.chosen_late h hg hwide hroom hlate hcrowd hentries hnext hj
        refine { inside := fun i hi => ?_, outside := fun i hi hlt => ?_ }
        · obtain ⟨hold, hinside⟩ := h.inside i (by omega)
          rw [hinserted.oldLinks 0 i (by omega)]
          split
          · have hfull : g.config.maxLinks 0 = (linksOf g.nodes 0 i).length := by omega
            have hdone := hinserted.entries_take hentries hnext
            obtain ⟨n, a, ha, hn, hvector⟩ := exists_node
              (by rw [hdone, show g'.nodes.size = g.size + 1 from hsize])
              (show i < g'.nodes.size from hi.trans_le (Nat.min_le_left _ _))
            obtain ⟨hkept, hcrowded⟩ := prune_crowd (mem_crowd ha (by omega)) hcrowd hsize hdone
              hlate (hg.distinct 0 i) hinside
            rw [relinked_eq hn, hvector, hfull]
            exact ⟨by omega, hcrowded⟩
          · exact ⟨by omega, hinside⟩
        · rcases (show i ≤ g.size by omega).lt_or_eq with hlt | rfl
          · rw [hinserted.oldLinks 0 i hlt,
              if_neg fun hboth => absurd (hchosen i hboth.1) (by omega)]
            exact h.outside i hi hlt
          · rw [hinserted.newLinks]
            exact ⟨hinserted.chosen_ne_nil hg hlinks, hchosen⟩

/-- A graph over a crowd and others that come later. -/
theorem crowded_of_build {levels : Nat → Nat} {config : GraphConfig}
    (hbuild : build metric levels config (crowd ++ others) = some g)
    (hcrowd : Crowd metric crowd others) (hroom : crowd.length = config.bottomLinks + 1)
    (hlinks : 1 ≤ config.bottomLinks)
    (hwide : (crowd ++ others).length ≤ config.efConstruction) : Crowded crowd.length g := by
  obtain ⟨_, hbuilt, -, -, -, -, hg⟩ := build_induction metric levels config (crowd ++ others)
    (P := fun g => g.config = config ∧ Crowded crowd.length g)
    ⟨rfl, { inside := fun i hi => absurd hi (by simp [empty, size])
            outside := fun i _ hi => absurd hi (Nat.not_lt_zero i) }⟩ (by
      rintro g g' e hg hentries hnext ⟨hconfig, h⟩ hstep
      obtain ⟨hlt, -⟩ := List.getElem?_eq_some_iff.mp hnext
      have hmax : g.config.maxLinks 0 = config.bottomLinks := by
        rw [hconfig, GraphConfig.maxLinks, if_pos rfl]
      exact ⟨hstep.config.trans hconfig, hstep.crowded h hg hcrowd (by omega) (by omega)
        (by rw [hconfig]; omega) hentries hnext⟩)
  cases Option.some.inj (hbuild.symm.trans hbuilt)
  exact hg

end Insertion

end Vicinity.Graph
