import Vicinity.Proofs.Graph.Answers
import Vicinity.Proofs.Graph.Lockstep

/-!
A wider search answers no worse. Where all nodes are at different distances from the query, a search
with a wider beam that is asked for as many results or more gives at least as many, and at every
place of the narrower answer its own result is no farther.
-/

namespace Vicinity.Graph

section Level

variable {metric : Metric} {nodes : Array Node} {query : Encoded} {entries : List Nat}
  {ef ef' level : Nat} {found found' : List Scored} {marks marks' : Visited}

/-- A search on a level first looks at the entries and then goes on from what it keeps. -/
theorem searchLevel_eq_some_iff :
    searchLevel metric nodes query entries ef level marks = some (found, marks') ↔
      ∃ begun ended,
        entries.foldlM (Beam.visit metric nodes query (beamWidth nodes ef) fun _ _ => true)
          (Beam.start (marks.reset nodes.size)) = some begun ∧
        begun.expand metric nodes query (beamWidth nodes ef) level nodes.size = some ended ∧
        found = ended.kept.reverse ∧ marks' = ended.seen := by
  unfold searchLevel beamWidth
  simp only [Option.bind_eq_bind, Option.bind_eq_some_iff, Option.pure_def, Option.some.injEq,
    Prod.mk.injEq]
  constructor
  · rintro ⟨begun, hbegun, ended, hended, rfl, rfl⟩
    exact ⟨begun, ended, hbegun, hended, rfl, rfl⟩
  · rintro ⟨begun, ended, hbegun, hended, rfl, rfl⟩
    exact ⟨begun, hbegun, ended, hended, rfl, rfl⟩

theorem beamWidth_mono (nodes : Array Node) (h : ef ≤ ef') :
    beamWidth nodes ef ≤ beamWidth nodes ef' := by
  unfold beamWidth
  omega

/-- What a narrow search on a level finds, a wide one finds too, unless it is full of nodes that are
no farther. -/
theorem found_wider (hapart : Apart metric nodes query) (hrange : LinksInRange nodes)
    (hentries : ∀ e ∈ entries, e < nodes.size) (hmarks : marks.Dated) (hle : ef ≤ ef')
    {marks₁ marks₂ : Visited}
    (hsearch : searchLevel metric nodes query entries ef level marks = some (found, marks₁))
    (hsearch' : searchLevel metric nodes query entries ef' level marks = some (found', marks₂)) :
    ∀ s ∈ found, s ∈ found' ∨ ∀ t ∈ found', t.distance.rankKey ≤ s.distance.rankKey := by
  obtain ⟨b, b', hb, hb', rfl, -⟩ := searchLevel_eq_some_iff.mp hsearch
  obtain ⟨c, c', hc, hc', rfl, -⟩ := searchLevel_eq_some_iff.mp hsearch'
  have hbegin : ∀ e ∈ entries, e < nodes.size ∧ Reachable nodes level entries e :=
    fun e he => ⟨hentries e he, Reachable.entry he⟩
  have hstart : Beam.Follows metric nodes query level entries (beamWidth nodes ef)
      (beamWidth nodes ef') [] (Beam.start (marks.reset nodes.size))
      (Beam.start (marks.reset nodes.size)) :=
    ⟨Beam.start_sound hmarks, Beam.start_sound hmarks, rfl, by simp [Beam.start],
      by simp [Beam.start]⟩
  obtain ⟨b₁, c₁, hb₁, hc₁, hbegun⟩ := hstart.visitAll (fun _ _ => true) (fun _ _ => true)
    (fun _ _ _ hfalse => absurd hfalse (by decide)) (fun _ _ _ hfalse => absurd hfalse (by decide))
    (fun _ _ _ _ _ hwant => hwant) entries hbegin
  cases Option.some.inj (hb.symm.trans hb₁)
  cases Option.some.inj (hc.symm.trans hc₁)
  have hnothing : ∀ b : Beam, Beam.FollowedUp nodes level [] b := fun b i hi => by simp at hi
  obtain ⟨b₂, _, hb₂, hsound, -⟩ := Beam.expand_sound hrange hentries nodes.size
    hbegun.narrowSound (hnothing b) (by simp)
  obtain ⟨c₂, _, hc₂, hsound', -⟩ := Beam.expand_sound hrange hentries nodes.size
    hbegun.wideSound (hnothing c) (by simp)
  cases Option.some.inj (hb'.symm.trans hb₂)
  cases Option.some.inj (hc'.symm.trans hc₂)
  have hseen := hbegun.expand_seen hapart hrange hentries (le_max_left 1 _)
    (beamWidth_mono nodes hle) nodes.size (hnothing b) (by simp) hb' hc'
  intro s hs
  obtain ⟨hmeasured, hkept⟩ := hsound.keptSeen s (List.mem_reverse.mp hs)
  refine (hsound'.weighed s hmeasured (hseen s.node hkept)).imp List.mem_reverse.mpr ?_
  exact fun hcloses t ht => hcloses.2 t (List.mem_reverse.mp ht)

/-- The distances that a search finds, as they rank. -/
def rankKeys (found : List Scored) : List Nat := found.map fun s => s.distance.rankKey

theorem rankKeys_ascend (hapart : Apart metric nodes query)
    (hfound : Found metric nodes query entries ef level found) :
    (rankKeys found).Pairwise (· < ·) := by
  have hdistinct : (rankKeys found).Nodup := by
    refine List.Nodup.map_on ?_ hfound.distinct.of_map
    intro s hs t ht hkey
    exact hapart.eq_of_rankKey (hfound.measured s hs) (hfound.measured t ht) hkey
  have hordered : (rankKeys found).Pairwise (· ≤ ·) :=
    List.pairwise_map.mpr (hfound.ordered.imp Scored.rankKey_le_of_rank_le)
  exact (hordered.and hdistinct).imp fun h => lt_of_le_of_ne h.1 h.2

/-- A wider search on a level finds at least as many nodes, and none of them is farther than the one
that the narrower search finds at its place. -/
theorem rankKeys_wider (hapart : Apart metric nodes query) (hrange : LinksInRange nodes)
    (hentries : ∀ e ∈ entries, e < nodes.size) (hmarks : marks.Dated) (hle : ef ≤ ef')
    {marks₁ marks₂ : Visited}
    (hsearch : searchLevel metric nodes query entries ef level marks = some (found, marks₁))
    (hsearch' : searchLevel metric nodes query entries ef' level marks = some (found', marks₂))
    (hfound : Found metric nodes query entries ef level found)
    (hfound' : Found metric nodes query entries ef' level found') :
    found.length ≤ found'.length ∧ ∀ i (hi : i < (rankKeys found).length)
      (hi' : i < (rankKeys found').length), (rankKeys found')[i] ≤ (rankKeys found)[i] := by
  constructor
  · have hwidth := beamWidth_mono nodes hle
    have hcount := hfound.count
    have hcount' := hfound'.count
    omega
  · refine getElem_le_of_covered (rankKeys_ascend hapart hfound)
      ((rankKeys_ascend hapart hfound').imp le_of_lt) ?_
    intro key hkey
    obtain ⟨s, hs, rfl⟩ := List.mem_map.mp hkey
    refine (found_wider hapart hrange hentries hmarks hle hsearch hsearch' s hs).imp
      List.mem_map_of_mem ?_
    intro hnear key' hkey'
    obtain ⟨t, ht, rfl⟩ := List.mem_map.mp hkey'
    exact hnear t ht

end Level

/-- The graph, to be searched with a beam of the given width. -/
def tuned (g : Graph) (efSearch : Nat) : Graph := { g with config := { g.config with efSearch } }

section Search

variable {metric : Metric} {nodes : Array Node} {query : Encoded} {found : List Scored} {k : Nat}

theorem pick_rankKeys (hfound : ∀ s ∈ found, s.Measures metric nodes query) :
    (pick (neighbors metric nodes query) (found.map Scored.node)).map
      (fun r => r.distance.rankKey) = rankKeys found := by
  induction found with
  | nil => rfl
  | cons s rest ih =>
      obtain ⟨n, hn, hdistance⟩ := hfound s List.mem_cons_self
      have hrest := ih fun t ht => hfound t (List.mem_cons_of_mem s ht)
      simpa [rankKeys, pick, neighbors, hn, hdistance] using hrest

/-- The answer made of what a search finds has the same distances in the same order. -/
theorem answer_rankKey {entries : List Nat} {ef level : Nat} (hapart : Apart metric nodes query)
    (hfound : Found metric nodes query entries ef level found) {i : Nat}
    (hi : i < ((TopK.empty k).pushAll
      (pick (neighbors metric nodes query) (found.map Scored.node))).toSorted.length)
    (hj : i < (rankKeys found).length) :
    (((TopK.empty k).pushAll
      (pick (neighbors metric nodes query) (found.map Scored.node))).toSorted[i]).distance.rankKey =
      (rankKeys found)[i] := by
  have hkeys := pick_rankKeys hfound.measured
  have hfront := TopK.offered_rankKeys k (hkeys ▸ rankKeys_ascend hapart hfound)
  have hk : i < k := by
    rw [TopK.offered_length] at hi
    omega
  apply Option.some_injective
  rw [← List.getElem?_eq_getElem hj, ← List.getElem?_take_of_lt hk, ← hkeys, ← hfront,
    List.getElem?_map, List.getElem?_eq_getElem hi, Option.map_some]

/-- A search with a wider beam, asked for no fewer results, answers no fewer results, and at every
place of the narrower answer one that is no farther. -/
theorem search_wider (metric : Metric) (g : Graph) (query : Encoded)
    (hchecked : g.checkIntegrity = .ok ()) (hapart : Apart metric g.nodes query)
    {ef ef' k k' : Nat} (hk : k ≤ k') (hwide : max ef k ≤ max ef' k') :
    ∃ q q', search metric (g.tuned ef) query k = some q ∧
      search metric (g.tuned ef') query k' = some q' ∧
      q.toSorted.length ≤ q'.toSorted.length ∧
      ∀ i, ∀ hi : i < q.toSorted.length, ∃ r, q'.toSorted[i]? = some r ∧
        r.distance.rankKey ≤ q.toSorted[i].distance.rankKey := by
  obtain ⟨hentry, -, hrange⟩ := (checkIntegrity_eq_ok_iff g).mp hchecked
  rcases search_cases metric (g := g.tuned ef) query k hchecked with ⟨-, hsearch⟩ |
    ⟨hpos, entry, -, -, -, hstart, -, -, -, -⟩
  · -- Where the first answer is empty it is enough that there is a second one.
    obtain ⟨q', hsearch'⟩ : ∃ q', search metric (g.tuned ef') query k' = some q' := by
      rcases search_cases metric (g := g.tuned ef') query k' hchecked with ⟨-, hsearch'⟩ |
        ⟨-, _, _, _, _, -, -, -, -, hsearch'⟩
      · exact ⟨_, hsearch'⟩
      · exact ⟨_, hsearch'⟩
    exact ⟨_, _, hsearch, hsearch', Nat.zero_le _, fun i hi => absurd hi (Nat.not_lt_zero i)⟩
  · obtain ⟨last, marks, hdescend, hmarks, hlast, -⟩ := descend_stays metric query hrange
      (P := fun _ => True) 0 g.maxLevel (hentry entry hstart) trivial
      (fun _ _ _ _ _ _ => trivial) Visited.empty_dated
    have hlasts : ∀ e ∈ [last], e < g.nodes.size := by simpa using hlast
    obtain ⟨found, _, hlevel, -, hfound⟩ := searchLevel_found metric query
      (min (max ef k) g.size) 0 hrange hlasts hmarks
    obtain ⟨found', _, hlevel', -, hfound'⟩ := searchLevel_found metric query
      (min (max ef' k') g.size) 0 hrange hlasts hmarks
    obtain ⟨hmore, hnear⟩ := rankKeys_wider hapart hrange hlasts hmarks
      (min_le_min_right g.size hwide) hlevel hlevel' hfound hfound'
    have hsearch := search_eq_some (g := g.tuned ef) hpos hstart hdescend hlevel hfound.measured
    have hsearch' := search_eq_some (g := g.tuned ef') (by omega) hstart hdescend hlevel'
      hfound'.measured
    have hlength := answer_length k hfound.measured
    have hlength' := answer_length k' hfound'.measured
    have hshort : min k found.length ≤ min k' found'.length := min_le_min hk hmore
    refine ⟨_, _, hsearch, hsearch', ?_, ?_⟩
    · exact hlength.trans_le (hshort.trans_eq hlength'.symm)
    · intro i hi
      have hin := hi.trans_eq hlength
      have hi' := (hin.trans_le hshort).trans_eq hlength'.symm
      have hj : i < (rankKeys found).length := by simp only [rankKeys, List.length_map]; omega
      have hj' : i < (rankKeys found').length := by simp only [rankKeys, List.length_map]; omega
      refine ⟨_, List.getElem?_eq_getElem hi', ?_⟩
      calc
        _ = (rankKeys found')[i] := answer_rankKey hapart hfound' hi' hj'
        _ ≤ (rankKeys found)[i] := hnear i hj hj'
        _ = _ := (answer_rankKey hapart hfound hi hj).symm

/-- A graph whose nearest node to `[1, 2, 3, 4]` lies behind one that is farther than the entry. -/
def detour : Graph :=
  { config := GraphConfig.standard
    nodes := #[⟨7, .sparse [1, 9], [[1]]⟩, ⟨8, .sparse [5], [[2]]⟩, ⟨9, .sparse [1, 2, 3, 4], [[]]⟩]
    entry := some 0
    maxLevel := 0 }

theorem search_wider_detour :
    detour.checkIntegrity = .ok () ∧
      Apart Space.sparseJaccard.distance detour.nodes (.sparse [1, 2, 3, 4]) ∧
      ∃ q q',
        search Space.sparseJaccard.distance (detour.tuned 1) (.sparse [1, 2, 3, 4]) 1 = some q ∧
        search Space.sparseJaccard.distance (detour.tuned 2) (.sparse [1, 2, 3, 4]) 1 = some q' ∧
        q.toSorted.length ≤ q'.toSorted.length ∧
        ∀ i, ∀ hi : i < q.toSorted.length, ∃ r, q'.toSorted[i]? = some r ∧
          r.distance.rankKey ≤ q.toSorted[i].distance.rankKey :=
  ⟨rfl, by decide +kernel, search_wider _ _ _ rfl (by decide +kernel) (by decide) (by decide)⟩

/-- The narrow search answers the entry here, the wide one the node behind the farther one. -/
example :
    (search Space.sparseJaccard.distance (detour.tuned 1) (.sparse [1, 2, 3, 4]) 1).map
      (fun q => q.toSorted.map Neighbor.id) = some [7] ∧
    (search Space.sparseJaccard.distance (detour.tuned 2) (.sparse [1, 2, 3, 4]) 1).map
      (fun q => q.toSorted.map Neighbor.id) = some [9] := by
  decide +kernel

end Search

end Vicinity.Graph
