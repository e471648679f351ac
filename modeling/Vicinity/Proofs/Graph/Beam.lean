import Vicinity.Proofs.Ranking
import Vicinity.Proofs.Graph.Marks
import Vicinity.Proofs.Graph.Reach

/-!
What a beam search on one level finds. Its state keeps one invariant: every node seen is reachable
and either kept, or no nearer than all that a full beam keeps. A search that runs out of pending
nodes has therefore seen everything reachable, one that stops early has a full beam, and no step
looks past the end of the node table.
-/

namespace Vicinity.Graph

/-- A scored node stands at the distance that the metric gives it. -/
def Scored.Measures (metric : Metric) (nodes : Array Node) (query : Encoded) (s : Scored) : Prop :=
  ∃ n, nodes[s.node]? = some n ∧ s.distance = metric query n.vector

theorem Scored.Measures.lt {metric : Metric} {nodes : Array Node} {query : Encoded} {s : Scored}
    (h : s.Measures metric nodes query) : s.node < nodes.size := by
  obtain ⟨n, hn, _⟩ := h
  exact (Array.getElem?_eq_some_iff.mp hn).1

theorem Scored.Measures.eq_of_node {metric : Metric} {nodes : Array Node} {query : Encoded}
    {s t : Scored} (hs : s.Measures metric nodes query) (ht : t.Measures metric nodes query)
    (hnode : s.node = t.node) : s = t := by
  obtain ⟨n, hn, hsn⟩ := hs
  obtain ⟨m, hm, htm⟩ := ht
  rw [hnode, hm] at hn
  cases hn
  cases s
  cases t
  simp_all

/-- Every node of the table has a score. -/
theorem exists_measures (metric : Metric) {nodes : Array Node} (query : Encoded) {i : Nat}
    (hi : i < nodes.size) : ∃ s : Scored, s.node = i ∧ s.Measures metric nodes query :=
  ⟨⟨metric query nodes[i].vector, i⟩, rfl, nodes[i], Array.getElem?_eq_getElem hi, rfl⟩

theorem insertNearest_perm (s : Scored) (l : List Scored) : (insertNearest s l).Perm (s :: l) :=
  place_perm _ s l

theorem insertNearest_ordered (s : Scored) {l : List Scored}
    (hl : l.Pairwise fun a b => a.rank ≤ b.rank) :
    (insertNearest s l).Pairwise fun a b => a.rank ≤ b.rank :=
  place_sorted Scored.rank Scored.before_iff s l hl

theorem insertFarthest_perm (s : Scored) (l : List Scored) : (insertFarthest s l).Perm (s :: l) :=
  place_perm _ s l

theorem insertFarthest_ordered (s : Scored) {l : List Scored}
    (hl : l.Pairwise fun a b => b.rank ≤ a.rank) :
    (insertFarthest s l).Pairwise fun a b => b.rank ≤ a.rank :=
  place_sorted (κ := (Nat ×ₗ Nat)ᵒᵈ) (fun a => OrderDual.toDual a.rank)
    (fun b c => Scored.before_iff c b) s l hl

namespace Beam

/-- A full beam that keeps nothing farther than a node. -/
def Closes (width : Nat) (b : Beam) (s : Scored) : Prop :=
  width ≤ b.kept.length ∧ ∀ t ∈ b.kept, t.distance.rankKey ≤ s.distance.rankKey

theorem rankKey_le_worstKey {b : Beam} (hb : b.kept.Pairwise fun s t => t.rank ≤ s.rank)
    {t : Scored} (ht : t ∈ b.kept) : t.distance.rankKey ≤ b.worstKey := by
  unfold worstKey
  cases hkept : b.kept with
  | nil => simp [hkept] at ht
  | cons worst rest =>
      rw [hkept] at hb ht
      rcases List.mem_cons.mp ht with rfl | ht
      · exact le_refl _
      · exact Scored.rankKey_le_of_rank_le ((List.pairwise_cons.mp hb).1 t ht)

theorem worstKey_le {b : Beam} {key : Nat} (hsome : b.kept ≠ [])
    (h : ∀ t ∈ b.kept, t.distance.rankKey ≤ key) : b.worstKey ≤ key := by
  unfold worstKey
  cases hkept : b.kept with
  | nil => exact absurd hkept hsome
  | cons worst rest => exact h worst (by rw [hkept]; exact List.mem_cons_self)

/-- A neighbour for which there is no room is no nearer than all that a full beam keeps. -/
theorem closes_of_not_hasRoomFor {width : Nat} {b : Beam} {s : Scored}
    (hb : b.kept.Pairwise fun s t => t.rank ≤ s.rank)
    (h : b.hasRoomFor width s.distance = false) : b.Closes width s := by
  simp only [hasRoomFor, Bool.or_eq_false_iff, decide_eq_false_iff_not, not_lt] at h
  exact ⟨h.1, fun t ht => (rankKey_le_worstKey hb ht).trans h.2⟩

/-- A beam with room takes the new node in; a full one takes it in and loses its farthest. -/
theorem keep_cases {width : Nat} {b : Beam} (hb : b.kept.length ≤ width) (s : Scored) :
    (b.kept.length < width ∧ (b.keep width s).kept = insertFarthest s b.kept) ∨
    (b.kept.length = width ∧ ∃ worst rest, insertFarthest s b.kept = worst :: rest ∧
      (b.keep width s).kept = rest) := by
  have hlength := (insertFarthest_perm s b.kept).length_eq
  rw [List.length_cons] at hlength
  dsimp only [keep]
  by_cases hroom : b.kept.length < width
  · exact Or.inl ⟨hroom, if_neg (by omega)⟩
  · rw [if_pos (by omega)]
    cases hplaced : insertFarthest s b.kept with
    | nil => simp [hplaced] at hlength
    | cons worst rest => exact Or.inr ⟨by omega, worst, rest, rfl, rfl⟩

theorem keep_sublist {width : Nat} {b : Beam} (hb : b.kept.length ≤ width) (s : Scored) :
    (b.keep width s).kept.Sublist (insertFarthest s b.kept) := by
  rcases keep_cases hb s with ⟨_, hkept⟩ | ⟨_, worst, rest, hplaced, hkept⟩
  · rw [hkept]
  · rw [hkept, hplaced]
    exact List.sublist_cons_self worst rest

theorem keep_narrow {width : Nat} {b : Beam} (hb : b.kept.length ≤ width) (s : Scored) :
    (b.keep width s).kept.length ≤ width := by
  have hlength := (insertFarthest_perm s b.kept).length_eq
  rcases keep_cases hb s with ⟨hroom, hkept⟩ | ⟨hfull, worst, rest, hplaced, hkept⟩
  · rw [hkept]
    simp only [List.length_cons] at hlength
    omega
  · rw [hplaced] at hlength
    simp only [List.length_cons] at hlength
    rw [hkept]
    omega

/-- Of the new node and those kept before, each is kept or no nearer than all that are. -/
theorem keep_weighs {width : Nat} {b : Beam} {s t : Scored} (hb : b.kept.length ≤ width)
    (hordered : b.kept.Pairwise fun s t => t.rank ≤ s.rank) (ht : t = s ∨ t ∈ b.kept) :
    t ∈ (b.keep width s).kept ∨ (b.keep width s).Closes width t := by
  have hmem : t ∈ insertFarthest s b.kept :=
    (insertFarthest_perm s b.kept).mem_iff.mpr (List.mem_cons.mpr ht)
  have hplacedOrdered := insertFarthest_ordered s hordered
  have hlength := (insertFarthest_perm s b.kept).length_eq
  rcases keep_cases hb s with ⟨_, hkept⟩ | ⟨hfull, worst, rest, hplaced, hkept⟩
  · exact Or.inl (hkept ▸ hmem)
  · rw [hplaced] at hmem hplacedOrdered hlength
    simp only [List.length_cons] at hlength
    rcases List.mem_cons.mp hmem with rfl | hmem
    · refine Or.inr ⟨by rw [hkept]; omega, ?_⟩
      rw [hkept]
      intro u hu
      exact Scored.rankKey_le_of_rank_le ((List.pairwise_cons.mp hplacedOrdered).1 u hu)
    · exact Or.inl (hkept ▸ hmem)

/-- What a full beam has closed out stays closed out. -/
theorem keep_closes {width : Nat} {b : Beam} {s t : Scored} (hb : b.kept.length ≤ width)
    (hordered : b.kept.Pairwise fun s t => t.rank ≤ s.rank) (h : b.Closes width t) :
    (b.keep width s).Closes width t := by
  obtain ⟨hwide, hnear⟩ := h
  have hplacedOrdered := insertFarthest_ordered s hordered
  have hperm := insertFarthest_perm s b.kept
  rcases keep_cases hb s with ⟨hroom, _⟩ | ⟨_, worst, rest, hplaced, hkept⟩
  · omega
  · rw [hplaced] at hplacedOrdered hperm
    have hlength := hperm.length_eq
    simp only [List.length_cons] at hlength
    refine ⟨by rw [hkept]; omega, ?_⟩
    rw [hkept]
    intro u hu
    have hworst : worst = s ∨ worst ∈ b.kept :=
      List.mem_cons.mp (hperm.mem_iff.mp (List.mem_cons_self))
    rcases hworst with rfl | hworst
    · exact hnear u (hperm.cons_inv.mem_iff.mp hu)
    · have huw := (List.pairwise_cons.mp hplacedOrdered).1 u hu
      exact (Scored.rankKey_le_of_rank_le huw).trans (hnear worst hworst)

section Search

variable {metric : Metric} {nodes : Array Node} {query : Encoded} {width level : Nat}
  {entries : List Nat}

variable (metric nodes query width level entries) in
/-- The invariant of a beam search. `done` lists the nodes that the search has gone on from. -/
structure Sound (done : List Nat) (b : Beam) : Prop where
  room : nodes.size ≤ b.seen.marks.size
  dated : b.seen.Dated
  pendingOrdered : b.pending.Pairwise fun s t => s.rank ≤ t.rank
  keptOrdered : b.kept.Pairwise fun s t => t.rank ≤ s.rank
  narrow : b.kept.length ≤ width
  pendingSeen : ∀ s ∈ b.pending, s.Measures metric nodes query ∧ b.seen.Seen s.node
  keptSeen : ∀ s ∈ b.kept, s.Measures metric nodes query ∧ b.seen.Seen s.node
  doneSeen : ∀ i ∈ done, b.seen.Seen i
  keptDistinct : (b.kept.map Scored.node).Nodup
  planDistinct : (b.pending.map Scored.node ++ done).Nodup
  planned : ∀ s ∈ b.kept, s ∈ b.pending ∨ s.node ∈ done
  weighed : ∀ s : Scored, s.Measures metric nodes query → b.seen.Seen s.node →
    s ∈ b.kept ∨ b.Closes width s
  reached : ∀ i, b.seen.Seen i → Reachable nodes level entries i

theorem start_sound {marks : Visited} (hmarks : marks.Dated) :
    Sound metric nodes query width level entries [] (start (marks.reset nodes.size)) where
  room := Visited.reset_size marks nodes.size
  dated := Visited.reset_dated hmarks nodes.size
  pendingOrdered := List.Pairwise.nil
  keptOrdered := List.Pairwise.nil
  narrow := Nat.zero_le width
  pendingSeen := by simp [start]
  keptSeen := by simp [start]
  doneSeen := by simp
  keptDistinct := by simp [start]
  planDistinct := by simp [start]
  planned := by simp [start]
  weighed := fun s _ hseen => absurd hseen (Visited.reset_unseen hmarks nodes.size s.node)
  reached := fun i hseen => absurd hseen (Visited.reset_unseen hmarks nodes.size i)

/-- A node seen for the first time and passed over leaves the invariant if a full beam keeps
nothing farther. -/
theorem skip_sound {done : List Nat} {b : Beam} {s : Scored} {seen : Visited}
    (h : Sound metric nodes query width level entries done b)
    (hs : s.Measures metric nodes query) (hroom : nodes.size ≤ seen.marks.size)
    (hdated : seen.Dated)
    (hseen : ∀ i, seen.Seen i ↔ b.seen.Seen i ∨ i = s.node)
    (hreach : Reachable nodes level entries s.node) (hcloses : b.Closes width s) :
    Sound metric nodes query width level entries done { b with seen } where
  room := hroom
  dated := hdated
  pendingOrdered := h.pendingOrdered
  keptOrdered := h.keptOrdered
  narrow := h.narrow
  pendingSeen t ht := ⟨(h.pendingSeen t ht).1, (hseen _).mpr (Or.inl (h.pendingSeen t ht).2)⟩
  keptSeen t ht := ⟨(h.keptSeen t ht).1, (hseen _).mpr (Or.inl (h.keptSeen t ht).2)⟩
  doneSeen i hi := (hseen i).mpr (Or.inl (h.doneSeen i hi))
  keptDistinct := h.keptDistinct
  planDistinct := h.planDistinct
  planned := h.planned
  weighed := by
    intro t ht htseen
    rcases (hseen t.node).mp htseen with hold | hnode
    · exact h.weighed t ht hold
    · rw [ht.eq_of_node hs hnode]
      exact Or.inr hcloses
  reached := by
    intro i hi
    rcases (hseen i).mp hi with hold | rfl
    · exact h.reached i hold
    · exact hreach

/-- A node seen for the first time may be kept. -/
theorem keep_sound {done : List Nat} {b : Beam} {s : Scored} {seen : Visited}
    (h : Sound metric nodes query width level entries done b)
    (hs : s.Measures metric nodes query) (hroom : nodes.size ≤ seen.marks.size)
    (hdated : seen.Dated)
    (hseen : ∀ i, seen.Seen i ↔ b.seen.Seen i ∨ i = s.node)
    (hreach : Reachable nodes level entries s.node) (hnew : ¬ b.seen.Seen s.node) :
    Sound metric nodes query width level entries done (keep width { b with seen } s) := by
  have hpending : ∀ t, t ∈ insertNearest s b.pending ↔ t = s ∨ t ∈ b.pending := fun t => by
    rw [(insertNearest_perm s b.pending).mem_iff, List.mem_cons]
  have hkept : ∀ t ∈ (keep width { b with seen } s).kept, t = s ∨ t ∈ b.kept := fun t ht =>
    List.mem_cons.mp ((insertFarthest_perm s b.kept).mem_iff.mp
      ((keep_sublist (b := { b with seen }) h.narrow s).subset ht))
  refine
    { room := hroom, dated := hdated
      pendingOrdered := insertNearest_ordered s h.pendingOrdered
      keptOrdered := (insertFarthest_ordered s h.keptOrdered).sublist
        (keep_sublist (b := { b with seen }) h.narrow s)
      narrow := keep_narrow (b := { b with seen }) h.narrow s
      pendingSeen := ?_, keptSeen := ?_
      doneSeen := fun i hi => (hseen i).mpr (Or.inl (h.doneSeen i hi))
      keptDistinct := ?_, planDistinct := ?_, planned := ?_, weighed := ?_, reached := ?_ }
  · intro t ht
    rcases (hpending t).mp ht with rfl | ht
    · exact ⟨hs, (hseen _).mpr (Or.inr rfl)⟩
    · exact ⟨(h.pendingSeen t ht).1, (hseen _).mpr (Or.inl (h.pendingSeen t ht).2)⟩
  · intro t ht
    rcases hkept t ht with rfl | ht
    · exact ⟨hs, (hseen _).mpr (Or.inr rfl)⟩
    · exact ⟨(h.keptSeen t ht).1, (hseen _).mpr (Or.inl (h.keptSeen t ht).2)⟩
  · have hall : ((insertFarthest s b.kept).map Scored.node).Nodup := by
      rw [((insertFarthest_perm s b.kept).map Scored.node).nodup_iff, List.map_cons,
        List.nodup_cons]
      refine ⟨?_, h.keptDistinct⟩
      intro hmem
      obtain ⟨t, ht, hnode⟩ := List.mem_map.mp hmem
      exact hnew (hnode ▸ (h.keptSeen t ht).2)
    exact hall.sublist ((keep_sublist (b := { b with seen }) h.narrow s).map _)
  · change ((insertNearest s b.pending).map Scored.node ++ done).Nodup
    rw [(((insertNearest_perm s b.pending).map Scored.node).append_right done).nodup_iff,
      List.map_cons, List.cons_append, List.nodup_cons]
    refine ⟨?_, h.planDistinct⟩
    intro hmem
    rcases List.mem_append.mp hmem with hmem | hmem
    · obtain ⟨t, ht, hnode⟩ := List.mem_map.mp hmem
      exact hnew (hnode ▸ (h.pendingSeen t ht).2)
    · exact hnew (h.doneSeen _ hmem)
  · intro t ht
    rcases hkept t ht with rfl | ht
    · exact Or.inl ((hpending t).mpr (Or.inl rfl))
    · exact (h.planned t ht).imp_left fun hold => (hpending t).mpr (Or.inr hold)
  · intro t ht htseen
    rcases (hseen t.node).mp htseen with hold | hnode
    · rcases h.weighed t ht hold with hmem | hcloses
      · exact keep_weighs (b := { b with seen }) h.narrow h.keptOrdered (Or.inr hmem)
      · exact Or.inr (keep_closes (b := { b with seen }) h.narrow h.keptOrdered hcloses)
    · exact keep_weighs (b := { b with seen }) h.narrow h.keptOrdered
        (Or.inl (ht.eq_of_node hs hnode))
  · intro i hi
    rcases (hseen i).mp hi with hold | rfl
    · exact h.reached i hold
    · exact hreach

/-- All that looking at a node of the table can do: nothing if it has been seen, else mark it and
keep it if it is wanted. -/
theorem visit_cases (metric : Metric) (query : Encoded) (width : Nat)
    (wanted : Beam → Single → Bool) {b : Beam} {i : Nat} {n : Node} (hn : nodes[i]? = some n)
    (hmark : i < b.seen.marks.size) :
    (b.seen.Seen i ∧ visit metric nodes query width wanted b i = some b) ∨
    (¬ b.seen.Seen i ∧ visit metric nodes query width wanted b i =
      some (if wanted { b with seen := (b.seen.insert i).2 } (metric query n.vector) then
        keep width { b with seen := (b.seen.insert i).2 } ⟨metric query n.vector, i⟩
        else { b with seen := (b.seen.insert i).2 })) := by
  have hfresh := Visited.insert_fst hmark
  unfold visit
  rw [hn]
  cases hinsert : b.seen.insert i with
  | mk fresh seen =>
      rw [hinsert] at hfresh
      cases fresh with
      | false => exact Or.inl ⟨by simpa using hfresh, rfl⟩
      | true => exact Or.inr ⟨hfresh.mp rfl, rfl⟩

/-- Looking at a reachable node of the table gives a result, keeps the invariant and marks that
node only. What is not wanted has to be closed out. -/
theorem visit_sound {done : List Nat} {b : Beam} {i : Nat} {wanted : Beam → Single → Bool}
    (h : Sound metric nodes query width level entries done b)
    (hwanted : ∀ (b : Beam) (s : Scored), b.kept.Pairwise (fun s t => t.rank ≤ s.rank) →
      wanted b s.distance = false → b.Closes width s)
    (hi : i < nodes.size) (hreach : Reachable nodes level entries i) :
    ∃ b', visit metric nodes query width wanted b i = some b' ∧
      Sound metric nodes query width level entries done b' ∧
      ∀ j, b'.seen.Seen j ↔ b.seen.Seen j ∨ j = i := by
  have hmark : i < b.seen.marks.size := hi.trans_le h.room
  have hseen := Visited.insert_seen hmark
  have hroom : nodes.size ≤ (b.seen.insert i).2.marks.size := by
    rw [Visited.insert_size]
    exact h.room
  have hdated := Visited.insert_dated h.dated i
  rcases visit_cases metric query width wanted (Array.getElem?_eq_getElem hi) hmark with
    ⟨hold, hvisit⟩ | ⟨hnew, hvisit⟩
  · refine ⟨b, hvisit, h, fun j => ⟨Or.inl, ?_⟩⟩
    rintro (hj | rfl)
    · exact hj
    · exact hold
  · have hs : Scored.Measures metric nodes query ⟨metric query nodes[i].vector, i⟩ :=
      ⟨nodes[i], Array.getElem?_eq_getElem hi, rfl⟩
    rw [hvisit]
    split
    · exact ⟨_, rfl, keep_sound h hs hroom hdated hseen hreach hnew, hseen⟩
    · rename_i hwant
      have hcloses := hwanted { b with seen := (b.seen.insert i).2 }
        ⟨metric query nodes[i].vector, i⟩ h.keptOrdered (by simpa using hwant)
      exact ⟨_, rfl, skip_sound h hs hroom hdated hseen hreach hcloses, hseen⟩

theorem visitAll_sound {done : List Nat} {b : Beam} (wanted : Beam → Single → Bool)
    (h : Sound metric nodes query width level entries done b)
    (hwanted : ∀ (b : Beam) (s : Scored), b.kept.Pairwise (fun s t => t.rank ≤ s.rank) →
      wanted b s.distance = false → b.Closes width s)
    (l : List Nat) (hl : ∀ i ∈ l, i < nodes.size ∧ Reachable nodes level entries i) :
    ∃ b', l.foldlM (visit metric nodes query width wanted) b = some b' ∧
      Sound metric nodes query width level entries done b' ∧
      ∀ j, b'.seen.Seen j ↔ b.seen.Seen j ∨ j ∈ l := by
  induction l generalizing b with
  | nil => exact ⟨b, rfl, h, by simp⟩
  | cons i rest ih =>
      obtain ⟨hi, hreach⟩ := hl i (by simp)
      obtain ⟨b₁, hvisit, hsound, hmarks⟩ := visit_sound h hwanted hi hreach
      obtain ⟨b₂, hrest, hsound₂, hmarks₂⟩ := ih hsound fun j hj => hl j (by simp [hj])
      refine ⟨b₂, by simp [List.foldlM_cons, hvisit, hrest], hsound₂, ?_⟩
      intro j
      rw [hmarks₂, hmarks, List.mem_cons, or_assoc]

/-- The nearest pending node becomes one that the search has gone on from. -/
theorem pop_sound {done : List Nat} {b : Beam} {s : Scored} {rest : List Scored}
    (h : Sound metric nodes query width level entries done b) (hpending : b.pending = s :: rest) :
    Sound metric nodes query width level entries (s.node :: done) { b with pending := rest } := by
  have hplan := h.planDistinct
  rw [hpending, List.map_cons, List.cons_append] at hplan
  refine
    { h with
      pendingOrdered := ?_, pendingSeen := ?_, doneSeen := ?_, planDistinct := ?_
      planned := ?_ }
  · have hordered := h.pendingOrdered
    rw [hpending] at hordered
    exact (List.pairwise_cons.mp hordered).2
  · intro t ht
    exact h.pendingSeen t (hpending ▸ List.mem_cons_of_mem s ht)
  · intro i hi
    rcases List.mem_cons.mp hi with rfl | hi
    · exact (h.pendingSeen s (hpending ▸ List.mem_cons_self)).2
    · exact h.doneSeen i hi
  · exact List.perm_middle.nodup_iff.mpr hplan
  · intro t ht
    rcases h.planned t ht with hmem | hmem
    · rw [hpending] at hmem
      rcases List.mem_cons.mp hmem with rfl | hmem
      · exact Or.inr List.mem_cons_self
      · exact Or.inl hmem
    · exact Or.inr (List.mem_cons_of_mem _ hmem)

theorem expand_drained {b : Beam} (steps : Nat) (hpending : b.pending = []) :
    expand metric nodes query width level steps b = some b := by
  rw [expand, hpending]

theorem expand_zero {b b' : Beam}
    (h : expand metric nodes query width level 0 b = some b') : b' = b := by
  rw [expand] at h
  split at h
  · exact (Option.some.inj h).symm
  · split at h
    · exact (Option.some.inj h).symm
    · simp at h

theorem expand_settled {b : Beam} {s : Scored} {rest : List Scored} (steps : Nat)
    (hpending : b.pending = s :: rest) (hsettled : b.isSettled width s = true) :
    expand metric nodes query width level steps b = some b := by
  rw [expand, hpending]
  exact if_pos hsettled

theorem expand_step {b : Beam} {s : Scored} {rest : List Scored} {n : Node} (steps : Nat)
    (hpending : b.pending = s :: rest) (hsettled : ¬ b.isSettled width s = true)
    (hn : nodes[s.node]? = some n) :
    expand metric nodes query width level (steps + 1) b =
      ((n.linksOn level).foldlM (visit metric nodes query width (hasRoomFor width))
        { b with pending := rest }).bind (expand metric nodes query width level steps) := by
  rw [expand, hpending]
  dsimp only
  rw [if_neg hsettled, hn]
  rfl

/-- Every neighbour of the nodes gone on from has been seen. -/
def FollowedUp (nodes : Array Node) (level : Nat) (done : List Nat) (b : Beam) : Prop :=
  ∀ i ∈ done, ∀ j, Linked nodes level i j → b.seen.Seen j

/-- Having looked at all neighbours of a node, the search has followed up that node too. -/
theorem FollowedUp.cons {done : List Nat} {b b' : Beam} {i : Nat} {n : Node}
    (h : FollowedUp nodes level done b) (hn : nodes[i]? = some n)
    (hmarks : ∀ j, b'.seen.Seen j ↔ b.seen.Seen j ∨ j ∈ n.linksOn level) :
    FollowedUp nodes level (i :: done) b' := by
  intro k hk j hlink
  rcases List.mem_cons.mp hk with rfl | hk
  · obtain ⟨m, hm, hj⟩ := hlink
    cases Option.some.inj (hn.symm.trans hm)
    exact (hmarks j).mpr (Or.inr hj)
  · exact (hmarks j).mpr (Or.inl (h k hk j hlink))

/-- Each step goes on from a node of its own, so as many steps as there are nodes are enough to
come to an end, and no step looks past the table. -/
theorem expand_sound (hrange : LinksInRange nodes) (hentries : ∀ e ∈ entries, e < nodes.size)
    (steps : Nat) {done : List Nat} {b : Beam}
    (h : Sound metric nodes query width level entries done b)
    (hfollowed : FollowedUp nodes level done b) (hsteps : nodes.size ≤ done.length + steps) :
    ∃ b' done', expand metric nodes query width level steps b = some b' ∧
      Sound metric nodes query width level entries done' b' ∧
      FollowedUp nodes level done' b' ∧ (∀ i, b.seen.Seen i → b'.seen.Seen i) ∧
      ∀ s rest, b'.pending = s :: rest → b'.isSettled width s = true := by
  -- Each step adds the node that it goes on from to `done`, where no node stands twice.
  induction steps generalizing done b with
  | zero =>
      cases hpending : b.pending with
      | nil =>
          refine ⟨b, done, expand_drained _ hpending, h, hfollowed, fun _ => id, ?_⟩
          simp [hpending]
      | cons s rest =>
          -- One more node to go on from than the table has.
          have hplan := h.planDistinct
          rw [hpending, List.map_cons, List.cons_append] at hplan
          have hsub : (s.node :: (rest.map Scored.node ++ done)) ⊆ List.range nodes.size := by
            intro i hi
            have hseen : b.seen.Seen i := by
              rcases List.mem_cons.mp hi with rfl | hi
              · exact (h.pendingSeen s (hpending ▸ List.mem_cons_self)).2
              · rcases List.mem_append.mp hi with hi | hi
                · obtain ⟨t, ht, rfl⟩ := List.mem_map.mp hi
                  exact (h.pendingSeen t (hpending ▸ List.mem_cons_of_mem s ht)).2
                · exact h.doneSeen i hi
            exact List.mem_range.mpr ((h.reached i hseen).lt hrange hentries)
          have hcount := (List.subperm_of_subset hplan hsub).length_le
          simp only [List.length_cons, List.length_append, List.length_range] at hcount
          omega
  | succ steps ih =>
      cases hpending : b.pending with
      | nil =>
          refine ⟨b, done, expand_drained _ hpending, h, hfollowed, fun _ => id, ?_⟩
          simp [hpending]
      | cons s rest =>
          by_cases hsettled : b.isSettled width s = true
          · refine ⟨b, done, expand_settled _ hpending hsettled, h, hfollowed, fun _ => id, ?_⟩
            intro t rest' ht
            rw [hpending] at ht
            cases ht
            exact hsettled
          · obtain ⟨⟨n, hn, _⟩, hseen⟩ := h.pendingSeen s (hpending ▸ List.mem_cons_self)
            have hpopped := pop_sound h hpending
            obtain ⟨b₁, hvisits, hsound, hmarks⟩ := visitAll_sound (hasRoomFor width) hpopped
              (fun b s hb hroom => closes_of_not_hasRoomFor hb hroom) (n.linksOn level)
              ((h.reached s.node hseen).linksOn hrange hn)
            obtain ⟨b₂, done₂, hexpand, hsound₂, hfollowed₂, hmono, hend⟩ :=
              ih hsound (hfollowed.cons hn hmarks) (by simp only [List.length_cons]; omega)
            refine ⟨b₂, done₂, ?_, hsound₂, hfollowed₂, ?_, hend⟩
            · rw [expand_step steps hpending hsettled hn, hvisits]
              exact hexpand
            · intro i hi
              exact hmono i ((hmarks i).mpr (Or.inl hi))

end Search

end Beam

end Vicinity.Graph
