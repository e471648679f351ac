import Vicinity.Proofs.Graph.LevelSearch

/-!
Two beam searches of different widths over the same table, where no two nodes are equally far from
the query. They go on from the same nodes for as long as the narrow one goes on at all: a node that
only the wide beam plans to go on from was turned away by a full narrow beam, so by the time its
turn comes the narrow search has settled. Whatever the narrow search has seen the wide one sees as
well.
-/

namespace Vicinity.Graph

/-- No two nodes of a table rank equally far from a query. -/
def Apart (metric : Metric) (nodes : Array Node) (query : Encoded) : Prop :=
  (nodes.toList.map fun n => (metric query n.vector).rankKey).Nodup

instance (metric : Metric) (nodes : Array Node) (query : Encoded) :
    Decidable (Apart metric nodes query) :=
  inferInstanceAs (Decidable (List.Nodup _))

theorem Apart.eq_of_rankKey {metric : Metric} {nodes : Array Node} {query : Encoded}
    (h : Apart metric nodes query) {s t : Scored} (hs : s.Measures metric nodes query)
    (ht : t.Measures metric nodes query) (hkey : s.distance.rankKey = t.distance.rankKey) :
    s = t := by
  obtain ⟨n, hn, hsn⟩ := hs
  obtain ⟨m, hm, htm⟩ := ht
  have hkeys : ∀ {i : Nat} {n : Node}, nodes[i]? = some n →
      (nodes.toList.map fun n => (metric query n.vector).rankKey)[i]? =
        some (metric query n.vector).rankKey := by
    intro i n hi
    rw [List.getElem?_map, Array.getElem?_toList, hi, Option.map_some]
  have hlt : s.node < (nodes.toList.map fun n => (metric query n.vector).rankKey).length := by
    simpa using (Array.getElem?_eq_some_iff.mp hn).1
  have hnode : s.node = t.node := by
    apply (List.getElem?_inj hlt h).mp
    rw [hkeys hn, hkeys hm, ← hsn, ← htm, hkey]
  exact Scored.Measures.eq_of_node ⟨n, hn, hsn⟩ ⟨m, hm, htm⟩ hnode

namespace Beam

section Search

variable {metric : Metric} {nodes : Array Node} {query : Encoded} {level : Nat}
  {entries : List Nat} {narrow wide : Nat}

/-- A wide beam `c` plans to go on from all that a narrow beam `b` plans to go on from, and from
nothing else but nodes that the narrow one has closed out. -/
structure Covers (narrow : Nat) (b c : Beam) : Prop where
  planned : ∀ s ∈ b.pending, s ∈ c.pending
  extra : ∀ s ∈ c.pending, s ∈ b.pending ∨ b.Closes narrow s

theorem mem_pending_keep {width : Nat} {b : Beam} {s t : Scored} :
    t ∈ (b.keep width s).pending ↔ t = s ∨ t ∈ b.pending := by
  rw [keep, (insertNearest_perm s b.pending).mem_iff, List.mem_cons]

namespace Covers

variable {b c : Beam} {s : Scored}

/-- Two beams may keep the same node. -/
theorem keep (h : Covers narrow b c) (hnarrow : b.kept.length ≤ narrow)
    (hordered : b.kept.Pairwise fun s t => t.rank ≤ s.rank) :
    Covers narrow (b.keep narrow s) (c.keep wide s) where
  planned t ht := mem_pending_keep.mpr ((mem_pending_keep.mp ht).imp_right (h.planned t))
  extra t ht := by
    rcases mem_pending_keep.mp ht with rfl | ht
    · exact Or.inl (mem_pending_keep.mpr (Or.inl rfl))
    · exact (h.extra t ht).imp (fun ht => mem_pending_keep.mpr (Or.inr ht))
        fun hcloses => keep_closes hnarrow hordered hcloses

/-- The wide beam may keep a node that the narrow one has closed out. -/
theorem keep_wide (h : Covers narrow b c) (hcloses : b.Closes narrow s) :
    Covers narrow b (c.keep wide s) where
  planned t ht := mem_pending_keep.mpr (Or.inr (h.planned t ht))
  extra t ht := by
    rcases mem_pending_keep.mp ht with rfl | ht
    · exact Or.inr hcloses
    · exact h.extra t ht

/-- Two beams that plan to go on from a node may both take it off their plans. -/
theorem pop {rest rest' : List Scored} (h : Covers narrow b c) (hb : b.pending = s :: rest)
    (hc : c.pending = s :: rest') (hrest : s ∉ rest) (hrest' : s ∉ rest') :
    Covers narrow { b with pending := rest } { c with pending := rest' } where
  planned t ht := by
    have hmem := h.planned t (hb ▸ List.mem_cons_of_mem s ht)
    rw [hc] at hmem
    rcases List.mem_cons.mp hmem with rfl | hmem
    · exact absurd ht hrest
    · exact hmem
  extra t ht := by
    refine (h.extra t (hc ▸ List.mem_cons_of_mem s ht)).imp_left fun hmem => ?_
    rw [hb] at hmem
    rcases List.mem_cons.mp hmem with rfl | hmem
    · exact absurd ht hrest'
    · exact hmem

end Covers

/-- A node is planned once. -/
theorem Sound.notMem_rest {width : Nat} {done : List Nat} {b : Beam} {s : Scored}
    {rest : List Scored} (h : Sound metric nodes query width level entries done b)
    (hpending : b.pending = s :: rest) : s ∉ rest := by
  have hplan := h.planDistinct
  rw [hpending, List.map_cons, List.cons_append, List.nodup_cons] at hplan
  exact fun hs => hplan.1 (List.mem_append_left _ (List.mem_map_of_mem hs))

variable (metric nodes query level entries narrow wide) in
/-- A wide beam `c` keeps up with a narrow beam `b`: both have seen the same nodes and gone on from
the same ones, and the plan of the wide one covers that of the narrow one. -/
structure Follows (done : List Nat) (b c : Beam) : Prop where
  narrowSound : Sound metric nodes query narrow level entries done b
  wideSound : Sound metric nodes query wide level entries done c
  seen : c.seen = b.seen
  covers : Covers narrow b c

namespace Follows

variable {done : List Nat} {b c : Beam}

/-- Where the wide beam is full the narrow one is, and keeps nothing farther than the wide one. -/
theorem worstKey_le (h : Follows metric nodes query level entries narrow wide done b c)
    (hpos : 1 ≤ narrow) (hle : narrow ≤ wide) (hfull : wide ≤ c.kept.length) :
    narrow ≤ b.kept.length ∧ b.worstKey ≤ c.worstKey := by
  have hnarrow := h.narrowSound.narrow
  have hdistinct : c.kept.Nodup := h.wideSound.keptDistinct.of_map
  by_cases hsub : c.kept ⊆ b.kept
  · -- Both keep the same nodes then, because the narrow beam has no room for more.
    have hpart := List.subperm_of_subset hdistinct hsub
    have hsame := hpart.perm_of_length_le (by omega)
    have hlength := hpart.length_le
    refine ⟨by omega, Beam.worstKey_le (List.ne_nil_of_length_pos (by omega)) ?_⟩
    intro t ht
    exact rankKey_le_worstKey h.wideSound.keptOrdered (hsame.mem_iff.mpr ht)
  · obtain ⟨t, ht, hmissing⟩ : ∃ t ∈ c.kept, t ∉ b.kept := by
      simpa [List.subset_def] using hsub
    obtain ⟨hmeasured, hseen⟩ := h.wideSound.keptSeen t ht
    rw [h.seen] at hseen
    obtain ⟨hroom, hnear⟩ :=
      (h.narrowSound.weighed t hmeasured hseen).resolve_left hmissing
    refine ⟨hroom, Beam.worstKey_le (List.ne_nil_of_length_pos (by omega)) ?_⟩
    intro u hu
    exact (hnear u hu).trans (rankKey_le_worstKey h.wideSound.keptOrdered ht)

/-- What the narrow beam has room for the wide one has room for. -/
theorem hasRoomFor (h : Follows metric nodes query level entries narrow wide done b c)
    (hpos : 1 ≤ narrow) (hle : narrow ≤ wide) {distance : Single}
    (hroom : b.hasRoomFor narrow distance = true) : c.hasRoomFor wide distance = true := by
  by_contra hfull
  simp only [Beam.hasRoomFor, Bool.or_eq_true, decide_eq_true_eq, not_or, not_lt] at hroom hfull
  obtain ⟨hlength, hworst⟩ := h.worstKey_le hpos hle hfull.1
  omega

/-- Where the wide beam has settled the narrow one has. -/
theorem isSettled (h : Follows metric nodes query level entries narrow wide done b c)
    (hpos : 1 ≤ narrow) (hle : narrow ≤ wide) {s : Scored}
    (hsettled : c.isSettled wide s = true) : b.isSettled narrow s = true := by
  simp only [Beam.isSettled, Bool.and_eq_true, decide_eq_true_eq] at hsettled ⊢
  obtain ⟨hlength, hworst⟩ := h.worstKey_le hpos hle hsettled.1
  omega

/-- Two beams that look at the same node stay together, if the wide one wants what the narrow one
wants and what the narrow one does not want is closed out. -/
theorem visit {wanted wanted' : Beam → Single → Bool} {i : Nat}
    (h : Follows metric nodes query level entries narrow wide done b c)
    (hwanted : ∀ (b : Beam) (s : Scored), b.kept.Pairwise (fun s t => t.rank ≤ s.rank) →
      wanted b s.distance = false → b.Closes narrow s)
    (hwanted' : ∀ (b : Beam) (s : Scored), b.kept.Pairwise (fun s t => t.rank ≤ s.rank) →
      wanted' b s.distance = false → b.Closes wide s)
    (hmore : ∀ seen distance, wanted { b with seen } distance = true →
      wanted' { c with seen } distance = true)
    (hi : i < nodes.size) (hreach : Reachable nodes level entries i) :
    ∃ b' c', Beam.visit metric nodes query narrow wanted b i = some b' ∧
      Beam.visit metric nodes query wide wanted' c i = some c' ∧
      Follows metric nodes query level entries narrow wide done b' c' := by
  obtain ⟨b', hb', hsound, -⟩ := visit_sound h.narrowSound hwanted hi hreach
  obtain ⟨c', hc', hsound', -⟩ := visit_sound h.wideSound hwanted' hi hreach
  refine ⟨b', c', hb', hc', ?_⟩
  have hn := Array.getElem?_eq_getElem hi
  have hcases := visit_cases metric query narrow wanted hn (hi.trans_le h.narrowSound.room)
  have hcases' := visit_cases metric query wide wanted' hn (hi.trans_le h.wideSound.room)
  simp only [hb', Option.some.injEq] at hcases
  simp only [hc', Option.some.injEq, h.seen] at hcases'
  rcases hcases with ⟨hold, rfl⟩ | ⟨hnew, hb⟩
  · rcases hcases' with ⟨-, rfl⟩ | ⟨hnew, -⟩
    · exact h
    · exact absurd hold hnew
  rcases hcases' with ⟨hold, -⟩ | ⟨-, hc⟩
  · exact absurd hold hnew
  let seen := (b.seen.insert i).2
  have hcovers : Covers narrow { b with seen } { c with seen } := ⟨h.covers.planned, h.covers.extra⟩
  by_cases hwant : wanted { b with seen } (metric query nodes[i].vector) = true
  · rw [if_pos hwant] at hb
    rw [if_pos (hmore seen _ hwant)] at hc
    subst hb hc
    exact ⟨hsound, hsound', rfl, hcovers.keep h.narrowSound.narrow h.narrowSound.keptOrdered⟩
  · rw [if_neg hwant] at hb
    have hcloses : Closes narrow { b with seen } ⟨metric query nodes[i].vector, i⟩ :=
      hwanted _ _ h.narrowSound.keptOrdered (by simpa using hwant)
    split at hc <;> subst hb hc
    · exact ⟨hsound, hsound', rfl, hcovers.keep_wide hcloses⟩
    · exact ⟨hsound, hsound', rfl, hcovers⟩

theorem visitAll (wanted wanted' : Beam → Single → Bool)
    (h : Follows metric nodes query level entries narrow wide done b c)
    (hwanted : ∀ (b : Beam) (s : Scored), b.kept.Pairwise (fun s t => t.rank ≤ s.rank) →
      wanted b s.distance = false → b.Closes narrow s)
    (hwanted' : ∀ (b : Beam) (s : Scored), b.kept.Pairwise (fun s t => t.rank ≤ s.rank) →
      wanted' b s.distance = false → b.Closes wide s)
    (hmore : ∀ b c, Follows metric nodes query level entries narrow wide done b c →
      ∀ seen distance, wanted { b with seen } distance = true →
        wanted' { c with seen } distance = true)
    (l : List Nat) (hl : ∀ i ∈ l, i < nodes.size ∧ Reachable nodes level entries i) :
    ∃ b' c', l.foldlM (Beam.visit metric nodes query narrow wanted) b = some b' ∧
      l.foldlM (Beam.visit metric nodes query wide wanted') c = some c' ∧
      Follows metric nodes query level entries narrow wide done b' c' := by
  induction l generalizing b c with
  | nil => exact ⟨b, c, rfl, rfl, h⟩
  | cons i rest ih =>
      obtain ⟨hi, hreach⟩ := hl i List.mem_cons_self
      obtain ⟨b₁, c₁, hb, hc, h₁⟩ := h.visit hwanted hwanted' (hmore b c h) hi hreach
      obtain ⟨b₂, c₂, hb₂, hc₂, h₂⟩ := ih h₁ fun j hj => hl j (List.mem_cons_of_mem i hj)
      exact ⟨b₂, c₂, by simp [List.foldlM_cons, hb, hb₂], by simp [List.foldlM_cons, hc, hc₂], h₂⟩

/-- As long as the narrow beam has not settled, the node that it goes on from next is the next one
of the wide beam as well. -/
theorem next_eq (h : Follows metric nodes query level entries narrow wide done b c)
    (hapart : Apart metric nodes query) (hpos : 1 ≤ narrow) {s t : Scored}
    {rest rest' : List Scored} (hb : b.pending = s :: rest) (hc : c.pending = t :: rest')
    (hsettled : ¬ b.isSettled narrow s = true) : t = s := by
  obtain ⟨hmeasured, -⟩ := h.narrowSound.pendingSeen s (hb ▸ List.mem_cons_self)
  obtain ⟨hmeasured', -⟩ := h.wideSound.pendingSeen t (hc ▸ List.mem_cons_self)
  have hfirst : t.rank ≤ s.rank := by
    have hordered := h.wideSound.pendingOrdered
    have hlater := h.covers.planned s (hb ▸ List.mem_cons_self)
    rw [hc] at hordered hlater
    rcases List.mem_cons.mp hlater with rfl | hlater
    · exact le_refl _
    · exact (List.pairwise_cons.mp hordered).1 s hlater
  rcases h.covers.extra t (hc ▸ List.mem_cons_self) with hold | ⟨hfull, hnear⟩
  · have hordered := h.narrowSound.pendingOrdered
    rw [hb] at hordered hold
    rcases List.mem_cons.mp hold with rfl | hold
    · rfl
    · have hrank := le_antisymm hfirst ((List.pairwise_cons.mp hordered).1 t hold)
      exact hmeasured'.eq_of_node hmeasured (congrArg (fun r => (ofLex r).2) hrank)
  · -- A node that the narrow beam has closed out comes first only where it has settled.
    by_contra hne
    have hkey : t.distance.rankKey < s.distance.rankKey :=
      lt_of_le_of_ne (Scored.rankKey_le_of_rank_le hfirst)
        fun hkey => hne (hapart.eq_of_rankKey hmeasured' hmeasured hkey)
    have hworst := Beam.worstKey_le (List.ne_nil_of_length_pos (by omega)) hnear
    apply hsettled
    simp only [Beam.isSettled, Bool.and_eq_true, decide_eq_true_eq]
    omega

/-- As long as the narrow beam has not settled, both go on from the same node. -/
theorem pop (h : Follows metric nodes query level entries narrow wide done b c)
    (hapart : Apart metric nodes query) (hpos : 1 ≤ narrow) {s : Scored} {rest : List Scored}
    (hb : b.pending = s :: rest) (hsettled : ¬ b.isSettled narrow s = true) :
    ∃ rest', c.pending = s :: rest' ∧
      Follows metric nodes query level entries narrow wide (s.node :: done)
        { b with pending := rest } { c with pending := rest' } := by
  have hs := h.covers.planned s (hb ▸ List.mem_cons_self)
  obtain ⟨t, rest', hc⟩ := List.exists_cons_of_ne_nil (List.ne_nil_of_mem hs)
  cases h.next_eq hapart hpos hb hc hsettled
  exact ⟨rest', hc,
    { narrowSound := pop_sound h.narrowSound hb
      wideSound := pop_sound h.wideSound hc
      seen := h.seen
      covers := h.covers.pop hb hc (h.narrowSound.notMem_rest hb) (h.wideSound.notMem_rest hc) }⟩

/-- The wide search ends with no less seen than both beams have seen before. -/
theorem seen_of_expand (hrange : LinksInRange nodes) (hentries : ∀ e ∈ entries, e < nodes.size)
    {steps : Nat} {c' : Beam}
    (h : Follows metric nodes query level entries narrow wide done b c)
    (hfollowed : FollowedUp nodes level done b) (hsteps : nodes.size ≤ done.length + steps)
    (hc : expand metric nodes query wide level steps c = some c') :
    ∀ i, b.seen.Seen i → c'.seen.Seen i := by
  have hfollowed' : FollowedUp nodes level done c := by
    intro j hj k hlink
    rw [h.seen]
    exact hfollowed j hj k hlink
  obtain ⟨c'', -, hexpand, -, -, hmono, -⟩ :=
    expand_sound hrange hentries steps h.wideSound hfollowed' hsteps
  cases Option.some.inj (hc.symm.trans hexpand)
  intro i hi
  exact hmono i (h.seen ▸ hi)

/-- Whatever the narrow search has seen when it ends, the wide one has seen when it ends. -/
theorem expand_seen (hapart : Apart metric nodes query) (hrange : LinksInRange nodes)
    (hentries : ∀ e ∈ entries, e < nodes.size) (hpos : 1 ≤ narrow) (hle : narrow ≤ wide)
    (steps : Nat) {done : List Nat} {b c b' c' : Beam}
    (h : Follows metric nodes query level entries narrow wide done b c)
    (hfollowed : FollowedUp nodes level done b) (hsteps : nodes.size ≤ done.length + steps)
    (hb : expand metric nodes query narrow level steps b = some b')
    (hc : expand metric nodes query wide level steps c = some c') :
    ∀ i, b'.seen.Seen i → c'.seen.Seen i := by
  -- The induction follows the narrow search. Once that has ended, the wide one can only see more.
  induction steps generalizing done b c with
  | zero =>
      cases expand_zero hb
      exact h.seen_of_expand hrange hentries hfollowed hsteps hc
  | succ steps ih =>
      cases hpending : b.pending with
      | nil =>
          cases Option.some.inj (hb.symm.trans (expand_drained _ hpending))
          exact h.seen_of_expand hrange hentries hfollowed hsteps hc
      | cons s rest =>
          by_cases hsettled : b.isSettled narrow s = true
          · cases Option.some.inj (hb.symm.trans (expand_settled _ hpending hsettled))
            exact h.seen_of_expand hrange hentries hfollowed hsteps hc
          · obtain ⟨rest', hpending', hpopped⟩ := h.pop hapart hpos hpending hsettled
            have hsettled' : ¬ c.isSettled wide s = true := fun hwide =>
              hsettled (h.isSettled hpos hle hwide)
            obtain ⟨⟨n, hn, -⟩, hseen⟩ :=
              h.narrowSound.pendingSeen s (hpending ▸ List.mem_cons_self)
            have hlinks := (h.narrowSound.reached s.node hseen).linksOn hrange hn
            obtain ⟨b₁, c₁, hb₁, hc₁, h₁⟩ := hpopped.visitAll
              (Beam.hasRoomFor narrow) (Beam.hasRoomFor wide)
              (fun b s hordered hroom => closes_of_not_hasRoomFor hordered hroom)
              (fun c s hordered hroom => closes_of_not_hasRoomFor hordered hroom)
              (fun b c h _ _ hroom => h.hasRoomFor hpos hle hroom) (n.linksOn level) hlinks
            obtain ⟨b₂, hb₂, -, hmarks⟩ := visitAll_sound (Beam.hasRoomFor narrow)
              hpopped.narrowSound
              (fun b s hordered hroom => closes_of_not_hasRoomFor hordered hroom)
              (n.linksOn level) hlinks
            cases Option.some.inj (hb₁.symm.trans hb₂)
            rw [expand_step steps hpending hsettled hn, hb₁] at hb
            rw [expand_step steps hpending' hsettled' hn, hc₁] at hc
            exact ih h₁ (hfollowed.cons hn hmarks) (by simp only [List.length_cons]; omega) hb hc

end Follows

end Search

end Beam

end Vicinity.Graph
