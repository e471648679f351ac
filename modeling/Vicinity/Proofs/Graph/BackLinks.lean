import Vicinity.Proofs.Graph.Growth

/-!
Links that are not answered. A node is linked back by the nodes that it is linked to, and only a
list that is full gives a link up again. A list that is full stays full, so at every stage of a
build a link that is not answered leads to a node whose own list is full.
-/

namespace Vicinity.Graph

section Prune

variable {metric : Metric} {nodes : Array Node} {base : Encoded} {m : Nat} {links : List Nat}

/-- A list that is cut is left full. -/
theorem prune_full (hdistinct : links.Nodup) (hin : ∀ c ∈ links, c < nodes.size)
    (hlong : m ≤ links.length) : (prune metric nodes base m links).length = m := by
  by_cases hshort : links.length ≤ m
  · rw [prune_eq_self hshort]
    exact Nat.le_antisymm hshort hlong
  · have hall : ((rescored metric nodes base links).map Scored.node).length = links.length :=
      congrArg List.length (rescored_nodes hin)
    rw [List.length_map] at hall
    rw [prune_eq_selectLinks hshort, selectLinks_length metric nodes m
      (hdistinct.sublist rescored_sublist), hall]
    exact Nat.min_eq_left hlong

/-- A list given to be cut keeps all its links, or it is left full. -/
theorem prune_keeps (metric : Metric) (base : Encoded) (m : Nat) (hdistinct : links.Nodup)
    (hin : ∀ c ∈ links, c < nodes.size) :
    prune metric nodes base m links = links ∨ (prune metric nodes base m links).length = m := by
  by_cases hshort : links.length ≤ m
  · exact Or.inl (prune_eq_self hshort)
  · exact Or.inr (prune_full hdistinct hin (Nat.le_of_not_le hshort))

end Prune

/-- What holds of links at every stage of a build: where a link is not answered the list that should
answer it is full, and every node but the first has a link on level zero. -/
structure Answered (g : Graph) : Prop where
  full : ∀ level a b, b ∈ linksOf g.nodes level a → a ∈ linksOf g.nodes level b ∨
    (linksOf g.nodes level b).length = g.config.maxLinks level
  attached : ∀ i, 0 < i → i < g.size → linksOf g.nodes 0 i ≠ []

namespace Inserted

variable {metric : Metric} {g g' : Graph} {e : Entry} {level : Nat} {chosen : Nat → List Nat}

/-- An old list after an insertion: it is given the new node where that one has chosen it, and keeps
everything unless it is full then. -/
theorem linksOf_old (h : Inserted metric g e level chosen g') (hg : g.WellFormed) {l i : Nat}
    (hi : i < g.size) :
    (linksOf g'.nodes l i = linksOf g.nodes l i ∧ i ∉ chosen l) ∨
    (linksOf g'.nodes l i = linksOf g.nodes l i ++ [g.size] ∧ i ∈ chosen l) ∨
    (linksOf g'.nodes l i).length = g.config.maxLinks l := by
  rcases h.linksOf_cases hg l i with ⟨rfl, -⟩ | ⟨hchosen, -, base, heq⟩ | ⟨hnot, -, heq⟩
  · exact absurd hi (lt_irrefl _)
  · have hin : ∀ c ∈ linksOf g.nodes l i ++ [g.size], c < g'.nodes.size := by
      intro c hc
      have hsize : g'.nodes.size = g.size + 1 := h.size_eq
      rcases List.mem_append.mp hc with hold | hnew
      · have hlt := hg.inRange l i c hold
        omega
      · rw [List.mem_singleton.mp hnew]
        omega
    rcases prune_keeps metric base (g.config.maxLinks l) (hg.append_nodup l i) hin with
      hkept | hfull
    · exact Or.inr (Or.inl ⟨heq.trans hkept, hchosen⟩)
    · exact Or.inr (Or.inr (heq ▸ hfull))
  · exact Or.inl ⟨heq, hnot⟩

/-- A list that is full stays full. -/
theorem stays_full (h : Inserted metric g e level chosen g') (hg : g.WellFormed) {l i : Nat}
    (hi : i < g.size) (hfull : (linksOf g.nodes l i).length = g.config.maxLinks l) :
    (linksOf g'.nodes l i).length = g.config.maxLinks l := by
  rcases h.linksOf_old hg hi with ⟨heq, -⟩ | ⟨heq, -⟩ | hstill
  · rw [heq]
    exact hfull
  · -- The list would be longer than the limit.
    have hnarrow := (h.wellFormed hg).narrow l i
    rw [h.config, heq, List.length_append, List.length_singleton] at hnarrow
    omega
  · exact hstill

/-- An insertion adds answered links only, and takes none away but from full lists. -/
theorem answered (h : Inserted metric g e level chosen g') (hg : g.WellFormed)
    (hroom : 1 ≤ g.config.maxLinks 0) (ha : Answered g) : Answered g' where
  full := by
    intro l a b hb
    rw [h.config]
    rcases h.mem_linksOf hg hb with ⟨rfl, hchosen⟩ | ⟨hchosen, rfl⟩ | hold
    · -- A link of the new node, which has been linked back.
      have hblt := height_pos_lt (h.chosen_standing hg hchosen).2
      rcases h.linksOf_old hg hblt with ⟨-, hnot⟩ | ⟨heq, -⟩ | hfull
      · exact absurd hchosen hnot
      · rw [heq]
        exact Or.inl (List.mem_append_right _ (List.mem_singleton.mpr rfl))
      · exact Or.inr hfull
    · -- A link back to the new node.
      rw [h.newLinks]
      exact Or.inl hchosen
    · have hblt := hg.inRange l a b hold
      rcases ha.full l a b hold with hanswer | hfull
      · rcases h.linksOf_old hg hblt with ⟨heq, -⟩ | ⟨heq, -⟩ | hfull
        · rw [heq]
          exact Or.inl hanswer
        · rw [heq]
          exact Or.inl (List.mem_append_left _ hanswer)
        · exact Or.inr hfull
      · exact Or.inr (h.stays_full hg hblt hfull)
  attached := by
    intro i hpos hi
    rw [h.size_eq] at hi
    rcases (Nat.lt_succ_iff.mp hi).lt_or_eq with hlt | rfl
    · have hold := ha.attached i hpos hlt
      rcases h.linksOf_old hg hlt with ⟨heq, -⟩ | ⟨heq, -⟩ | hfull
      · rw [heq]
        exact hold
      · rw [heq]
        exact List.append_ne_nil_of_left_ne_nil hold _
      · intro hnil
        rw [hnil, List.length_nil] at hfull
        omega
    · rw [h.newLinks]
      exact h.chosen_ne_nil hg hroom

end Inserted

theorem first_answered (g : Graph) (e : Entry) (level : Nat) : Answered (first g e level) where
  full := by simp [linksOf_first]
  attached := by
    intro i hpos hi
    have hzero : i = 0 := by simpa [first, size] using hi
    omega

theorem empty_answered (config : GraphConfig) : Answered (empty config) where
  full := by simp [empty, linksOf]
  attached := by simp [empty, size]

namespace Step

variable {metric : Metric} {level : Nat} {e : Entry} {g g' : Graph}

theorem answered (h : Step metric level e g g') (hg : g.WellFormed)
    (hroom : 1 ≤ g.config.maxLinks 0) (ha : Answered g) : Answered g' := by
  cases h with
  | first _ hfirst =>
      rw [hfirst]
      exact first_answered g e level
  | later chosen hinserted => exact hinserted.answered hg hroom ha

theorem stays_full (h : Step metric level e g g') (hg : g.WellFormed) {l i : Nat}
    (hi : i < g.size) (hfull : (linksOf g.nodes l i).length = g.config.maxLinks l) :
    (linksOf g'.nodes l i).length = g.config.maxLinks l := by
  cases h with
  | first hentry _ =>
      rw [hg.started hentry] at hi
      exact absurd hi (Nat.not_lt_zero i)
  | later chosen hinserted => exact hinserted.stays_full hg hi hfull

end Step

/-- Insertions one after the other can be stopped anywhere and gone on with. -/
theorem insertAll_append (metric : Metric) (levels : Nat → Nat) (g : Graph) (marks : Visited)
    (front back : List Entry) :
    insertAll metric levels g marks (front ++ back) =
      (insertAll metric levels g marks front).bind fun r =>
        insertAll metric levels r.1 r.2 back := by
  induction front generalizing g marks with
  | nil => rfl
  | cons e rest ih =>
      rw [List.cons_append, insertAll, insertAll]
      cases hinsert : insert metric g marks e (levels g.size) with
      | none => rfl
      | some r => exact ih r.1 r.2

/-- Going on from any stage of a build, every link that is not answered leads to a full list again,
and the lists that are full now will be full then. -/
theorem insertAll_answered (metric : Metric) (levels : Nat → Nat) (rest : List Entry) {g : Graph}
    (hg : g.WellFormed) (hroom : 1 ≤ g.config.maxLinks 0) (ha : Answered g) {marks : Visited}
    (hmarks : marks.Dated) :
    ∃ g' marks', insertAll metric levels g marks rest = some (g', marks') ∧ marks'.Dated ∧
      g'.WellFormed ∧ g'.config = g.config ∧ entriesOf g'.nodes = entriesOf g.nodes ++ rest ∧
      Answered g' ∧ ∀ l, ∀ i < g.size, (linksOf g.nodes l i).length = g.config.maxLinks l →
        (linksOf g'.nodes l i).length = g.config.maxLinks l := by
  obtain ⟨g', marks', hrun, hmarks', hg', hconfig, hentries, ha', -, -, hfull⟩ :=
    insertAll_induction metric levels
      (P := fun g₁ => Answered g₁ ∧ g₁.config = g.config ∧ g.size ≤ g₁.size ∧
        ∀ l, ∀ i < g.size, (linksOf g.nodes l i).length = g.config.maxLinks l →
          (linksOf g₁.nodes l i).length = g.config.maxLinks l)
      (fun g₁ g₂ e hg₁ _ _ ⟨ha₁, hconfig₁, hsize₁, hfull₁⟩ hstep => by
        refine ⟨hstep.answered hg₁ (hconfig₁ ▸ hroom) ha₁, hstep.config.trans hconfig₁, ?_, ?_⟩
        · have hlength := congrArg List.length (hstep.entries hg₁)
          simp only [entriesOf_length, List.length_append, List.length_singleton] at hlength
          unfold size at *
          omega
        · intro l i hi hlist
          have hstill := hfull₁ l i hi hlist
          rw [← hconfig₁] at hstill ⊢
          exact hstep.stays_full hg₁ (hi.trans_le hsize₁) hstill)
      rest hg rfl ⟨ha, rfl, le_refl _, fun _ _ _ => id⟩ hmarks
  exact ⟨g', marks', hrun, hmarks', hg', hconfig, hentries, ha', hfull⟩

/-- Only nodes of the table have links. -/
theorem lt_of_linksOf_length_pos {nodes : Array Node} {level i : Nat}
    (h : 0 < (linksOf nodes level i).length) : i < nodes.size := by
  by_contra hpast
  simp [linksOf, Array.getElem?_eq_none (Nat.le_of_not_lt hpast)] at h

end Vicinity.Graph
