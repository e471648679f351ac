import Vicinity.Proofs.Graph.Insertion

/-!
Building as a run of insertions. Each step gives a result and keeps the graph well formed, and a
property that every step keeps holds of what is built.
-/

namespace Vicinity.Graph

def first (g : Graph) (e : Entry) (level : Nat) : Graph :=
  { g with
    nodes := #[⟨e.id, e.vector, List.replicate (level + 1) []⟩]
    entry := some 0
    maxLevel := level }

theorem insert_first (metric : Metric) {g : Graph} (hg : g.WellFormed) (hentry : g.entry = none)
    (marks : Visited) (e : Entry) (level : Nat) :
    insert metric g marks e level = some (first g e level, marks) := by
  have hsize := hg.started hentry
  unfold insert first
  rw [hentry]
  simp [hsize, Array.eq_empty_of_size_eq_zero hsize]

/-- The only list of links in a graph with one node is empty. -/
theorem linksOf_first (g : Graph) (e : Entry) (level l i : Nat) :
    linksOf (first g e level).nodes l i = [] := by
  unfold linksOf first Node.linksOn
  cases i with
  | zero =>
      simp only [List.getElem?_toArray, List.getElem?_cons_zero, Option.map_some,
        Option.getD_some, List.getElem?_replicate]
      split <;> rfl
  | succ i => rfl

theorem height_first (g : Graph) (e : Entry) (level i : Nat) :
    height (first g e level).nodes i = if i = 0 then level + 1 else 0 := by
  unfold height first
  cases i with
  | zero => simp
  | succ i => rfl

theorem first_wellFormed (g : Graph) (e : Entry) (level : Nat) : (first g e level).WellFormed := by
  refine
    { inRange := ?_, distinct := ?_, noLoop := ?_, grounded := ?_, standing := ?_, narrow := ?_
      low := ?_, entryTop := ?_, started := ?_ }
  · simp [linksOf_first]
  · simp [linksOf_first]
  · simp [linksOf_first]
  · intro i hi
    have hzero : i = 0 := by simpa [first, size] using hi
    simp [height_first, hzero]
  · simp [linksOf_first]
  · simp [linksOf_first]
  · intro i
    rw [height_first]
    split
    · exact le_refl _
    · exact Nat.zero_le _
  · intro entry hentry
    have hzero : entry = 0 := (Option.some.inj hentry).symm
    rw [height_first, if_pos hzero]
    rfl
  · intro hnone
    exact absurd hnone (by simp [first])

/-- All that one insertion can do. -/
inductive Step (metric : Metric) (level : Nat) (e : Entry) (g g' : Graph) : Prop where
  | first (hentry : g.entry = none) (hfirst : g' = first g e level)
  | later (chosen : Nat → List Nat) (hinserted : Inserted metric g e level chosen g')

/-- An insertion into a well-formed graph always gives a result. -/
theorem insert_step (metric : Metric) {g : Graph} (hg : g.WellFormed) (e : Entry) (level : Nat)
    {marks : Visited} (hmarks : marks.Dated) :
    ∃ g' marks', insert metric g marks e level = some (g', marks') ∧ marks'.Dated ∧
      Step metric level e g g' := by
  cases hentry : g.entry with
  | none =>
      exact ⟨_, marks, insert_first metric hg hentry marks e level, hmarks, Step.first hentry rfl⟩
  | some entry =>
      obtain ⟨g', marks', chosen, hinsert, hmarks', hinserted⟩ :=
        insert_inserted metric hg e level hentry hmarks
      exact ⟨g', marks', hinsert, hmarks', Step.later chosen hinserted⟩

namespace Step

variable {metric : Metric} {level : Nat} {e : Entry} {g g' : Graph}

theorem wellFormed (h : Step metric level e g g') (hg : g.WellFormed) : g'.WellFormed := by
  cases h with
  | first _ hfirst =>
      rw [hfirst]
      exact first_wellFormed g e level
  | later chosen hinserted => exact hinserted.wellFormed hg

theorem config (h : Step metric level e g g') : g'.config = g.config := by
  cases h with
  | first _ hfirst => rw [hfirst, Graph.first]
  | later chosen hinserted => exact hinserted.config

theorem entries (h : Step metric level e g g') (hg : g.WellFormed) :
    entriesOf g'.nodes = entriesOf g.nodes ++ [e] := by
  cases h with
  | first hentry hfirst =>
      have hempty := Array.eq_empty_of_size_eq_zero (hg.started hentry)
      rw [hfirst, hempty]
      rfl
  | later chosen hinserted => exact hinserted.entries

theorem maxLevel_le (h : Step metric level e g g') {bound : Nat} (hlevel : level ≤ bound)
    (hg : g.maxLevel ≤ bound) : g'.maxLevel ≤ bound := by
  cases h with
  | first _ hfirst =>
      rw [hfirst]
      exact hlevel
  | later chosen hinserted =>
      rcases hinserted.top with ⟨_, _, hmax⟩ | ⟨_, _, hmax⟩
      · rw [hmax]
        exact hlevel
      · rw [hmax]
        exact hg

end Step

/-- A property that every insertion keeps holds after all of them. -/
theorem insertAll_induction (metric : Metric) (levels : Nat → Nat) {all : List Entry}
    {P : Graph → Prop}
    (hstep : ∀ g g' e, g.WellFormed → entriesOf g.nodes = all.take g.size →
      all[g.size]? = some e → P g → Step metric (levels g.size) e g g' → P g')
    (rest : List Entry) {g : Graph} (hg : g.WellFormed) (hall : entriesOf g.nodes ++ rest = all)
    (hP : P g) {marks : Visited} (hmarks : marks.Dated) :
    ∃ g' marks', insertAll metric levels g marks rest = some (g', marks') ∧ marks'.Dated ∧
      g'.WellFormed ∧ g'.config = g.config ∧ entriesOf g'.nodes = all ∧ P g' := by
  induction rest generalizing g marks with
  | nil => exact ⟨g, marks, rfl, hmarks, hg, rfl, by simpa using hall, hP⟩
  | cons e rest ih =>
      obtain ⟨g₁, marks₁, hinsert, hmarks₁, hone⟩ :=
        insert_step metric hg e (levels g.size) hmarks
      -- The nodes carry the first of all entries, so the next one goes to the next place.
      have hlength := entriesOf_length g.nodes
      have hdone : entriesOf g.nodes = all.take g.size := by
        rw [← hall, size, ← hlength, List.take_left]
      have hnext : all[g.size]? = some e := by
        rw [← hall, List.getElem?_append_right (by rw [hlength]; exact le_refl _), hlength, size,
          Nat.sub_self, List.getElem?_cons_zero]
      obtain ⟨g₂, marks₂, hrest, hmarks₂, hg₂, hconfig, hentries, hP₂⟩ := ih (hone.wellFormed hg)
        (by rw [hone.entries hg, List.append_assoc]; exact hall)
        (hstep g g₁ e hg hdone hnext hP hone) hmarks₁
      refine ⟨g₂, marks₂, ?_, hmarks₂, hg₂, hconfig.trans hone.config, hentries, hP₂⟩
      rw [insertAll, hinsert, Option.bind_eq_bind, Option.bind_some]
      exact hrest

/-- Building always gives a result, and one with every property that each insertion keeps. -/
theorem build_induction (metric : Metric) (levels : Nat → Nat) (config : GraphConfig)
    (entries : List Entry) {P : Graph → Prop} (hempty : P (empty config))
    (hstep : ∀ g g' e, g.WellFormed → entriesOf g.nodes = entries.take g.size →
      entries[g.size]? = some e → P g → Step metric (levels g.size) e g g' → P g') :
    ∃ g, build metric levels config entries = some g ∧ g.WellFormed ∧ g.config = config ∧
      entriesOf g.nodes = entries ∧ P g := by
  obtain ⟨g, marks, hbuild, -, hg, hconfig, hentries, hP⟩ := insertAll_induction metric levels
    hstep entries (empty_wellFormed config) rfl hempty Visited.empty_dated
  exact ⟨g, by rw [build, hbuild, Option.map_some], hg, hconfig, hentries, hP⟩

/-- What is built is well formed and holds the entries in their order. -/
theorem build_wellFormed (metric : Metric) (levels : Nat → Nat) (config : GraphConfig)
    (entries : List Entry) :
    ∃ g, build metric levels config entries = some g ∧ g.WellFormed ∧ g.config = config ∧
      entriesOf g.nodes = entries := by
  obtain ⟨g, hbuild, hg, hconfig, hentries, -⟩ := build_induction metric levels config entries
    (P := fun _ => True) trivial (fun _ _ _ _ _ _ _ _ => trivial)
  exact ⟨g, hbuild, hg, hconfig, hentries⟩

section Built

variable {metric : Metric} {levels : Nat → Nat} {config : GraphConfig} {entries : List Entry}
  {g : Graph}

theorem wellFormed_of_build (hbuild : build metric levels config entries = some g) :
    g.WellFormed ∧ g.config = config ∧ entriesOf g.nodes = entries := by
  obtain ⟨_, hbuilt, hg⟩ := build_wellFormed metric levels config entries
  cases Option.some.inj (hbuild.symm.trans hbuilt)
  exact hg

/-- No graph is higher than the highest level that is given. -/
theorem maxLevel_le_of_build (hbuild : build metric levels config entries = some g) {bound : Nat}
    (hlevels : ∀ i, levels i ≤ bound) : g.maxLevel ≤ bound := by
  obtain ⟨_, hbuilt, -, -, -, hlow⟩ := build_induction metric levels config entries
    (P := fun g => g.maxLevel ≤ bound) (Nat.zero_le _)
    (fun _ _ _ _ _ _ hlow hstep => hstep.maxLevel_le (hlevels _) hlow)
  cases Option.some.inj (hbuild.symm.trans hbuilt)
  exact hlow

end Built

end Vicinity.Graph
