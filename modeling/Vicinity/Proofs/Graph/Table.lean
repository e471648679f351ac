import Vicinity.Graph.Insert
import Vicinity.Proofs.Graph.Reach

/-!
A node table seen through its entries, the heights of its nodes and the lists of links. Linking
nodes back to a new one changes lists of links only, and each list at most once, so every list
afterwards is known from the table before.
-/

namespace Vicinity.Graph

/-- The links that a node lists on a level; none where there is no such node. -/
def linksOf (nodes : Array Node) (level i : Nat) : List Nat :=
  (nodes[i]?.map fun n => n.linksOn level).getD []

/-- The number of levels that a node stands on. -/
def height (nodes : Array Node) (i : Nat) : Nat :=
  (nodes[i]?.map fun n => n.links.length).getD 0

/-- The stored vectors of a node table with their ids. -/
def entriesOf (nodes : Array Node) : List Entry := nodes.toList.map fun n => ⟨n.id, n.vector⟩

@[simp] theorem entriesOf_length (nodes : Array Node) : (entriesOf nodes).length = nodes.size := by
  simp [entriesOf]

theorem entriesOf_getElem? (nodes : Array Node) (i : Nat) :
    (entriesOf nodes)[i]? = nodes[i]?.map fun n => ⟨n.id, n.vector⟩ := by
  simp [entriesOf]

theorem linked_iff {nodes : Array Node} {level a b : Nat} :
    Linked nodes level a b ↔ b ∈ linksOf nodes level a := by
  unfold Linked linksOf
  cases nodes[a]? <;> simp

theorem height_pos_lt {nodes : Array Node} {level i : Nat} (h : level < height nodes i) :
    i < nodes.size := by
  unfold height at h
  cases hn : nodes[i]? with
  | none => simp [hn] at h
  | some n => exact (Array.getElem?_eq_some_iff.mp hn).1

section Push

variable (nodes : Array Node) (n : Node)

theorem entriesOf_push : entriesOf (nodes.push n) = entriesOf nodes ++ [⟨n.id, n.vector⟩] := by
  simp [entriesOf]

theorem height_push_self : height (nodes.push n) nodes.size = n.links.length := by
  simp [height]

theorem height_push_of_lt {i : Nat} (hi : i < nodes.size) :
    height (nodes.push n) i = height nodes i := by
  simp [height, Array.getElem?_push, hi.ne]

theorem linksOf_push_self (level : Nat) :
    linksOf (nodes.push n) level nodes.size = n.linksOn level := by
  simp [linksOf]

theorem linksOf_push_of_lt (level : Nat) {i : Nat} (hi : i < nodes.size) :
    linksOf (nodes.push n) level i = linksOf nodes level i := by
  simp [linksOf, Array.getElem?_push, hi.ne]

end Push

/-- Two tables with the same nodes, which may be linked in other ways. -/
structure SameNodes (nodes nodes' : Array Node) : Prop where
  entries : entriesOf nodes' = entriesOf nodes
  heights : ∀ i, height nodes' i = height nodes i

theorem SameNodes.refl (nodes : Array Node) : SameNodes nodes nodes := ⟨rfl, fun _ => rfl⟩

theorem SameNodes.trans {nodes₁ nodes₂ nodes₃ : Array Node} (h : SameNodes nodes₁ nodes₂)
    (h' : SameNodes nodes₂ nodes₃) : SameNodes nodes₁ nodes₃ :=
  ⟨h'.entries.trans h.entries, fun i => (h'.heights i).trans (h.heights i)⟩

/-- Two tables with the same vectors, which may be linked in other ways and carry other ids. -/
def SameVectors (nodes nodes' : Array Node) : Prop :=
  ∀ i : Nat, nodes'[i]?.map Node.vector = nodes[i]?.map Node.vector

section Entries

variable {metric : Metric} {nodes nodes' : Array Node}

theorem vector_congr (h : entriesOf nodes' = entriesOf nodes) : SameVectors nodes nodes' := by
  intro i
  have hi := congrArg (fun l => l[i]?.map Entry.vector) h
  simpa [entriesOf_getElem?, Function.comp_def] using hi

theorem between_congr (h : SameVectors nodes nodes') (a b : Nat) :
    between metric nodes' a b = between metric nodes a b := by
  have hvector : ∀ nodes : Array Node, between metric nodes a b =
      ((nodes[a]?.map Node.vector).bind fun v =>
        (nodes[b]?.map Node.vector).map (metric v)).getD Single.infinity := by
    intro nodes
    unfold between
    cases nodes[a]? <;> cases nodes[b]? <;> rfl
  rw [hvector, hvector, h a, h b]

theorem selectLinks_congr (h : SameVectors nodes nodes') (candidates : List Scored)
    (m : Nat) : selectLinks metric nodes' candidates m = selectLinks metric nodes candidates m := by
  have hbetween : between metric nodes' = between metric nodes :=
    funext fun a => funext fun b => between_congr h a b
  rw [selectLinks, selectLinks, hbetween]

theorem prune_congr (h : SameVectors nodes nodes') (base : Encoded) (m : Nat)
    (links : List Nat) : prune metric nodes' base m links = prune metric nodes base m links := by
  have hscored : ∀ c, (nodes'[c]?.map fun n => (⟨metric base n.vector, c⟩ : Scored)) =
      nodes[c]?.map fun n => ⟨metric base n.vector, c⟩ := by
    intro c
    have hc := congrArg (Option.map fun v => (⟨metric base v, c⟩ : Scored)) (h c)
    simpa [Function.comp_def] using hc
  unfold prune
  simp only [hscored, selectLinks_congr h]

end Entries

/-- The list of links of a node after a new node was linked back to it. -/
def relinked (metric : Metric) (nodes : Array Node) (m newNode i : Nat) (links : List Nat) :
    List Nat :=
  match nodes[i]?.map Node.vector with
  | none => links
  | some base => prune metric nodes base m (links ++ [newNode])

theorem relinked_congr {metric : Metric} {nodes nodes' : Array Node}
    (h : entriesOf nodes' = entriesOf nodes) (m newNode i : Nat) (links : List Nat) :
    relinked metric nodes' m newNode i links = relinked metric nodes m newNode i links := by
  unfold relinked
  rw [vector_congr h i]
  cases nodes[i]?.map Node.vector with
  | none => rfl
  | some base => exact prune_congr (vector_congr h) base m _

section LinkBack

variable (metric : Metric) (m level newNode : Nat) (nodes : Array Node)

/-- Linking one node back changes one list of its links at most. -/
theorem linkBack_spec (i : Nat) :
    SameNodes nodes (linkBack metric m level newNode nodes i) ∧
      ∀ l j, linksOf (linkBack metric m level newNode nodes i) l j =
        if j = i ∧ l = level ∧ level < height nodes i then
          relinked metric nodes m newNode i (linksOf nodes level i)
        else linksOf nodes l j := by
  unfold linkBack
  cases hn : nodes[i]? with
  | none =>
      have hheight : height nodes i = 0 := by simp [height, hn]
      exact ⟨SameNodes.refl nodes, fun l j => by simp [hheight]⟩
  | some n =>
      obtain ⟨hi, hget⟩ := Array.getElem?_eq_some_iff.mp hn
      have hheight : height nodes i = n.links.length := by simp [height, hn]
      dsimp only
      cases hlinks : n.links[level]? with
      | none =>
          have hlow : n.links.length ≤ level := List.getElem?_eq_none_iff.mp hlinks
          refine ⟨SameNodes.refl nodes, fun l j => ?_⟩
          rw [if_neg]
          omega
      | some links =>
          obtain ⟨hlevel, hlist⟩ := List.getElem?_eq_some_iff.mp hlinks
          dsimp only
          refine ⟨⟨?_, fun j => ?_⟩, fun l j => ?_⟩
          · apply List.ext_getElem?
            intro j
            rw [entriesOf_getElem?, entriesOf_getElem?, Array.getElem?_setIfInBounds]
            by_cases hij : i = j
            · subst hij
              simp [hi, hget]
            · simp [hij]
          · unfold height
            rw [Array.getElem?_setIfInBounds]
            by_cases hij : i = j
            · subst hij
              simp [hi, hget]
            · simp [hij]
          · unfold linksOf
            rw [Array.getElem?_setIfInBounds]
            by_cases hij : i = j
            · subst hij
              by_cases hl : l = level
              · subst hl
                simp [hi, hget, hheight, hlevel, hlist, Node.linksOn, relinked]
              · simp [hi, hget, hl, Ne.symm hl, Node.linksOn]
            · simp [hij, Ne.symm hij]

/-- Linking different nodes back changes one list of each. -/
theorem linkBack_foldl_spec {links : List Nat} (hlinks : links.Nodup) :
    SameNodes nodes (links.foldl (linkBack metric m level newNode) nodes) ∧
      ∀ l j, linksOf (links.foldl (linkBack metric m level newNode) nodes) l j =
        if j ∈ links ∧ l = level ∧ level < height nodes j then
          relinked metric nodes m newNode j (linksOf nodes level j)
        else linksOf nodes l j := by
  induction links generalizing nodes with
  | nil => exact ⟨SameNodes.refl nodes, fun l j => by simp⟩
  | cons i rest ih =>
      obtain ⟨hi, hrest⟩ := List.nodup_cons.mp hlinks
      obtain ⟨hsame, hone⟩ := linkBack_spec metric m level newNode nodes i
      obtain ⟨hsame', hothers⟩ := ih (linkBack metric m level newNode nodes i) hrest
      refine ⟨hsame.trans hsame', fun l j => ?_⟩
      rw [List.foldl_cons, hothers, hsame.heights, relinked_congr hsame.entries, hone, hone]
      by_cases hj : j = i
      · subst hj
        simp [hi]
      · simp [hj]

end LinkBack

/-- After a new node was linked back, each list of links that the new node answers to on the same
level has been relinked, and all others are as before. -/
theorem linkBackAll_spec (metric : Metric) (config : GraphConfig) (newNode level : Nat)
    {lists : List (List Nat)} (hlists : ∀ links ∈ lists, links.Nodup) (nodes : Array Node) :
    SameNodes nodes (linkBackAll metric config newNode level lists nodes) ∧
      ∀ l j, linksOf (linkBackAll metric config newNode level lists nodes) l j =
        if level ≤ l ∧ j ∈ lists[l - level]?.getD [] ∧ l < height nodes j then
          relinked metric nodes (config.maxLinks l) newNode j (linksOf nodes l j)
        else linksOf nodes l j := by
  induction lists generalizing level nodes with
  | nil => exact ⟨SameNodes.refl nodes, fun l j => by simp [linkBackAll]⟩
  | cons links rest ih =>
      have hrest : ∀ links ∈ rest, links.Nodup := fun l hl => hlists l (List.mem_cons_of_mem _ hl)
      obtain ⟨hsame, hlowest⟩ := linkBack_foldl_spec metric (config.maxLinks level) level newNode
        nodes (hlists links List.mem_cons_self)
      obtain ⟨hsame', hhigher⟩ := ih (level + 1) hrest
        (links.foldl (linkBack metric (config.maxLinks level) level newNode) nodes)
      refine ⟨hsame.trans hsame', fun l j => ?_⟩
      rw [linkBackAll, hhigher, hsame.heights, relinked_congr hsame.entries, hlowest]
      rcases lt_trichotomy l level with hlt | rfl | hgt
      · rw [if_neg (by omega), if_neg (by omega), if_neg (by omega)]
      · rw [if_neg (by omega)]
        simp
      · have hindex : l - level = l - (level + 1) + 1 := by omega
        have hne : ¬ (j ∈ links ∧ l = level ∧ level < height nodes j) := by omega
        rw [if_neg hne, hindex, List.getElem?_cons_succ]
        have hiff : level + 1 ≤ l ↔ level ≤ l := by omega
        simp only [hiff]

end Vicinity.Graph
