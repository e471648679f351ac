import Vicinity.Graph.Basic
import Mathlib.Data.Set.Card
import Mathlib.Logic.Relation

/-!
Links of a node table as a relation on each level, and the nodes that can be reached through them.
What an integrity check accepts is exactly a table whose entry and links stay inside it.
-/

namespace Vicinity.Graph

def Linked (nodes : Array Node) (level a b : Nat) : Prop :=
  ∃ n, nodes[a]? = some n ∧ b ∈ n.linksOn level

/-- No node lists a node that the table does not have. -/
def LinksInRange (nodes : Array Node) : Prop :=
  ∀ level a b, Linked nodes level a b → b < nodes.size

/-- Some of the given nodes leads to a node through links of a level. -/
def Reachable (nodes : Array Node) (level : Nat) (entries : List Nat) (i : Nat) : Prop :=
  ∃ e ∈ entries, Relation.ReflTransGen (Linked nodes level) e i

/-- How many nodes can be reached from the given ones on a level. -/
noncomputable def reachCount (nodes : Array Node) (level : Nat) (entries : List Nat) : Nat :=
  {i | Reachable nodes level entries i}.ncard

theorem Reachable.entry {nodes : Array Node} {level : Nat} {entries : List Nat} {e : Nat}
    (he : e ∈ entries) : Reachable nodes level entries e :=
  ⟨e, he, Relation.ReflTransGen.refl⟩

theorem Reachable.link {nodes : Array Node} {level : Nat} {entries : List Nat} {i j : Nat}
    (h : Reachable nodes level entries i) (hlink : Linked nodes level i j) :
    Reachable nodes level entries j := by
  obtain ⟨e, he, hreach⟩ := h
  exact ⟨e, he, hreach.tail hlink⟩

/-- All neighbours of a reachable node are nodes of the table and reachable. -/
theorem Reachable.linksOn {nodes : Array Node} {level : Nat} {entries : List Nat} {i : Nat}
    {n : Node} (h : Reachable nodes level entries i) (hrange : LinksInRange nodes)
    (hn : nodes[i]? = some n) :
    ∀ j ∈ n.linksOn level, j < nodes.size ∧ Reachable nodes level entries j := by
  intro j hj
  have hlink : Linked nodes level i j := ⟨n, hn, hj⟩
  exact ⟨hrange level i j hlink, h.link hlink⟩

/-- A set of nodes that holds the entries and is closed under links holds all that is reachable. -/
theorem Reachable.closed {nodes : Array Node} {level : Nat} {entries : List Nat} {i : Nat}
    {P : Nat → Prop} (hentries : ∀ e ∈ entries, P e)
    (hlinks : ∀ a b, P a → Linked nodes level a b → P b)
    (h : Reachable nodes level entries i) : P i := by
  obtain ⟨e, he, hreach⟩ := h
  induction hreach with
  | refl => exact hentries e he
  | tail _ hlink ih => exact hlinks _ _ ih hlink

theorem Reachable.lt {nodes : Array Node} {level : Nat} {entries : List Nat} {i : Nat}
    (hrange : LinksInRange nodes) (hentries : ∀ e ∈ entries, e < nodes.size)
    (h : Reachable nodes level entries i) : i < nodes.size :=
  h.closed (P := (· < nodes.size)) hentries fun a b _ hlink => hrange level a b hlink

theorem reachable_finite {nodes : Array Node} {level : Nat} {entries : List Nat}
    (hrange : LinksInRange nodes) (hentries : ∀ e ∈ entries, e < nodes.size) :
    {i | Reachable nodes level entries i}.Finite := by
  refine (Finset.range nodes.size).finite_toSet.subset fun i hi => ?_
  simpa using Reachable.lt hrange hentries hi

/-- Different nodes that are all reachable are at most as many as the reachable nodes. -/
theorem length_le_reachCount {nodes : Array Node} {level : Nat} {entries l : List Nat}
    (hrange : LinksInRange nodes) (hentries : ∀ e ∈ entries, e < nodes.size) (hl : l.Nodup)
    (hreach : ∀ i ∈ l, Reachable nodes level entries i) :
    l.length ≤ reachCount nodes level entries := by
  have hsub : (↑l.toFinset : Set Nat) ⊆ {i | Reachable nodes level entries i} := by
    intro i hi
    exact hreach i (by simpa using hi)
  have hcard := Set.ncard_le_ncard hsub (reachable_finite hrange hentries)
  rwa [Set.ncard_coe_finset, List.toFinset_card_of_nodup hl] at hcard

/-- A list that names every reachable node has no fewer items than there are such nodes. -/
theorem reachCount_le_length {nodes : Array Node} {level : Nat} {entries l : List Nat}
    (hall : ∀ i, Reachable nodes level entries i → i ∈ l) :
    reachCount nodes level entries ≤ l.length := by
  have hsub : {i | Reachable nodes level entries i} ⊆ (↑l.toFinset : Set Nat) := by
    intro i hi
    simpa using hall i hi
  have hcard := Set.ncard_le_ncard hsub (Finset.finite_toSet _)
  rw [Set.ncard_coe_finset] at hcard
  exact hcard.trans l.toFinset_card_le

theorem reachCount_le {nodes : Array Node} {level : Nat} {entries : List Nat}
    (hrange : LinksInRange nodes) (hentries : ∀ e ∈ entries, e < nodes.size) :
    reachCount nodes level entries ≤ nodes.size := by
  have hcount : reachCount nodes level entries ≤ (List.range nodes.size).length :=
    reachCount_le_length fun i hi => List.mem_range.mpr (hi.lt hrange hentries)
  rwa [List.length_range] at hcount

/-- As many different reachable nodes as there are reachable nodes are all of them. -/
theorem mem_of_reachCount_le {nodes : Array Node} {level : Nat} {entries l : List Nat}
    (hrange : LinksInRange nodes) (hentries : ∀ e ∈ entries, e < nodes.size) (hl : l.Nodup)
    (hreach : ∀ i ∈ l, Reachable nodes level entries i)
    (hcount : reachCount nodes level entries ≤ l.length) {i : Nat}
    (hi : Reachable nodes level entries i) : i ∈ l := by
  by_contra hmem
  have hmore : (i :: l).length ≤ reachCount nodes level entries := by
    apply length_le_reachCount hrange hentries (List.nodup_cons.mpr ⟨hmem, hl⟩)
    intro j hj
    rcases List.mem_cons.mp hj with rfl | hj
    · exact hi
    · exact hreach j hj
  rw [List.length_cons] at hmore
  omega

theorem linked_lt {nodes : Array Node} {level a b : Nat} (h : Linked nodes level a b) :
    a < nodes.size := by
  obtain ⟨n, hn, _⟩ := h
  exact (Array.getElem?_eq_some_iff.mp hn).1

/-- No node is loose exactly where all links stay inside the table. -/
theorem firstLooseNode_eq_none_iff (g : Graph) :
    g.firstLooseNode = none ↔ LinksInRange g.nodes := by
  unfold firstLooseNode LinksInRange Linked Node.linksOn size
  rw [List.find?_eq_none]
  simp only [List.any_eq_true, decide_eq_true_eq, not_exists, not_and, not_le]
  constructor
  · rintro h level a b ⟨n, hn, hb⟩
    have hmem : n ∈ g.nodes.toList := Array.mem_toList_iff.mpr (Array.mem_of_getElem? hn)
    cases hlevel : n.links[level]? with
    | none => simp [hlevel] at hb
    | some links =>
        rw [hlevel, Option.getD_some] at hb
        exact h n hmem links (List.mem_of_getElem? hlevel) b hb
  · intro h n hn links hlinks b hb
    obtain ⟨a, ha⟩ := List.mem_iff_getElem?.mp hn
    obtain ⟨level, hlevel⟩ := List.mem_iff_getElem?.mp hlinks
    refine h level a b ⟨n, by simpa using ha, ?_⟩
    rw [hlevel]
    exact hb

/-- A checked graph has its entry and all its links among its nodes, and only a graph without nodes
has no entry. -/
theorem checkIntegrity_eq_ok_iff (g : Graph) :
    g.checkIntegrity = .ok () ↔
      (∀ e, g.entry = some e → e < g.size) ∧ (g.entry = none → g.size = 0) ∧
        LinksInRange g.nodes := by
  rw [← firstLooseNode_eq_none_iff]
  unfold checkIntegrity
  cases hentry : g.entry with
  | none =>
      cases hloose : g.firstLooseNode with
      | none =>
          by_cases hsize : 0 < g.size
          · simp [hsize]
            omega
          · simp [hsize]
            omega
      | some n => by_cases hsize : 0 < g.size <;> simp [hsize]
  | some e =>
      cases hloose : g.firstLooseNode with
      | none =>
          by_cases hsize : g.size ≤ e
          · simp [hsize]
          · simp [hsize]
            omega
      | some n => by_cases hsize : g.size ≤ e <;> simp [hsize]

end Vicinity.Graph
