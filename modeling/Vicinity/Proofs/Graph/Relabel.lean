import Vicinity.Proofs.Graph.Table
import Vicinity.Proofs.Json.Records
import Vicinity.Proofs.Relabel

/-!
Graphs over the same vectors under other ids. No step of a search on a level or of a build looks at
an id, so whatever the ids are changed to, the same nodes are found, linked and left out, and the
graph that is built is the same up to the ids that its nodes carry. Only the queue that a search
fills at its end compares ids.
-/

namespace Vicinity

def Node.relabel (f : Int → Int) (n : Node) : Node := { n with id := f n.id }

namespace Graph

variable (f : Int → Int)

def relabelNodes (nodes : Array Node) : Array Node := nodes.map (Node.relabel f)

/-- The graph with other ids. -/
def relabel (g : Graph) : Graph := { g with nodes := relabelNodes f g.nodes }

variable {f}

@[simp] theorem relabelNodes_size (nodes : Array Node) :
    (relabelNodes f nodes).size = nodes.size := Array.size_map

@[simp] theorem relabelNodes_getElem? (nodes : Array Node) (i : Nat) :
    (relabelNodes f nodes)[i]? = nodes[i]?.map (Node.relabel f) := Array.getElem?_map

theorem relabelNodes_push (nodes : Array Node) (e : Entry) (links : List (List Nat)) :
    (relabelNodes f nodes).push ⟨(e.relabel f).id, (e.relabel f).vector, links⟩ =
      relabelNodes f (nodes.push ⟨e.id, e.vector, links⟩) := by
  rw [relabelNodes, relabelNodes, Array.map_push]
  rfl

theorem relabelNodes_set (nodes : Array Node) (i : Nat) (n : Node) :
    relabelNodes f (nodes.setIfInBounds i n) =
      (relabelNodes f nodes).setIfInBounds i (n.relabel f) := Array.map_setIfInBounds

@[simp] theorem relabel_nodes (g : Graph) : (g.relabel f).nodes = relabelNodes f g.nodes := rfl

@[simp] theorem relabel_config (g : Graph) : (g.relabel f).config = g.config := rfl

@[simp] theorem relabel_entry (g : Graph) : (g.relabel f).entry = g.entry := rfl

@[simp] theorem relabel_maxLevel (g : Graph) : (g.relabel f).maxLevel = g.maxLevel := rfl

theorem relabel_empty (config : GraphConfig) : (empty config).relabel f = empty config := by
  simp [relabel, empty, relabelNodes]

@[simp] theorem relabel_size (g : Graph) : (g.relabel f).size = g.size := relabelNodes_size _

/-- Two graphs over the same vectors, with the same nodes on the same levels and linked in the same
way. A node stands on as many levels as it has lists of links. -/
structure SameLinks (g g' : Graph) : Prop where
  config : g'.config = g.config
  entry : g'.entry = g.entry
  maxLevel : g'.maxLevel = g.maxLevel
  links : g'.nodes.map Node.links = g.nodes.map Node.links
  vectors : g'.nodes.map Node.vector = g.nodes.map Node.vector

theorem sameLinks_relabel (g : Graph) : SameLinks g (g.relabel f) where
  config := rfl
  entry := rfl
  maxLevel := rfl
  links := Array.map_map
  vectors := Array.map_map

theorem sameVectors_relabelNodes (nodes : Array Node) :
    SameVectors nodes (relabelNodes f nodes) := by
  intro i
  rw [relabelNodes_getElem?, Option.map_map]
  rfl

section Search

variable (metric : Metric) (nodes : Array Node) (query : Encoded)

theorem Beam.visit_relabel (width : Nat) (wanted : Beam → Single → Bool) :
    visit metric (relabelNodes f nodes) query width wanted =
      visit metric nodes query width wanted := by
  funext b node
  rw [visit, visit, relabelNodes_getElem?]
  cases nodes[node]? <;> rfl

theorem Beam.expand_relabel (width level steps : Nat) (b : Beam) :
    b.expand metric (relabelNodes f nodes) query width level steps =
      b.expand metric nodes query width level steps := by
  induction steps generalizing b with
  | zero => rw [expand, expand]
  | succ steps ih =>
      rw [expand, expand]
      cases b.pending with
      | nil => rfl
      | cons s pending =>
          dsimp only
          rw [relabelNodes_getElem?, visit_relabel]
          cases nodes[s.node]? with
          | none => rfl
          | some n => simp only [Option.map_some, Option.bind_eq_bind, Option.bind_some, ih]; rfl

theorem searchLevel_relabel (entries : List Nat) (ef level : Nat) (marks : Visited) :
    searchLevel metric (relabelNodes f nodes) query entries ef level marks =
      searchLevel metric nodes query entries ef level marks := by
  simp only [searchLevel, Beam.visit_relabel, Beam.expand_relabel, relabelNodes_size]

theorem descend_relabel (floor steps node : Nat) (marks : Visited) :
    descend metric (relabelNodes f nodes) query floor steps node marks =
      descend metric nodes query floor steps node marks := by
  induction steps generalizing node marks with
  | zero => rfl
  | succ steps ih => simp only [descend, searchLevel_relabel, ih]

end Search

section Insert

variable (metric : Metric)

theorem linkBack_relabel (m level newNode : Nat) (nodes : Array Node) (neighbor : Nat) :
    linkBack metric m level newNode (relabelNodes f nodes) neighbor =
      relabelNodes f (linkBack metric m level newNode nodes neighbor) := by
  unfold linkBack
  rw [relabelNodes_getElem?]
  cases nodes[neighbor]? with
  | none => rfl
  | some n =>
      have hlinks : (n.relabel f).links = n.links := rfl
      simp only [Option.map_some, hlinks]
      cases n.links[level]? with
      | none => rfl
      | some links =>
          simp only [prune_congr (sameVectors_relabelNodes nodes)]
          rw [relabelNodes_set]
          rfl

theorem linkBackAll_relabel (config : GraphConfig) (newNode level : Nat)
    (lists : List (List Nat)) (nodes : Array Node) :
    linkBackAll metric config newNode level lists (relabelNodes f nodes) =
      relabelNodes f (linkBackAll metric config newNode level lists nodes) := by
  induction lists generalizing level nodes with
  | nil => rfl
  | cons links rest ih =>
      rw [linkBackAll, linkBackAll, ← ih]
      congr 1
      exact List.foldl_hom (relabelNodes f) fun nodes neighbor =>
        linkBack_relabel metric (config.maxLinks level) level newNode nodes neighbor

theorem linkLists_relabel (g : Graph) (vector : Encoded) (entry levels : Nat)
    (entries : List Nat) (marks : Visited) :
    linkLists metric (g.relabel f) vector entry levels entries marks =
      linkLists metric g vector entry levels entries marks := by
  induction levels generalizing entries marks with
  | zero => rfl
  | succ level ih =>
      simp only [linkLists, ih, relabel_nodes, relabel_config, searchLevel_relabel,
        selectLinks_congr (sameVectors_relabelNodes g.nodes)]

theorem insert_relabel (g : Graph) (marks : Visited) (e : Entry) (level : Nat) :
    insert metric (g.relabel f) marks (e.relabel f) level =
      (insert metric g marks e level).map fun r => (r.1.relabel f, r.2) := by
  unfold insert
  cases hentry : g.entry with
  | none =>
      simp only [relabel_entry, hentry, relabel_nodes, relabelNodes_push, relabel_size]
      rfl
  | some entry =>
      simp only [relabel_entry, hentry, relabel_nodes, relabel_maxLevel, relabel_size,
        relabel_config, descend_relabel, linkLists_relabel, relabelNodes_push, linkBackAll_relabel]
      have hvector : (e.relabel f).vector = e.vector := rfl
      rw [hvector]
      cases descend metric g.nodes e.vector level (g.maxLevel - level) entry marks with
      | none => rfl
      | some r =>
      simp only [Option.bind_eq_bind, Option.bind_some]
      cases linkLists metric g e.vector entry (min level g.maxLevel + 1) [r.1] r.2 with
      | none => rfl
      | some s => by_cases hhigher : g.maxLevel < level <;> simp [hhigher, relabel]

theorem insertAll_relabel (levels : Nat → Nat) (g : Graph) (marks : Visited)
    (entries : List Entry) :
    insertAll metric levels (g.relabel f) marks (entries.map (Entry.relabel f)) =
      (insertAll metric levels g marks entries).map fun r => (r.1.relabel f, r.2) := by
  induction entries generalizing g marks with
  | nil => rfl
  | cons e rest ih =>
      rw [List.map_cons, insertAll, insertAll, insert_relabel, relabel_size]
      cases insert metric g marks e (levels g.size) with
      | none => rfl
      | some r => exact ih r.1 r.2

/-- The graph over a batch is the same up to ids, whatever ids the batch is given. -/
theorem build_relabel (levels : Nat → Nat) (config : GraphConfig) (entries : List Entry) :
    build metric levels config (entries.map (Entry.relabel f)) =
      (build metric levels config entries).map (relabel f) := by
  have hall := insertAll_relabel (f := f) metric levels (empty config) Visited.empty entries
  rw [relabel_empty] at hall
  rw [build, build, hall, Option.map_map, Option.map_map]
  rfl

end Insert

section Answer

theorem neighborAt_relabel (nodes : Array Node) (s : Scored) :
    neighborAt (relabelNodes f nodes) s = (neighborAt nodes s).map (Neighbor.relabel f) := by
  rw [neighborAt, neighborAt, relabelNodes_getElem?, Option.map_map, Option.map_map]
  rfl

theorem ids_of_neighborAt {nodes : Array Node} {found : List Scored} {neighbors : List Neighbor}
    (h : found.mapM (neighborAt nodes) = some neighbors) :
    ∀ n ∈ neighbors, n.id ∈ (entriesOf nodes).map Entry.id := by
  intro n hn
  have hfound : List.Forall₂ (fun n s => neighborAt nodes s = some n) neighbors found :=
    (Json.mapM_forall₂ h).flip
  obtain ⟨s, -, hs⟩ := Json.exists_of_forall₂ hfound hn
  obtain ⟨node, hnode, rfl⟩ := Option.map_eq_some_iff.mp hs
  have hmem : node ∈ nodes.toList := Array.mem_toList_iff.mpr (Array.mem_of_getElem? hnode)
  exact List.mem_map.mpr ⟨⟨node.id, node.vector⟩, List.mem_map_of_mem hmem, rfl⟩

/-- A search of a graph answers under other ids what it answered. -/
theorem search_relabel (metric : Metric) (g : Graph) (query : Encoded) (k : Nat)
    (hf : StrictMonoOn f {id | id ∈ (entriesOf g.nodes).map Entry.id}) :
    search metric (g.relabel f) query k = (search metric g query k).map (TopK.relabel f) := by
  unfold search
  cases hentry : g.entry with
  | none => simp only [relabel_entry, hentry]; rfl
  | some entry =>
      simp only [relabel_entry, hentry]
      by_cases hk : k = 0
      · rw [if_pos hk, if_pos hk]; rfl
      rw [if_neg hk, if_neg hk]
      simp only [relabel_nodes, relabel_maxLevel, relabel_config, relabel_size, descend_relabel,
        searchLevel_relabel, Option.bind_eq_bind]
      cases descend metric g.nodes query 0 g.maxLevel entry Visited.empty with
      | none => rfl
      | some r =>
      simp only [Option.bind_some]
      cases searchLevel metric g.nodes query [r.1] (min (max g.config.efSearch k) g.size) 0 r.2 with
      | none => rfl
      | some s =>
      simp only [Option.bind_some]
      rw [mapM_map_eq (Neighbor.relabel f) (neighborAt_relabel g.nodes) s.1]
      cases hneighbors : s.1.mapM (neighborAt g.nodes) with
      | none => rfl
      | some neighbors =>
          exact congrArg some (TopK.offered_relabel hf k (ids_of_neighborAt hneighbors))

end Answer

end Graph

end Vicinity
