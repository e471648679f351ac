import Vicinity.Index.Layered
import Vicinity.Proofs.Graph.Build

/-!
Building a graph on a machine with a largest number and a largest block of memory. The machine stops
where a number does not fit in a word, or where it is asked to make room for more items than a block
can have. What a build asks for is bounded: by the number of nodes, for the nodes, the marks on them
and the beams, however wide a beam is to be; and by the level of a node, for its lists. Only a list
of links is asked for with room for as many links as there may be.
-/

namespace Vicinity

namespace Checked

/-- A number that fits in a word. -/
def size (n : Nat) : Option Nat := if n ≤ Number.maxWord then some n else none

/-- Makes room for some items of so many bytes each. -/
def room (bytes count : Nat) : Option Unit :=
  if bytes * count ≤ LayeredIndex.maxBlock then some () else none

theorem size_eq {n : Nat} (h : n ≤ Number.maxWord) : size n = some n := if_pos h

theorem size_eq_none {n : Nat} (h : Number.maxWord < n) : size n = none :=
  if_neg (Nat.not_le.mpr h)

theorem room_eq {bytes count : Nat} (h : bytes * count ≤ LayeredIndex.maxBlock) :
    room bytes count = some () := if_pos h

theorem room_eq_none {bytes count : Nat} (h : LayeredIndex.maxBlock < bytes * count) :
    room bytes count = none := if_neg (Nat.not_le.mpr h)

end Checked

namespace Graph

def markBytes : Nat := 4

def linkBytes : Nat := 4

/-- The bytes of a distance with a node. -/
def scoredBytes : Nat := 8

/-- The bytes of a list, without its items. -/
def listBytes : Nat := 24

/-- The bytes of a vector: the kind that it is of, and a list of any kind. -/
def vectorBytes : Nat := 8 + listBytes

/-- The bytes of a node: its id, its vector and its lists of links, without their items. -/
def nodeBytes : Nat := 8 + vectorBytes + listBytes

/-! The machine -/

def searchLevel? (metric : Metric) (nodes : Array Node) (query : Encoded) (entries : List Nat)
    (ef level : Nat) (marks : Visited) : Option (List Scored × Visited) := do
  Checked.room markBytes nodes.size
  let beam ← Checked.size (max 1 (min ef nodes.size) + 1)
  Checked.room scoredBytes beam
  searchLevel metric nodes query entries ef level marks

def descend? (metric : Metric) (nodes : Array Node) (query : Encoded) (floor : Nat) :
    Nat → Nat → Visited → Option (Nat × Visited)
  | 0, node, marks => some (node, marks)
  | steps + 1, node, marks => do
    let (found, marks) ← searchLevel? metric nodes query [node] 1 (floor + steps + 1) marks
    descend? metric nodes query floor steps (nearestOr node found) marks

/-- Makes room for as many links as there may be, whatever the number of candidates. -/
def selectLinks? (metric : Metric) (nodes : Array Node) (candidates : List Scored) (m : Nat) :
    Option (List Nat) := do
  Checked.room linkBytes m
  return selectLinks metric nodes candidates m

def linkLists? (metric : Metric) (g : Graph) (vector : Encoded) (entry : Nat) :
    Nat → List Nat → Visited → Option (List (List Nat) × Visited)
  | 0, _, marks => some ([], marks)
  | level + 1, entries, marks => do
    let (found, marks) ←
      searchLevel? metric g.nodes vector entries g.config.efConstruction level marks
    let links ← selectLinks? metric g.nodes found (g.config.maxLinks level)
    let (below, marks) ← linkLists? metric g vector entry level (nextEntries entry found) marks
    return (below ++ [links], marks)

def prune? (metric : Metric) (nodes : Array Node) (base : Encoded) (m : Nat) (links : List Nat) :
    Option (List Nat) :=
  if links.length ≤ m then some links
  else
    let scored := links.filterMap fun c => nodes[c]?.map fun n => ⟨metric base n.vector, c⟩
    selectLinks? metric nodes scored m

def linkBack? (metric : Metric) (m level newNode : Nat) (nodes : Array Node) (neighbor : Nat) :
    Option (Array Node) :=
  match nodes[neighbor]? with
  | none => some nodes
  | some n =>
    match n.links[level]? with
    | none => some nodes
    | some links => do
      let links ← prune? metric nodes n.vector m (links ++ [newNode])
      return nodes.setIfInBounds neighbor { n with links := n.links.set level links }

def linkBackAll? (metric : Metric) (config : GraphConfig) (newNode : Nat) :
    Nat → List (List Nat) → Array Node → Option (Array Node)
  | _, [], nodes => some nodes
  | level, links :: rest, nodes => do
    let nodes ← links.foldlM (linkBack? metric (config.maxLinks level) level newNode) nodes
    linkBackAll? metric config newNode (level + 1) rest nodes

def insert? (metric : Metric) (g : Graph) (marks : Visited) (e : Entry) (level : Nat) :
    Option (Graph × Visited) := do
  let lists ← Checked.size (level + 1)
  Checked.room listBytes lists
  match g.entry with
  | none => insert metric g marks e level
  | some entry => do
    let newNode := g.size
    let (near, marks) ←
      descend? metric g.nodes e.vector level (g.maxLevel - level) entry marks
    let shared := min level g.maxLevel + 1
    let (links, marks) ← linkLists? metric g e.vector entry shared [near] marks
    let nodes := g.nodes.push
      ⟨e.id, e.vector, links ++ List.replicate (lists - shared) []⟩
    let nodes ← linkBackAll? metric g.config newNode 0 links nodes
    return (if g.maxLevel < level then { g with nodes, entry := some newNode, maxLevel := level }
      else { g with nodes }, marks)

def insertAll? (metric : Metric) (levels : Nat → Nat) :
    Graph → Visited → List Entry → Option (Graph × Visited)
  | g, marks, [] => some (g, marks)
  | g, marks, e :: rest => do
    let (g, marks) ← insert? metric g marks e (levels g.size)
    insertAll? metric levels g marks rest

def build? (metric : Metric) (levels : Nat → Nat) (config : GraphConfig) (entries : List Entry) :
    Option Graph := do
  Checked.room nodeBytes entries.length
  let (g, _) ← insertAll? metric levels (empty config) Visited.empty entries
  return g

/-! Where there is room -/

/-- Whether there is room for a list of links on every level. -/
def ListsFit (c : GraphConfig) : Prop :=
  ∀ level, linkBytes * c.maxLinks level ≤ LayeredIndex.maxBlock

/-- Whether there is room for so many nodes. -/
def NodesFit (count : Nat) : Prop := nodeBytes * count ≤ LayeredIndex.maxBlock

section Fit

variable {metric : Metric} {nodes : Array Node} {g : Graph} {level : Nat}

/-- No beam is too wide for a machine that has room for the nodes, because no beam is wider than
there are nodes. -/
theorem searchLevel?_eq (hnodes : NodesFit nodes.size) (query : Encoded) (entries : List Nat)
    (ef level : Nat) (marks : Visited) :
    searchLevel? metric nodes query entries ef level marks =
      searchLevel metric nodes query entries ef level marks := by
  have hblock : LayeredIndex.maxBlock = 2 ^ 63 - 1 := by decide
  have hword : Number.maxWord = 2 ^ 64 - 1 := by decide
  unfold NodesFit nodeBytes vectorBytes listBytes at hnodes
  have hmarks : markBytes * nodes.size ≤ LayeredIndex.maxBlock := by
    unfold markBytes
    omega
  have hsize : max 1 (min ef nodes.size) + 1 ≤ Number.maxWord := by omega
  have hbeam : scoredBytes * (max 1 (min ef nodes.size) + 1) ≤ LayeredIndex.maxBlock := by
    unfold scoredBytes
    omega
  rw [searchLevel?, Checked.room_eq hmarks, Checked.size_eq hsize]
  simp only [Option.bind_eq_bind, Option.bind_some, Checked.room_eq hbeam]

theorem descend?_eq (hnodes : NodesFit nodes.size) (query : Encoded) (floor steps node : Nat)
    (marks : Visited) :
    descend? metric nodes query floor steps node marks =
      descend metric nodes query floor steps node marks := by
  induction steps generalizing node marks with
  | zero => rfl
  | succ steps ih => simp only [descend?, descend, searchLevel?_eq hnodes, ih]

theorem selectLinks?_eq {m : Nat} (hm : linkBytes * m ≤ LayeredIndex.maxBlock)
    (candidates : List Scored) :
    selectLinks? metric nodes candidates m = some (selectLinks metric nodes candidates m) := by
  rw [selectLinks?, Checked.room_eq hm]
  rfl

theorem linkLists?_eq (hnodes : NodesFit g.nodes.size) (hlists : ListsFit g.config)
    (vector : Encoded) (entry levels : Nat) (entries : List Nat) (marks : Visited) :
    linkLists? metric g vector entry levels entries marks =
      linkLists metric g vector entry levels entries marks := by
  induction levels generalizing entries marks with
  | zero => rfl
  | succ level ih =>
      simp only [linkLists?, linkLists, searchLevel?_eq hnodes, selectLinks?_eq (hlists level), ih]
      rfl

theorem prune?_eq {m : Nat} (hm : linkBytes * m ≤ LayeredIndex.maxBlock) (base : Encoded)
    (links : List Nat) :
    prune? metric nodes base m links = some (prune metric nodes base m links) := by
  unfold prune? prune
  split
  · rfl
  · exact selectLinks?_eq hm _

theorem linkBack?_eq {m : Nat} (hm : linkBytes * m ≤ LayeredIndex.maxBlock)
    (level newNode : Nat) (nodes : Array Node) (neighbor : Nat) :
    linkBack? metric m level newNode nodes neighbor =
      some (linkBack metric m level newNode nodes neighbor) := by
  unfold linkBack? linkBack
  cases nodes[neighbor]? with
  | none => rfl
  | some n =>
      cases hlinks : n.links[level]? with
      | none => simp only [hlinks]
      | some links =>
          simp only [hlinks, prune?_eq hm]
          rfl

theorem linkBackAll?_eq {config : GraphConfig} (hlists : ListsFit config) (newNode level : Nat)
    (links : List (List Nat)) (nodes : Array Node) :
    linkBackAll? metric config newNode level links nodes =
      some (linkBackAll metric config newNode level links nodes) := by
  induction links generalizing level nodes with
  | nil => rfl
  | cons links rest ih =>
      have hback : linkBack? metric (config.maxLinks level) level newNode =
          fun nodes neighbor =>
            some (linkBack metric (config.maxLinks level) level newNode nodes neighbor) := by
        funext nodes neighbor
        exact linkBack?_eq (hlists level) level newNode nodes neighbor
      have hall : links.foldlM (linkBack? metric (config.maxLinks level) level newNode) nodes =
          some (links.foldl (linkBack metric (config.maxLinks level) level newNode) nodes) := by
        rw [hback]
        exact List.foldlM_pure
      rw [linkBackAll?, hall, linkBackAll]
      exact ih (level + 1) _

/-- There is room for the lists of a node on any level that is drawn. -/
theorem listsRoom (hlevel : level ≤ Level.maxLevel) :
    Checked.size (level + 1) = some (level + 1) ∧ Checked.room listBytes (level + 1) = some () := by
  have hmax : Level.maxLevel = 16 := rfl
  have hblock : LayeredIndex.maxBlock = 2 ^ 63 - 1 := by decide
  have hword : Number.maxWord = 2 ^ 64 - 1 := by decide
  constructor
  · apply Checked.size_eq
    omega
  · apply Checked.room_eq
    unfold listBytes
    omega

/-- The first node has no links, so only later ones need room for lists of links. -/
theorem insert?_eq (metric : Metric) (hnodes : NodesFit g.nodes.size)
    (hlists : g.entry = none ∨ ListsFit g.config)
    (hlevel : level ≤ Level.maxLevel) (marks : Visited) (e : Entry) :
    insert? metric g marks e level = insert metric g marks e level := by
  obtain ⟨hsize, hroom⟩ := listsRoom hlevel
  cases hentry : g.entry with
  | none => simp [insert?, hsize, hroom, hentry]
  | some entry =>
      have hlists : ListsFit g.config := hlists.resolve_left (by simp [hentry])
      simp [insert?, insert, hsize, hroom, hentry, descend?_eq hnodes,
        linkLists?_eq hnodes hlists, linkBackAll?_eq hlists]

theorem NodesFit.mono {count more : Nat} (h : NodesFit more) (hle : count ≤ more) :
    NodesFit count := by
  have hless := Nat.mul_le_mul_left nodeBytes hle
  exact hless.trans h

/-- An insertion after the first needs room for lists of links. -/
theorem insertAll?_eq (metric : Metric) {levels : Nat → Nat}
    (hlevels : ∀ i, levels i ≤ Level.maxLevel) (entries : List Entry) (hg : g.WellFormed)
    {marks : Visited} (hmarks : marks.Dated)
    (hnodes : NodesFit (g.size + entries.length))
    (hlists : g.size + entries.length < 2 ∨ ListsFit g.config) :
    insertAll? metric levels g marks entries = insertAll metric levels g marks entries := by
  induction entries generalizing g marks with
  | nil => rfl
  | cons e rest ih =>
      rw [List.length_cons] at hnodes hlists
      have hfirst : g.entry = none ∨ ListsFit g.config := by
        refine hlists.imp_left fun hfew => ?_
        cases hentry : g.entry with
        | none => rfl
        | some entry =>
            have hentry := hg.entry_lt hentry
            omega
      have hone := insert?_eq metric (hnodes.mono (Nat.le_add_right _ _)) hfirst
        (hlevels g.size) marks e
      obtain ⟨g', marks', hinsert, hmarks', hstep⟩ :=
        insert_step metric hg e (levels g.size) hmarks
      have hsize : g'.size = g.size + 1 := by
        have hlength := congrArg List.length (hstep.entries hg)
        rw [List.length_append, entriesOf_length, entriesOf_length] at hlength
        exact hlength
      have hcount : g'.size + rest.length = g.size + (rest.length + 1) := by omega
      have hrest := ih (hstep.wellFormed hg) hmarks' (hcount ▸ hnodes)
        (by rw [hcount, hstep.config]; exact hlists)
      rw [insertAll?, insertAll, hone, hinsert]
      simp only [Option.bind_eq_bind, Option.bind_some]
      exact hrest

/-- With room for the nodes and for the lists of links the machine builds what is built. -/
theorem build?_eq (metric : Metric) {levels : Nat → Nat}
    (hlevels : ∀ i, levels i ≤ Level.maxLevel) {config : GraphConfig} {entries : List Entry}
    (hnodes : NodesFit entries.length)
    (hlists : entries.length < 2 ∨ ListsFit config) :
    build? metric levels config entries = build metric levels config entries := by
  have hcount : (empty config).size + entries.length = entries.length := Nat.zero_add _
  have hall := insertAll?_eq metric hlevels entries (empty_wellFormed config)
    Visited.empty_dated (hcount.symm ▸ hnodes) (hcount.symm ▸ hlists)
  rw [build?, build, Checked.room_eq hnodes, hall]
  cases insertAll metric levels (empty config) Visited.empty entries <;> rfl

end Fit

/-! Where there is no room -/

section Misfit

variable {metric : Metric} {g : Graph}

theorem selectLinks?_eq_none {nodes : Array Node} {m : Nat}
    (hm : LayeredIndex.maxBlock < linkBytes * m) (candidates : List Scored) :
    selectLinks? metric nodes candidates m = none := by
  rw [selectLinks?, Checked.room_eq_none hm]
  rfl

/-- Links are chosen on level zero last, and there the machine stops at the latest. -/
theorem linkLists?_eq_none (hm : LayeredIndex.maxBlock < linkBytes * g.config.bottomLinks)
    (vector : Encoded) (entry levels : Nat) (entries : List Nat) (marks : Visited) :
    linkLists? metric g vector entry (levels + 1) entries marks = none := by
  induction levels generalizing entries marks with
  | zero =>
      have hzero : LayeredIndex.maxBlock < linkBytes * g.config.maxLinks 0 := hm
      simp only [linkLists?, Option.bind_eq_bind, Option.bind_eq_none_iff]
      intro found _ links hlinks
      rw [selectLinks?_eq_none hzero] at hlinks
      cases hlinks
  | succ level ih =>
      rw [linkLists?]
      simp only [ih, Option.bind_eq_bind, Option.bind_eq_none_iff]
      intro found _ links _ below hbelow
      cases hbelow

theorem insert?_eq_none (hm : LayeredIndex.maxBlock < linkBytes * g.config.bottomLinks)
    {entry : Nat} (hentry : g.entry = some entry) (marks : Visited) (e : Entry) (level : Nat) :
    insert? metric g marks e level = none := by
  simp only [insert?, hentry, linkLists?_eq_none hm, Option.bind_eq_bind, Option.bind_eq_none_iff]
  intro lists _ room _ near _ links hlinks
  cases hlinks

theorem eq_first_of_insert? {config : GraphConfig} {marks marks' : Visited} {e : Entry}
    {level : Nat} {g : Graph}
    (h : insert? metric (empty config) marks e level = some (g, marks')) :
    g = first (empty config) e level := by
  have hone := insert_first metric (empty_wellFormed config) rfl marks e level
  simp only [insert?, empty, Option.bind_eq_bind, Option.bind_eq_some_iff] at h
  obtain ⟨lists, _, room, _, hinsert⟩ := h
  exact (congrArg Prod.fst (Option.some.inj (hone.symm.trans hinsert))).symm

/-- Without room for a list of links nothing is built of two entries or more. -/
theorem build?_eq_none {levels : Nat → Nat} {config : GraphConfig} {entries : List Entry}
    (hm : LayeredIndex.maxBlock < linkBytes * config.bottomLinks) (hmany : 2 ≤ entries.length) :
    build? metric levels config entries = none := by
  match entries with
  | [] => simp at hmany
  | [_] => simp at hmany
  | e :: e' :: rest =>
  simp only [build?, insertAll?, Option.bind_eq_bind, Option.bind_eq_none_iff]
  intro room _ all hall
  simp only [Option.bind_eq_some_iff] at hall
  obtain ⟨one, hone, two, htwo, -⟩ := hall
  have hfirst := eq_first_of_insert? hone
  rw [insert?_eq_none (by rw [hfirst]; exact hm) (by rw [hfirst]; rfl)] at htwo
  cases htwo

/-- Without room for the nodes nothing is built. -/
theorem build?_eq_none_of_nodes {levels : Nat → Nat} {config : GraphConfig} {entries : List Entry}
    (hnodes : ¬ NodesFit entries.length) : build? metric levels config entries = none := by
  rw [build?, Checked.room_eq_none (Nat.not_le.mp hnodes)]
  rfl

end Misfit

end Graph

end Vicinity
