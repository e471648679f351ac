import Vicinity.Proofs.Graph.Crowding
import Vicinity.Proofs.Graph.Findable

/-!
What becomes of nodes that are all equally far from a query. A beam that is full takes in none that
is as far as those it keeps, so it ends with the nodes it came to first: the one it started from and
the first of its links. Where the vectors are equally far from each other as well, every node is
linked to all others in the order of their places, and the nodes in front are the ones kept.
-/

namespace Vicinity.Graph

/-- Whether all vectors of a table rank equally far from a query. -/
def Equidistant (metric : Metric) (nodes : Array Node) (query : Encoded) (key : Nat) : Prop :=
  ∀ e ∈ entriesOf nodes, (metric query e.vector).rankKey = key

theorem Equidistant.node {metric : Metric} {nodes : Array Node} {query : Encoded} {key i : Nat}
    {n : Node} (h : Equidistant metric nodes query key) (hn : nodes[i]? = some n) :
    (metric query n.vector).rankKey = key := by
  have hentry := entriesOf_getElem? nodes i
  rw [hn] at hentry
  exact h _ (List.mem_of_getElem? hentry)

theorem Equidistant.neighbor {metric : Metric} {nodes : Array Node} {query : Encoded} {key : Nat}
    (h : Equidistant metric nodes query key) {n : Neighbor}
    (hn : n ∈ neighbors metric nodes query) : n.distance.rankKey = key := by
  rw [neighbors_eq_map] at hn
  obtain ⟨e, he, rfl⟩ := List.mem_map.mp hn
  exact h e he

namespace Beam

section Search

variable {metric : Metric} {nodes : Array Node} {query : Encoded} {width level key : Nat}
  {entries done : List Nat} {b b' : Beam}

/-- A beam that has no room for nodes that rank as far as `key`. -/
structure Filled (width key : Nat) (b : Beam) : Prop where
  full : width ≤ b.kept.length
  nonempty : b.kept ≠ []
  near : ∀ s ∈ b.kept, s.distance.rankKey ≤ key

theorem Filled.of_kept (h : Filled width key b) (hkept : b'.kept = b.kept) :
    Filled width key b' :=
  ⟨hkept ▸ h.full, hkept ▸ h.nonempty, hkept ▸ h.near⟩

theorem Filled.not_hasRoomFor (h : Filled width key b) {d : Single} (hd : d.rankKey = key) :
    ¬ hasRoomFor width b d = true := by
  have hfull := h.full
  have hworst := worstKey_le h.nonempty h.near
  simp only [hasRoomFor, Bool.or_eq_true, decide_eq_true_eq]
  omega

theorem Sound.filled (h : Sound metric nodes query width level entries done b)
    (heven : Equidistant metric nodes query key) (hwidth : 1 ≤ width)
    (hfull : b.kept.length = width) : Filled width key b where
  full := hfull.ge
  nonempty := List.ne_nil_of_length_pos (by omega)
  near := by
    intro s hs
    obtain ⟨n, hn, hdistance⟩ := (h.keptSeen s hs).1
    rw [hdistance, heven.node hn]

/-- A full beam takes in no node that is as far as those it keeps. -/
theorem visit_filled (heven : Equidistant metric nodes query key) (h : Filled width key b) {i : Nat}
    (hvisit : visit metric nodes query width (hasRoomFor width) b i = some b') :
    b'.kept = b.kept := by
  unfold visit at hvisit
  split at hvisit
  · simp at hvisit
  rename_i n hn
  split at hvisit
  · cases hvisit
    rfl
  rename_i seen _
  have hseen : Filled width key { b with seen } := h.of_kept rfl
  dsimp only at hvisit
  rw [if_neg (hseen.not_hasRoomFor (heven.node hn))] at hvisit
  cases hvisit
  rfl

theorem visitAll_filled (heven : Equidistant metric nodes query key) (h : Filled width key b)
    (l : List Nat)
    (hvisits : l.foldlM (visit metric nodes query width (hasRoomFor width)) b = some b') :
    b'.kept = b.kept := by
  induction l generalizing b with
  | nil =>
      cases hvisits
      rfl
  | cons i rest ih =>
      obtain ⟨b₁, hvisit, hrest⟩ := Option.bind_eq_some_iff.mp hvisits
      have hsame := visit_filled heven h hvisit
      exact (ih (h.of_kept hsame) hrest).trans hsame

/-- A search whose beam is full keeps what it has. -/
theorem expand_filled (heven : Equidistant metric nodes query key) (h : Filled width key b)
    (steps : Nat) (hexpand : expand metric nodes query width level steps b = some b') :
    b'.kept = b.kept := by
  induction steps generalizing b with
  | zero => rw [expand_zero hexpand]
  | succ steps ih =>
      cases hpending : b.pending with
      | nil =>
          rw [expand_drained _ hpending] at hexpand
          rw [Option.some.inj hexpand]
      | cons s rest =>
          by_cases hsettled : b.isSettled width s = true
          · rw [expand_settled _ hpending hsettled] at hexpand
            rw [Option.some.inj hexpand]
          · cases hn : nodes[s.node]? with
            | none =>
                rw [expand, hpending] at hexpand
                dsimp only at hexpand
                rw [if_neg hsettled, hn] at hexpand
                cases hexpand
            | some n =>
                rw [expand_step steps hpending hsettled hn] at hexpand
                obtain ⟨b₁, hvisits, hrest⟩ := Option.bind_eq_some_iff.mp hexpand
                have hsame : b₁.kept = b.kept :=
                  visitAll_filled (b := { b with pending := rest }) heven (h.of_kept rfl) _ hvisits
                exact (ih (h.of_kept hsame) hrest).trans hsame

/-- While there is room a beam keeps every node that it sees for the first time. -/
theorem visitAll_room {wanted : Beam → Single → Bool}
    (hwanted : ∀ (b : Beam) (d : Single), b.kept.length < width → wanted b d = true) (l : List Nat)
    (hl : ∀ i ∈ l, i < nodes.size) (hmarks : nodes.size ≤ b.seen.marks.size)
    (hnew : ∀ i ∈ l, ¬ b.seen.Seen i) (hdistinct : l.Nodup)
    (hroom : b.kept.length + l.length ≤ width)
    (hvisits : l.foldlM (visit metric nodes query width wanted) b = some b') :
    (b'.kept.map Scored.node).Perm (l ++ b.kept.map Scored.node) := by
  induction l generalizing b with
  | nil => rw [← Option.some.inj hvisits, List.nil_append]
  | cons i rest ih =>
      obtain ⟨hi, hrest⟩ := List.forall_mem_cons.mp hl
      obtain ⟨hinew, hrestNew⟩ := List.forall_mem_cons.mp hnew
      obtain ⟨hnotMem, hrestDistinct⟩ := List.nodup_cons.mp hdistinct
      obtain ⟨b₁, hvisit, hvisits⟩ := Option.bind_eq_some_iff.mp hvisits
      have hmark : i < b.seen.marks.size := hi.trans_le hmarks
      rw [List.length_cons] at hroom
      rcases visit_cases metric query width wanted (Array.getElem?_eq_getElem hi) hmark with
        ⟨hold, -⟩ | ⟨-, hkeep⟩
      · exact absurd hold hinew
      let seeing : Beam := { b with seen := (b.seen.insert i).2 }
      rw [hkeep, if_pos (hwanted seeing _ (show b.kept.length < width by omega))] at hvisit
      let s : Scored := ⟨metric query nodes[i].vector, i⟩
      have hb₁ : b₁ = seeing.keep width s := (Option.some.inj hvisit).symm
      have hkept : b₁.kept = insertFarthest s b.kept := by
        rw [hb₁]
        rcases keep_cases (b := seeing) (show b.kept.length ≤ width by omega) s with
          ⟨-, hkept⟩ | ⟨hfull, -⟩
        · exact hkept
        · exact absurd hfull (show b.kept.length ≠ width by omega)
      have hseen : b₁.seen = (b.seen.insert i).2 := by rw [hb₁]; rfl
      have hperm := insertFarthest_perm s b.kept
      have hfound := ih hrest (by rw [hseen, Visited.insert_size]; exact hmarks)
        (fun j hj hmarked => by
          rw [hseen, Visited.insert_seen hmark] at hmarked
          rcases hmarked with hold | rfl
          · exact hrestNew j hj hold
          · exact hnotMem hj)
        hrestDistinct (by rw [hkept, hperm.length_eq, List.length_cons]; omega) hvisits
      calc
        (b'.kept.map Scored.node).Perm (rest ++ b₁.kept.map Scored.node) := hfound
        _ |>.Perm (rest ++ (s :: b.kept).map Scored.node) := by
          rw [hkept]
          exact (hperm.map _).append_left rest
        _ |>.Perm (i :: rest ++ b.kept.map Scored.node) := List.perm_middle

/-- A search from one node starts with that node alone. -/
theorem begin_single (metric : Metric) (query : Encoded) (level : Nat) (hwidth : 1 ≤ width)
    {start : Nat} (hstart : start < nodes.size) {marks : Visited} (hmarks : marks.Dated) :
    ∃ (s : Scored) (b : Beam), s.node = start ∧
      [start].foldlM (visit metric nodes query width fun _ _ => true)
        (Beam.start (marks.reset nodes.size)) = some b ∧
      Sound metric nodes query width level [start] [] b ∧ b.pending = [s] ∧ b.kept = [s] ∧
      ∀ i, b.seen.Seen i ↔ i = start := by
  have hunseen := Visited.reset_unseen hmarks nodes.size
  have hbegin : ∀ i ∈ [start], i < nodes.size ∧ Reachable nodes level [start] i := by
    simpa using ⟨hstart, Reachable.entry (List.mem_singleton.mpr rfl)⟩
  have hfresh : Sound metric nodes query width level [start] []
      (Beam.start (marks.reset nodes.size)) := start_sound hmarks
  obtain ⟨b, hvisits, hsound, hseen⟩ := visitAll_sound (fun _ _ => true) hfresh
    (fun _ _ _ hfalse => absurd hfalse (by decide)) [start] hbegin
  refine ⟨⟨metric query nodes[start].vector, start⟩, b, rfl, hvisits, hsound, ?_⟩
  have hroom : ¬ width < 1 := by omega
  rcases visit_cases metric query width (fun _ _ => true) (b := Beam.start (marks.reset nodes.size))
    (Array.getElem?_eq_getElem hstart) (hstart.trans_le (Visited.reset_size marks nodes.size)) with
    ⟨hold, -⟩ | ⟨-, hvisit⟩
  · exact absurd hold (hunseen start)
  · rw [List.foldlM_cons, hvisit] at hvisits
    cases Option.some.inj hvisits
    refine ⟨rfl, ?_, fun i => ?_⟩
    · simp [keep, Beam.start, insertFarthest, place, hroom]
    · simpa [Beam.start, hunseen i] using hseen i

/-- Where all nodes are equally far, a search that has come to one node only keeps it and the first
of its links, as many as the beam has room for. -/
theorem expand_single (heven : Equidistant metric nodes query key) (hrange : LinksInRange nodes)
    {start : Nat} {s : Scored} (h : Sound metric nodes query width level entries [] b)
    (hs : s.node = start) (hpending : b.pending = [s]) (hkept : b.kept = [s])
    (hseen : ∀ i, b.seen.Seen i ↔ i = start)
    (hdistinct : (start :: linksOf nodes level start).Nodup) (hwidth : 1 ≤ width)
    (hmany : width ≤ (linksOf nodes level start).length + 1) (steps : Nat)
    (hexpand : expand metric nodes query width level (steps + 1) b = some b') :
    (b'.kept.map Scored.node).Perm (start :: (linksOf nodes level start).take (width - 1)) := by
  subst hs
  obtain ⟨hnotMem, hlinksDistinct⟩ := List.nodup_cons.mp hdistinct
  obtain ⟨⟨n, hn, -⟩, hmarked⟩ := h.keptSeen s (hkept ▸ List.mem_singleton.mpr rfl)
  have hlinks : n.linksOn level = linksOf nodes level s.node := by simp [linksOf, hn]
  have hnext := (h.reached s.node hmarked).linksOn hrange hn
  rw [hlinks] at hnext
  have hpopped := pop_sound h hpending
  have hone : ({ b with pending := [] } : Beam).kept = [s] := hkept
  rw [expand_step steps hpending (by simp [isSettled, worstKey, hkept]) hn, hlinks,
    ← List.take_append_drop (width - 1) (linksOf nodes level s.node), List.foldlM_append] at hexpand
  obtain ⟨b₂, hvisits, hrest⟩ := Option.bind_eq_some_iff.mp hexpand
  obtain ⟨b₁, hfills, hkeeps⟩ := Option.bind_eq_some_iff.mp hvisits
  -- The first links fill the beam, and nothing gets into it after that.
  have hwanted : ∀ (b : Beam) (d : Single), b.kept.length < width → b.hasRoomFor width d = true :=
    fun b d hroom => by simp [hasRoomFor, hroom]
  have hfront := visitAll_room hwanted _ (fun i hi => (hnext i (List.mem_of_mem_take hi)).1)
    hpopped.room
    (fun i hi hold => by
      rw [(hseen i).mp hold] at hi
      exact hnotMem (List.mem_of_mem_take hi))
    (hlinksDistinct.sublist (List.take_sublist _ _))
    (by rw [hone, List.length_singleton, List.length_take]; omega) hfills
  obtain ⟨_, hsame, hsound, -⟩ := visitAll_sound (hasRoomFor width) hpopped
    (fun b s hb hroom => closes_of_not_hasRoomFor hb hroom) _
    (fun i hi => hnext i (List.mem_of_mem_take hi))
  cases Option.some.inj (hfills.symm.trans hsame)
  rw [hone] at hfront
  have hcount := hfront.length_eq
  rw [List.length_map, List.length_append, List.length_take, List.map_singleton,
    List.length_singleton] at hcount
  have hfilled := hsound.filled heven hwidth (by omega)
  have hkeeps := visitAll_filled heven hfilled _ hkeeps
  rw [expand_filled heven (hfilled.of_kept hkeeps) _ hrest, hkeeps]
  exact hfront.trans (List.perm_append_singleton _ _)

end Search

end Beam

section Search

variable {metric : Metric} {nodes : Array Node} {query : Encoded} {level key start ef : Nat}
  {marks marks' : Visited} {found : List Scored}

/-- Where all nodes are equally far a search finds the node that it starts from and the first of
its links, as many as its beam has room for. -/
theorem searchLevel_of_equidistant (heven : Equidistant metric nodes query key)
    (hrange : LinksInRange nodes) (hstart : start < nodes.size)
    (hdistinct : (start :: linksOf nodes level start).Nodup) (hsome : 1 ≤ ef)
    (hsize : ef ≤ nodes.size) (hmany : ef ≤ (linksOf nodes level start).length + 1)
    (hmarks : marks.Dated)
    (hsearch : searchLevel metric nodes query [start] ef level marks = some (found, marks')) :
    (found.map Scored.node).Perm (start :: (linksOf nodes level start).take (ef - 1)) := by
  have hwidth : max 1 (min ef nodes.size) = ef := by omega
  obtain ⟨steps, hsteps⟩ : ∃ steps, nodes.size = steps + 1 := ⟨nodes.size - 1, by omega⟩
  obtain ⟨s, b, hs, hbegin, hsound, hpending, hkept, hseen⟩ :=
    Beam.begin_single metric query level hsome hstart hmarks
  simp only [searchLevel, hwidth, hbegin, Option.bind_eq_bind, Option.bind_some] at hsearch
  obtain ⟨ended, hexpand, hended⟩ := Option.bind_eq_some_iff.mp hsearch
  rw [hsteps] at hexpand
  have hfound := Beam.expand_single heven hrange hsound hs hpending hkept hseen hdistinct hsome
    hmany steps hexpand
  cases Option.some.inj hended
  exact ((List.reverse_perm _).map _).trans hfound

end Search

section Build

variable {metric : Metric} {nodes : Array Node} {all : List Entry} {d : Single} {g g' : Graph}
  {e : Entry} {level : Nat} {chosen : Nat → List Nat}

/-- Entries that are all equally far from each other. -/
structure Alike (metric : Metric) (entries : List Entry) (d : Single) : Prop where
  equal : ∀ a ∈ entries, ∀ b ∈ entries, metric a.vector b.vector = d
  comparable : d ≤ d

/-- Whether every node is linked to all others on level zero, in the order of their places. -/
def InOrder (g : Graph) : Prop := ∀ i < g.size, linksOf g.nodes 0 i = (List.range g.size).erase i

/-- Of nodes that are all equally far from each other those in front are chosen. -/
theorem selectLinks_of_alike {found : List Scored} {m count : Nat}
    (hperm : (found.map Scored.node).Perm (List.range count)) (hd : ∀ s ∈ found, s.distance = d)
    (hgap : ∀ i < count, ∀ j < count, between metric nodes i j = d) (hcomparable : d ≤ d)
    (hroom : count ≤ m) : selectLinks metric nodes found m = List.range count := by
  have hmem : ∀ s ∈ choosingOrder found, s.distance = d ∧ s.node < count := fun s hs => by
    have hfound := (choosingOrder_perm found).mem_iff.mp hs
    exact ⟨hd s hfound, List.mem_range.mp (hperm.mem_iff.mp (List.mem_map_of_mem hfound))⟩
  have hsorted : (choosingOrder found).map Scored.node = List.range count := by
    refine List.Perm.eq_of_pairwise' ?_ List.pairwise_le_range
      (((choosingOrder_perm found).map _).trans hperm)
    refine List.pairwise_map.mpr ((choosingOrder_sorted found).imp_of_mem ?_)
    intro s t hs ht hbefore
    simpa [Scored.chosenBefore, (hmem s hs).1, (hmem t ht).1] using hbefore
  have htaken : takeDiverse (between metric nodes) m [] (choosingOrder found) =
      List.range count := by
    rw [takeDiverse_of_close, hsorted]
    · simp [hroom]
    · intro c hc i hi
      rw [List.nil_append, hsorted, List.mem_range] at hi
      rw [(hmem c hc).1, hgap c.node (hmem c hc).2 i hi]
      exact hcomparable
  rw [selectLinks, htaken, hsorted]
  simp

namespace InOrder

theorem nodup (h : InOrder g) {i : Nat} (hi : i < g.size) :
    (i :: linksOf g.nodes 0 i).Nodup := by
  rw [h i hi]
  exact List.nodup_cons.mpr ⟨List.nodup_range.not_mem_erase, List.nodup_range.erase i⟩

theorem length (h : InOrder g) {i : Nat} (hi : i < g.size) :
    (linksOf g.nodes 0 i).length + 1 = g.size := by
  rw [h i hi, List.length_erase_of_mem (List.mem_range.mpr hi), List.length_range]
  omega

theorem connected (h : InOrder g) : Connected g.nodes := by
  intro i hi j hj
  by_cases hij : j = i
  · rw [hij]
  · refine Relation.ReflTransGen.single (linked_iff.mpr ?_)
    rw [h i hi]
    exact (List.mem_erase_of_ne hij).mpr (List.mem_range.mpr hj)

end InOrder

/-- A new node that is as far from the others as they are is linked to all of them. -/
theorem Inserted.chosen_inOrder (hinserted : Inserted metric g e level chosen g')
    (hg : g.WellFormed) (h : InOrder g) (halike : Alike metric all d)
    (hentries : entriesOf g.nodes = all.take g.size) (hnext : all[g.size]? = some e)
    (hroom : g.size ≤ g.config.maxLinks 0) (hwide : g.size ≤ g.config.efConstruction) :
    chosen 0 = List.range g.size := by
  obtain ⟨starts, found, hsome, hstanding, hfound, heq⟩ := hinserted.searched 0 (Nat.zero_le _)
  have hstarts : ∀ s ∈ starts, s < g.nodes.size := fun s hs => height_pos_lt (hstanding s hs)
  have hperm := hfound.perm_range hg.linksInRange hsome hstarts h.connected hwide
  rw [heq]
  refine selectLinks_of_alike (d := d) hperm ?_ ?_ halike.comparable hroom
  · intro s hs
    obtain ⟨a, ha, -, hdistance⟩ := exists_entry hentries (hfound.measured s hs)
    rw [hdistance, halike.equal e (List.mem_of_getElem? hnext) a (List.mem_of_getElem? ha)]
  · intro i hi j hj
    obtain ⟨n, a, ha, hn, hna⟩ := exists_node hentries hi
    obtain ⟨m, b, hb, hm, hmb⟩ := exists_node hentries hj
    rw [between_eq (v := a.vector) (w := b.vector) (by rw [hn, Option.map_some, hna])
      (by rw [hm, Option.map_some, hmb])]
    exact halike.equal a (List.mem_of_getElem? ha) b (List.mem_of_getElem? hb)

theorem Step.inOrder (hstep : Step metric level e g g') (hg : g.WellFormed) (h : InOrder g)
    (halike : Alike metric all d) (hentries : entriesOf g.nodes = all.take g.size)
    (hnext : all[g.size]? = some e) (hroom : g.size ≤ g.config.maxLinks 0)
    (hwide : g.size ≤ g.config.efConstruction) : InOrder g' := by
  cases hstep with
  | first hentry hfirst =>
      intro i hi
      have hzero : i = 0 := by
        rw [hfirst] at hi
        simpa [Graph.first, size] using hi
      rw [hzero, hfirst, linksOf_first]
      rfl
  | later chosen hinserted =>
      have hall := hinserted.chosen_inOrder hg h halike hentries hnext hroom hwide
      intro i hi
      rw [hinserted.size_eq] at hi ⊢
      rw [List.range_succ]
      rcases (Nat.lt_succ_iff.mp hi).lt_or_eq with hlt | rfl
      · have hmem : i ∈ List.range g.size := List.mem_range.mpr hlt
        rw [hinserted.linksOf_of_room hg hroom (hall ▸ hmem), h i hlt,
          List.erase_append_left _ hmem]
      · rw [hinserted.newLinks, hall, List.erase_append_right _ (by simp)]
        simp

/-- In a graph over few entries that are all equally far from each other every node is linked to all
others in their order. -/
theorem inOrder_of_build {levels : Nat → Nat} {config : GraphConfig}
    (hbuild : build metric levels config all = some g) (halike : Alike metric all d)
    (hsmall : all.length ≤ config.bottomLinks + 1) (hwide : all.length ≤ config.efConstruction) :
    InOrder g := by
  obtain ⟨_, hbuilt, -, -, -, -, hg⟩ := build_induction metric levels config all
    (P := fun g => g.config = config ∧ InOrder g)
    ⟨rfl, fun i hi => absurd hi (Nat.not_lt_zero i)⟩ (by
      rintro g g' e hg hentries hnext ⟨hconfig, h⟩ hstep
      obtain ⟨hlt, -⟩ := List.getElem?_eq_some_iff.mp hnext
      have hmax : g.config.maxLinks 0 = config.bottomLinks := by
        rw [hconfig, GraphConfig.maxLinks, if_pos rfl]
      exact ⟨hstep.config.trans hconfig, hstep.inOrder hg h halike hentries hnext (by omega)
        (by rw [hconfig]; omega)⟩)
  cases Option.some.inj (hbuild.symm.trans hbuilt)
  exact hg

end Build

section Answers

variable {metric : Metric} {g : Graph} {query : Encoded} {key k : Nat}

/-- Among nodes that are all equally far, a search brings the one that its descent ends on and those
in front, whatever their ids are. -/
theorem brought_of_equidistant (hchecked : g.checkIntegrity = .ok ()) (h : InOrder g)
    (heven : Equidistant metric g.nodes query key) (hk : 1 ≤ k)
    (hfew : max g.config.efSearch k ≤ g.size) :
    ∃ last < g.size, (g.brought metric query k).Perm (pick (neighbors metric g.nodes query)
      (last :: ((List.range g.size).erase last).take (max g.config.efSearch k - 1))) := by
  obtain ⟨-, hnone, hrange⟩ := (checkIntegrity_eq_ok_iff g).mp hchecked
  cases hentry : g.entry with
  | none =>
      have hsize := hnone hentry
      omega
  | some entry =>
      obtain ⟨last, marks, found, _, hdescend, hmarks, hlast, hsearch, hfound⟩ :=
        search_runs metric query (min (max g.config.efSearch k) g.size) hchecked hentry
      have hlength := h.length hlast
      have hwidth : min (max g.config.efSearch k) g.size = max g.config.efSearch k :=
        Nat.min_eq_left hfew
      refine ⟨last, hlast, ?_⟩
      rw [brought_eq_pick hentry hdescend hsearch hfound.measured, ← h last hlast, ← hwidth]
      refine List.Perm.filterMap _ (searchLevel_of_equidistant heven hrange hlast (h.nodup hlast)
        (by omega) (Nat.min_le_right _ _) (by omega) hmarks hsearch)

/-- The node at the front is always among those that are brought. -/
theorem front_brought (hchecked : g.checkIntegrity = .ok ()) (h : InOrder g)
    (heven : Equidistant metric g.nodes query key) (hk : 2 ≤ k)
    (hfew : max g.config.efSearch k ≤ g.size) {front : Neighbor}
    (hfront : (neighbors metric g.nodes query)[0]? = some front) :
    front ∈ g.brought metric query k := by
  obtain ⟨last, hlast, hperm⟩ := brought_of_equidistant hchecked h heven (by omega) hfew
  refine hperm.mem_iff.mpr (List.mem_filterMap.mpr ⟨0, ?_, hfront⟩)
  cases last with
  | zero => exact List.mem_cons_self
  | succ last =>
      obtain ⟨size, hsize⟩ : ∃ size, g.size = size + 1 := ⟨g.size - 1, by omega⟩
      obtain ⟨more, hmore⟩ : ∃ more, max g.config.efSearch k - 1 = more + 1 :=
        ⟨max g.config.efSearch k - 2, by omega⟩
      rw [hsize, hmore, List.range_succ_eq_map, List.erase_cons_tail (by simp), List.take_succ_cons]
      exact List.mem_cons_of_mem _ List.mem_cons_self

/-- Where the node at the front has the greatest id and not all nodes are asked for, a search whose
beam is no wider than that loses a tie. -/
theorem not_keepsTies_of_equidistant (hchecked : g.checkIntegrity = .ok ()) (h : InOrder g)
    (heven : Equidistant metric g.nodes query key) (hk : 2 ≤ k) (hfew : k < g.size)
    (hbeam : g.config.efSearch ≤ k)
    (hids : ((neighbors metric g.nodes query).map Neighbor.id).Nodup) {front : Neighbor}
    (hfront : (neighbors metric g.nodes query)[0]? = some front)
    (hgreatest : ∀ n ∈ neighbors metric g.nodes query, n.id ≤ front.id) :
    ¬ TopK.KeepsTies (neighbors metric g.nodes query)
      ((TopK.empty k).pushAll (g.brought metric query k)).toSorted := by
  obtain ⟨-, hpart, hcount⟩ := brought_spec metric query (by omega : 1 ≤ k) hchecked
  have hretains := TopK.offered_retains k (g.brought metric query k)
  have hlength := TopK.offered_length k (g.brought metric query k)
  rw [hcount, findable_of_connected hchecked h.connected] at hlength
  have hall := hretains.toSorted_subperm.perm_of_length_le (by
    rw [hlength, hcount, findable_of_connected hchecked h.connected]
    omega)
  refine TopK.not_keepsTies (fun n hn => heven.neighbor hn) hids hretains.toSorted_ordered
    (hretains.toSorted_subperm.trans hpart).subset ?_ (hall.mem_iff.mpr ?_) hgreatest
  · rw [hlength, neighbors_length]
    unfold size at hfew ⊢
    omega
  · exact front_brought hchecked h heven hk (by omega) hfront

end Answers

end Vicinity.Graph
