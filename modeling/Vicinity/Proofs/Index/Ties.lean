import Vicinity.Proofs.Graph.Ties
import Vicinity.Proofs.Index.Reference
import Vicinity.Proofs.Index.Reopened

/-!
Vectors that are as far from a query as its last result. The queue keeps those with the least ids,
but only among what a search brings to it. An exact index brings everything. A layered one brings
what its beam has kept, and the beam keeps of equally far nodes those that it came to first, so a
tie may be lost before the queue sees it.
-/

namespace Vicinity

open TopK (ranked KeepsTies)

namespace BuiltinIndex

/-- What a search of an index offers to its queue. -/
inductive Offers (m : MetricSpace) (q : Query) : BuiltinIndex → List Neighbor → Prop where
  | layered (ix : LayeredIndex) :
    Offers m q (layered ix) (ix.graph.brought m.dist q.vector q.k)
  | exact (ix : ExactIndex) :
    Offers m q (exact ix) (ix.entries.map fun e => ⟨e.id, m.dist q.vector e.vector⟩)

end BuiltinIndex

/-- How many of the stored vectors a search has room for: a layered index keeps as many as its beam
is wide, the others all. -/
def BackendKind.searchWidth (tuning : QueryParams) (k stored : Nat) : BackendKind → Nat
  | layered => max tuning.beam k
  | _ => stored

/-- How the results of a query stand to all that is stored and to the part of it, `room` vectors,
that was brought to the queue. -/
structure KeepsBrought (all brought results : List Neighbor) (k room : Nat) : Prop where
  part : brought.Subperm all
  count : brought.length = room
  answer : results = (ranked brought).take k
  among : KeepsTies brought results
  all_iff : KeepsTies all results ↔ ∀ last ∈ results.getLast?, ∀ n ∈ all, n ∉ brought →
    n.distance.rankKey = last.distance.rankKey → last.id < n.id
  all_of_room : all.length ≤ room → KeepsTies all results

/-- A queue that was offered a part of what is stored keeps ties among that part. -/
theorem keepsBrought_of_offered {all brought : List Neighbor} (hpart : brought.Subperm all)
    (hids : (all.map Neighbor.id).Nodup) (k : Nat) :
    KeepsBrought all brought ((TopK.empty k).pushAll brought).toSorted k brought.length := by
  have hdistinct : (brought.map Neighbor.id).Nodup := by
    obtain ⟨l, hperm, hsub⟩ := ids_subperm hpart
    exact hperm.nodup_iff.mp (hids.sublist hsub)
  have hiff := TopK.offered_keepsTies_iff hdistinct k all
  refine
    { part := hpart, count := rfl, answer := TopK.offered_eq_ranked hdistinct k
      among := TopK.offered_keepsTies hdistinct k, all_iff := hiff, all_of_room := ?_ }
  intro hall
  refine hiff.mpr fun last hlast n hn hmissing => absurd ?_ hmissing
  exact (hpart.perm_of_length_le hall).mem_iff.mpr hn

namespace Engine

variable {kind : BackendKind} {ids : List Int} {vectors : List RawVector} {space : Space}
  {params : BuildParams} {tuning : QueryParams} {h : LoadedIndex BuiltinIndex}
  {dataset : Dataset} {index : BuiltinIndex}

/-- A search of an index over a dataset brings a part of the entries to its queue, as many as it has
room for and can find. -/
theorem offers_of_indexOver (hkind : kind ≠ .dense) {m : MetricSpace}
    (hindex : kind.indexOver m dataset params.toParams tuning.toParams = .ok index)
    (query : Encoded) {k : Nat} (hk : 1 ≤ k) :
    ∃ brought, index.Offers m ⟨query, k⟩ brought ∧
      index.search m ⟨query, k⟩ = .ok ((TopK.empty k).pushAll brought) ∧
      brought.Subperm (dataset.entries.map fun e => ⟨e.id, m.dist query e.vector⟩) ∧
      brought.length =
        min (kind.searchWidth tuning k dataset.size) (index.findable m query) := by
  cases kind with
  | dense => exact absurd rfl hkind
  | layered =>
      obtain ⟨g, hbuild, rfl⟩ := BackendKind.indexOver_layered hindex
      obtain ⟨hg, -, hentries⟩ := Graph.wellFormed_of_build hbuild
      let tuned : Graph := { g with config := { g.config with efSearch := tuning.beam } }
      obtain ⟨hsearch, hpart, hcount⟩ := Graph.brought_spec (g := tuned) m.dist query hk
        hg.checkIntegrity_eq_ok
      rw [Graph.neighbors_eq_map, show Graph.entriesOf tuned.nodes = _ from hentries] at hpart
      exact ⟨_, .layered _, LayeredIndex.search_of_some hsearch, hpart, hcount⟩
  | exact =>
      rw [BackendKind.indexOver_exact hindex]
      refine ⟨_, .exact _, rfl, List.Subperm.refl _, ?_⟩
      rw [List.length_map]
      exact (Nat.min_self _).symm

/-- Of vectors that are as far from a query as its last result those with the least ids are kept,
among all that the search brings to its queue. So they are among all that is stored just where the
rest of it has no such vector with a lesser id, and there is no rest where the search has room for
everything and can find it. That is always so in an exact index, and in a layered one that is small
and searched with a wide beam. -/
theorem query_keepsTies (hopened : Reopened kind ids vectors space params tuning h)
    (hkind : kind ≠ .dense) (raw : RawVector)
    (hraw : space.hasFixedDimension = true → raw.length = h.dimension) {k : Nat} (hk : 1 ≤ k) :
    ∃ query all brought results, space.encode raw = .ok query ∧
      Measures space query (ids.zip vectors) all ∧
      h.index.Offers h.metric ⟨query, k⟩ brought ∧ h.query raw k = .ok results ∧
      KeepsBrought all brought results k
        (min (kind.searchWidth tuning k ids.length) (h.findable raw)) ∧
      (kind = .exact ∨ (ids.length ≤ 2 * params.links + 1 ∧ ids.length ≤ max tuning.beam k) →
        KeepsTies all results) := by
  have hsaved := hopened
  obtain ⟨output, manifest, w, w₁, w₂, w₃, hbuild, hfiles, hload⟩ := hsaved
  obtain ⟨dataset, _, _, -, hbuilt⟩ := build_spec hbuild
  have hbatch := hbuilt.batch
  obtain ⟨-, hshaped, hids, -⟩ := Dataset.build_spec hbatch
  obtain ⟨-, hspace, hdimension, -, hindex⟩ := hopened.kept hkind hbatch
  have hsize : dataset.size = ids.length := by rw [← hids, List.length_map, Dataset.size]
  obtain ⟨query, hquery⟩ := Dataset.exists_encode hshaped fun hfixed =>
    (hraw hfixed).trans hdimension
  obtain ⟨brought, hoffers, hsearch, hpart, hcount⟩ := offers_of_indexOver hkind hindex query hk
  rw [hopened.metric_eq hkind] at hpart
  have hkeeps := keepsBrought_of_offered hpart
    (by rw [List.map_map]; exact hids ▸ hshaped.distinct) k
  have hfindable : h.findable raw = h.index.findable h.metric query := by
    rw [LoadedIndex.findable, hspace, hquery]
  rw [hcount, hsize, ← hfindable] at hkeeps
  have hanswer := hopened.query_eq hkind hbatch hraw hquery hk hsearch
  refine ⟨query, _, brought, _, hquery, measures_of_batch hbatch query, hoffers, hanswer, hkeeps,
    fun hsmall => hkeeps.all_of_room ?_⟩
  rw [List.length_map, hfindable,
    findable_of_small hbuild hfiles hload hkind (hsmall.imp_right And.left)]
  rcases hsmall with rfl | ⟨-, hbeam⟩
  · exact le_min hsize.le hsize.le
  · cases kind with
    | layered => exact le_min (hsize.trans_le hbeam) hsize.le
    | exact => exact le_min hsize.le hsize.le
    | dense => exact absurd rfl hkind

/-- A small layered index over vectors that are equally far from each other and from a query loses
a tie where the first of them has the greatest id, some of them are not asked for, and the beam is
no wider than what is. -/
theorem query_loses_tie (hopened : Reopened .layered ids vectors space params tuning h)
    (hbatch : Dataset.build space ids vectors = .ok dataset) {d : Single}
    (halike : Graph.Alike space.distance dataset.entries d)
    (hsmall : ids.length ≤ 2 * params.links + 1) (hwide : ids.length ≤ params.beam)
    {first : Int} (hfirst : ids[0]? = some first) (hgreatest : ∀ id ∈ ids, id ≤ first)
    {raw : RawVector} {query : Encoded} (hquery : space.encode raw = .ok query)
    (hlength : space.hasFixedDimension = true → raw.length = h.dimension) {key : Nat}
    (heven : ∀ e ∈ dataset.entries, (space.distance query e.vector).rankKey = key) {k : Nat}
    (hk : 2 ≤ k) (hfew : k < ids.length) (hbeam : tuning.beam ≤ k) :
    ∃ all results, Measures space query (ids.zip vectors) all ∧ h.query raw k = .ok results ∧
      ¬ KeepsTies all results := by
  obtain ⟨-, hshaped, hids, -⟩ := Dataset.build_spec hbatch
  obtain ⟨-, -, -, -, hindex⟩ := hopened.kept (by decide) hbatch
  have hmetric := hopened.metric_eq (by decide)
  obtain ⟨g, hbuild, hgraph⟩ := BackendKind.indexOver_layered hindex
  rw [hmetric] at hbuild hgraph
  obtain ⟨hg, -, hentries⟩ := Graph.wellFormed_of_build hbuild
  have hcount : dataset.entries.length = ids.length := by rw [← hids, List.length_map]
  have hsize : g.size = ids.length := by
    rw [← hcount, ← hentries, Graph.entriesOf_length, Graph.size]
  have horder : Graph.InOrder g := Graph.inOrder_of_build hbuild halike
    (by simp only [LayeredIndex.buildConfig]; omega)
    (by simp only [LayeredIndex.buildConfig]; omega)
  let tuned : Graph := { g with config := { g.config with efSearch := tuning.beam } }
  have hstored : Graph.entriesOf tuned.nodes = dataset.entries := hentries
  have hall : Graph.neighbors space.distance tuned.nodes query =
      dataset.entries.map fun e => ⟨e.id, space.distance query e.vector⟩ := by
    rw [Graph.neighbors_eq_map, hstored]
  obtain ⟨hsearch, -, -⟩ := Graph.brought_spec (g := tuned) space.distance query
    (by omega : 1 ≤ k) hg.checkIntegrity_eq_ok
  refine ⟨_, _, measures_of_batch hbatch query, hopened.query_eq (by decide) hbatch hlength hquery
    (by omega) (by rw [hmetric, hgraph]; exact LayeredIndex.search_of_some hsearch), ?_⟩
  obtain ⟨e, he, hid⟩ : ∃ e, dataset.entries[0]? = some e ∧ e.id = first := by
    rwa [← hids, List.getElem?_map, Option.map_eq_some_iff] at hfirst
  have hfront : (Graph.neighbors space.distance tuned.nodes query)[0]? =
      some ⟨e.id, space.distance query e.vector⟩ := by
    rw [hall, List.getElem?_map, he, Option.map_some]
  rw [← hstored] at heven
  rw [← hall]
  refine Graph.not_keepsTies_of_equidistant hg.checkIntegrity_eq_ok horder heven hk
    (hfew.trans_eq hsize.symm) hbeam ?_ hfront ?_
  · rw [hall, List.map_map]
    exact hids ▸ hshaped.distinct
  · rw [hall, List.forall_mem_map]
    intro e' he'
    rw [hid]
    exact hgreatest _ (hids ▸ List.mem_map_of_mem he')

section Equals

/-- Three equal vectors. -/
def equals : List RawVector := List.replicate 3 [0]

def equalEntries : List Entry := [3, 2, 1].map fun id => ⟨id, .dense [0]⟩

theorem equals_batch : Dataset.build .l2 [3, 2, 1] equals = .ok ⟨.l2, 1, equalEntries⟩ := rfl

theorem vector_of_equals {e : Entry} (he : e ∈ equalEntries) : e.vector = .dense [0] := by
  obtain ⟨id, -, rfl⟩ := List.mem_map.mp he
  rfl

theorem equals_fits : Fits .layered [3, 2, 1] equals .unset 0 where
  ids := by decide
  dimension := by decide
  count := by decide
  nodes := fun _ => by decide
  params := by decide
  clock := by decide

/-- A layered index over them under falling ids, loaded for some beam width. -/
theorem equals_loaded (tuning : QueryParams) (hvalid : tuning.validate = .ok ())
    (hwords : ∀ n ∈ tuning.efSearch, n ≤ Number.maxWord) : ∃ manifest w₁ h w₂,
    build BackendKind.layered.backend [3, 2, 1] equals .l2 .unset "a.idx" ⟨⟨[], []⟩, 0, []⟩ =
      (.ok manifest, w₁) ∧
    load BackendKind.layered.backend "a.idx" .l2 tuning w₁ = (.ok h, w₂) := by
  obtain ⟨w₁, hbuild⟩ :=
    exists_first_build_layered rfl equals_batch (LayeredIndex.accepts_unset _)
  obtain ⟨h, w₂, hload⟩ := exists_load_of_storable (by decide) hbuild rfl equals_fits
    hvalid hwords (by decide)
  exact ⟨_, w₁, h, w₂, hbuild, hload⟩

/-- Searched with a beam that is wide enough they keep the tie. -/
theorem query_keepsTies_equals : ∃ manifest w₁ h w₂ query all results,
    build BackendKind.layered.backend [3, 2, 1] equals .l2 .unset "a.idx" ⟨⟨[], []⟩, 0, []⟩ =
      (.ok manifest, w₁) ∧
    load BackendKind.layered.backend "a.idx" .l2 .unset w₁ = (.ok h, w₂) ∧
    Space.encode .l2 [0] = .ok query ∧ Measures .l2 query ([3, 2, 1].zip equals) all ∧
    h.query [0] 2 = .ok results ∧ KeepsTies all results := by
  obtain ⟨manifest, w₁, h, w₂, hbuild, hload⟩ := equals_loaded .unset rfl (by decide)
  have hopened : Reopened .layered [3, 2, 1] equals .l2 .unset .unset h :=
    ⟨_, manifest, _, w₁, w₁, w₂, hbuild, rfl, hload⟩
  obtain ⟨-, -, hdimension, -⟩ := hopened.kept (by decide) equals_batch
  obtain ⟨query, all, _, results, hquery, hall, -, hanswer, -, hties⟩ :=
    query_keepsTies hopened (by decide) [0] (fun _ => hdimension.symm) (show 1 ≤ 2 by decide)
  exact ⟨manifest, w₁, h, w₂, query, all, results, hbuild, hload, hquery, hall, hanswer,
    hties (Or.inr ⟨by decide, by decide⟩)⟩

theorem equals_alike : Graph.Alike Space.l2.distance equalEntries
    (Space.l2.distance (.dense [0]) (.dense [0])) where
  equal a ha b hb := by rw [vector_of_equals ha, vector_of_equals hb]
  comparable := by decide +kernel

/-- Searched with a beam for two of them they lose it: the first has the greatest id and is always
among the two that are found. -/
theorem query_loses_tie_equals : ∃ manifest w₁ h w₂ all results,
    build BackendKind.layered.backend [3, 2, 1] equals .l2 .unset "a.idx" ⟨⟨[], []⟩, 0, []⟩ =
      (.ok manifest, w₁) ∧
    load BackendKind.layered.backend "a.idx" .l2 ⟨some 2⟩ w₁ = (.ok h, w₂) ∧
    Measures .l2 (.dense [0]) ([3, 2, 1].zip equals) all ∧ h.query [0] 2 = .ok results ∧
    ¬ KeepsTies all results := by
  obtain ⟨manifest, w₁, h, w₂, hbuild, hload⟩ := equals_loaded ⟨some 2⟩ rfl (by decide)
  have hopened : Reopened .layered [3, 2, 1] equals .l2 .unset ⟨some 2⟩ h :=
    ⟨_, manifest, _, w₁, w₁, w₂, hbuild, rfl, hload⟩
  obtain ⟨-, -, hdimension, -⟩ := hopened.kept (by decide) equals_batch
  have heven : ∀ e ∈ equalEntries, (Space.l2.distance (.dense [0]) e.vector).rankKey =
      (Space.l2.distance (.dense [0]) (.dense [0])).rankKey := fun e he => by
    rw [vector_of_equals he]
  obtain ⟨all, results, hall, hanswer, hties⟩ := query_loses_tie hopened equals_batch equals_alike
    (by decide) (by decide) (show [3, 2, 1][0]? = some 3 from rfl) (by decide)
    (show Space.encode .l2 [0] = .ok (.dense [0]) from rfl) (fun _ => hdimension.symm) heven
    (show 2 ≤ 2 by decide) (by decide) (by decide)
  exact ⟨manifest, w₁, h, w₂, all, results, hbuild, hload, hall, hanswer, hties⟩

end Equals

end Engine

end Vicinity
