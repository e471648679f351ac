import Vicinity.Proofs.Index.Agreement
import Vicinity.Proofs.Index.Lifecycle

/-!
How many results a query of a loaded index gives. An exact index gives as many as are asked for and
stored. So does a layered one where the links of level zero lead far enough, which they do in a
small graph; elsewhere what they do not lead to is missing from the answer.
-/

namespace Vicinity

theorem ids_subperm {part all : List Neighbor} (h : part.Subperm all) :
    (part.map Neighbor.id).Subperm (all.map Neighbor.id) := by
  obtain ⟨l, hperm, hsub⟩ := h
  exact ⟨l.map Neighbor.id, hperm.map Neighbor.id, hsub.map Neighbor.id⟩

namespace BuiltinIndex

/-- How many of the stored vectors a search can find. -/
noncomputable def findable (m : MetricSpace) (query : Encoded) : BuiltinIndex → Nat
  | layered ix => ix.graph.findable m.dist query
  | ix => ix.size

/-- An index over one vector for each of the given ids, as loading leaves it. -/
inductive Holds (ids : List Int) : BuiltinIndex → Prop where
  | layered (ix : LayeredIndex) (hchecked : ix.graph.checkIntegrity = .ok ())
      (hids : (Graph.entriesOf ix.graph.nodes).map Entry.id = ids) : Holds ids (layered ix)
  | exact (ix : ExactIndex) (hids : ix.entries.map Entry.id = ids) : Holds ids (exact ix)

namespace Holds

variable {ids : List Int} {ix : BuiltinIndex}

theorem size_eq (h : Holds ids ix) : ix.size = ids.length := by
  cases h with
  | layered ix hchecked hids =>
      rw [← hids, List.length_map, Graph.entriesOf_length]
      rfl
  | exact ix hids =>
      rw [← hids, List.length_map]
      rfl

theorem findable_le (h : Holds ids ix) (m : MetricSpace) (query : Encoded) :
    ix.findable m query ≤ ids.length := by
  rw [← h.size_eq]
  cases h with
  | layered ix hchecked hids => exact Graph.findable_le_size hchecked
  | exact ix hids => exact le_refl _

/-- A search answers as many neighbours as are asked for and can be found, each under one of the
ids. -/
theorem search_count (h : Holds ids ix) (m : MetricSpace) (query : Encoded) {k : Nat} (hk : 1 ≤ k) :
    ∃ q, ix.search m ⟨query, k⟩ = .ok q ∧ (q.toSorted.map Neighbor.id).Subperm ids ∧
      q.toSorted.length = min k (ix.findable m query) := by
  cases h with
  | layered ix hchecked hids =>
      obtain ⟨q, hsearch, hpart, hcount⟩ := Graph.search_count m.dist query hk hchecked
      refine ⟨q, LayeredIndex.search_of_some hsearch, ?_, hcount⟩
      rw [← hids, ← Graph.neighbors_ids m.dist ix.graph.nodes query]
      exact ids_subperm hpart
  | exact ix hids =>
      refine ⟨_, rfl, ?_, ?_⟩
      · have hpart := (TopK.offered_retains k (ix.entries.map fun e =>
          (⟨e.id, m.dist query e.vector⟩ : Neighbor))).toSorted_subperm
        rw [← hids]
        simpa [ExactIndex.search, Function.comp_def] using ids_subperm hpart
      · rw [ExactIndex.search, TopK.offered_length, List.length_map]
        rfl

end Holds

end BuiltinIndex

/-- How many of the stored vectors a query can find. -/
noncomputable def LoadedIndex.findable (h : LoadedIndex BuiltinIndex) (raw : RawVector) : Nat :=
  match h.space.encode raw with
  | .error _ => 0
  | .ok vector => h.index.findable h.metric vector

namespace Engine

variable {kind : BackendKind} {ids : List Int} {vectors : List RawVector} {space : Space}
  {params : BuildParams} {output : String} {w w₁ w₂ w₃ : World} {manifest : Manifest}
  {tuning : QueryParams} {h : LoadedIndex BuiltinIndex}

theorem reread_ids {entries entries' : List Entry}
    (hreread : entries.mapM Entry.reread = some entries') :
    entries'.map Entry.id = entries.map Entry.id := by
  have hentries := Json.mapM_forall₂ hreread
  clear hreread
  induction hentries with
  | nil => rfl
  | cons he _ ih => rw [List.map_cons, List.map_cons, ih, (Entry.reread_spec he).2.1]

/-- The graph of a layered index that was built and loaded: the one over the batch, read back. -/
theorem loaded_layered
    (hbuild : build BackendKind.layered.backend ids vectors space params output w =
      (.ok manifest, w₁))
    (hfiles : w₂.files = w₁.files)
    (hload : load BackendKind.layered.backend output space tuning w₂ = (.ok h, w₃)) :
    ∃ dataset g g' efSearch, Dataset.build space ids vectors = .ok dataset ∧
      LayeredIndex.Accepts dataset params.toParams params.links params.beam ∧
      Graph.build space.distance (Level.ofNode params.links)
        ((LayeredIndex.fresh (.standard space)).buildConfig params.links params.beam)
        dataset.entries = some g ∧
      Graph.Reread g g' ∧ g'.checkIntegrity = .ok () ∧ h.metric = .standard space ∧
      h.index = .layered ⟨space, { g' with config := { g'.config with efSearch } }⟩ := by
  obtain ⟨dataset, metric, index, -, hbuilt⟩ := build_spec hbuild
  obtain ⟨links, ef, g, haccepts, hgraph, -, hopen⟩ := hbuilt.layered
  rw [← hfiles] at hopen
  obtain ⟨hmetric, g', hreread, hchecked, hset⟩ := (load_spec hload).layered hopen
  obtain ⟨efSearch, hindex⟩ := BuiltinIndex.layered_of_setParams hset
  obtain rfl := haccepts.links_eq
  obtain rfl := haccepts.beam_eq
  exact ⟨dataset, g, g', efSearch, hbuilt.batch, haccepts, hgraph, Graph.reread_spec hreread,
    hchecked, hmetric, hindex⟩

/-- The vectors of an exact index that was built and loaded: those of the batch, read back. -/
theorem loaded_exact
    (hbuild : build BackendKind.exact.backend ids vectors space params output w =
      (.ok manifest, w₁))
    (hfiles : w₂.files = w₁.files)
    (hload : load BackendKind.exact.backend output space tuning w₂ = (.ok h, w₃)) :
    ∃ dataset entries, Dataset.build space ids vectors = .ok dataset ∧
      dataset.entries.mapM Entry.reread = some entries ∧ h.metric = .standard space ∧
      h.index = .exact ⟨space, entries⟩ := by
  obtain ⟨dataset, metric, index, -, hbuilt⟩ := build_spec hbuild
  have hopen := hbuilt.exact.2
  rw [← hfiles] at hopen
  obtain ⟨hmetric, entries, hreread, hset⟩ := (load_spec hload).exact hopen
  exact ⟨dataset, entries, hbuilt.batch, hreread, hmetric, BuiltinIndex.exact_of_setParams hset⟩

/-- What was built and loaded holds the vectors of the batch under their ids. -/
theorem loaded_holds (hkind : kind ≠ .dense)
    (hbuild : build kind.backend ids vectors space params output w = (.ok manifest, w₁))
    (hfiles : w₂.files = w₁.files)
    (hload : load kind.backend output space tuning w₂ = (.ok h, w₃)) :
    h.index.Holds ids := by
  cases kind with
  | dense => exact absurd rfl hkind
  | layered =>
      obtain ⟨dataset, g, g', efSearch, hbatch, -, hgraph, hreread, hchecked, -, hindex⟩ :=
        loaded_layered hbuild hfiles hload
      obtain ⟨-, -, hentries⟩ := Graph.wellFormed_of_build hgraph
      obtain ⟨-, -, hids, -⟩ := Dataset.build_spec hbatch
      rw [hindex]
      apply BuiltinIndex.Holds.layered _ hchecked
      rw [hreread.ids, hentries, hids]
  | exact =>
      obtain ⟨dataset, entries, hbatch, hreread, -, hindex⟩ := loaded_exact hbuild hfiles hload
      obtain ⟨-, -, hids, -⟩ := Dataset.build_spec hbatch
      rw [hindex]
      exact .exact _ ((reread_ids hreread).trans hids)

/-- Every vector of a small layered index can be found, and every vector of an exact one. -/
theorem findable_of_small
    (hbuild : build kind.backend ids vectors space params output w = (.ok manifest, w₁))
    (hfiles : w₂.files = w₁.files)
    (hload : load kind.backend output space tuning w₂ = (.ok h, w₃)) (hkind : kind ≠ .dense)
    (hsmall : kind = .exact ∨ ids.length ≤ 2 * params.links + 1) (query : Encoded) :
    h.index.findable h.metric query = ids.length := by
  have hholds := loaded_holds hkind hbuild hfiles hload
  rw [← hholds.size_eq]
  cases kind with
  | dense => exact absurd rfl hkind
  | layered =>
      obtain ⟨dataset, g, g', efSearch, hbatch, -, hgraph, hreread, hchecked, -, hindex⟩ :=
        loaded_layered hbuild hfiles hload
      have hroom := hsmall.resolve_left (by decide)
      obtain ⟨-, -, hids, -⟩ := Dataset.build_spec hbatch
      rw [← hids, List.length_map] at hroom
      have hconnected := Graph.connected_of_build hgraph (by
        simp only [LayeredIndex.buildConfig]
        omega)
      rw [hindex]
      exact Graph.findable_of_connected (g := { g' with config := { g'.config with efSearch } })
        hchecked (hreread.connected hconnected)
  | exact =>
      obtain ⟨dataset, entries, -, -, -, hindex⟩ := loaded_exact hbuild hfiles hload
      rw [hindex]
      rfl

/-- The manifest of an index that was built is the one it is loaded under. -/
theorem loaded_manifest
    (hbuild : build kind.backend ids vectors space params output w = (.ok manifest, w₁))
    (hfiles : w₂.files = w₁.files)
    (hload : load kind.backend output space tuning w₂ = (.ok h, w₃)) :
    h.manifest = manifest := by
  obtain ⟨dataset, metric, index, rfl, hbuilt⟩ := build_spec hbuild
  obtain ⟨fs, -, hwrite⟩ := hbuilt.saved
  have hread := (load_spec hload).described
  rw [hfiles] at hread
  exact Manifest.eq_of_read hwrite hread

/-- A query that is not refused is answered by a search. -/
theorem query_of_search {σ : Type} {h : LoadedIndex σ} {raw : RawVector} {vector : Encoded}
    {q : TopK} {k : Nat} (hk : k ≠ 0)
    (hlength : h.space.hasFixedDimension = true → raw.length = h.dimension)
    (hvector : h.space.encode raw = .ok vector)
    (hsearch : h.backend.search h.metric ⟨vector, k⟩ h.index = .ok q) :
    h.query raw k = .ok q.toSorted := by
  unfold LoadedIndex.query
  rw [if_neg hk, if_neg fun hmismatch => hmismatch.2 (hlength hmismatch.1), hvector]
  simp only [bind, Except.bind, hsearch]
  rfl

/-- A query answers as many stored vectors as are asked for and can be found. -/
theorem exists_query (hkind : kind ≠ .dense)
    (hbuild : build kind.backend ids vectors space params output w = (.ok manifest, w₁))
    (hfiles : w₂.files = w₁.files)
    (hload : load kind.backend output space tuning w₂ = (.ok h, w₃)) (raw : RawVector)
    (hraw : space.hasFixedDimension = true → raw.length = h.dimension) {k : Nat} (hk : 1 ≤ k) :
    ∃ vector results, h.findable raw = h.index.findable h.metric vector ∧
      h.query raw k = .ok results ∧ (results.map Neighbor.id).Subperm ids ∧
      results.length = min k (h.findable raw) := by
  have hholds := loaded_holds hkind hbuild hfiles hload
  have hsame := loaded_manifest hbuild hfiles hload
  obtain ⟨dataset, metric, index, rfl, hbuilt⟩ := build_spec hbuild
  obtain ⟨-, hshaped, -, -⟩ := Dataset.build_spec hbuilt.batch
  have hspace : h.space = space := by rw [LoadedIndex.space, hsame, manifestOf]
  have hdimension : h.dimension = dataset.dimension := by
    rw [LoadedIndex.dimension, hsame, manifestOf]
  obtain ⟨vector, hvector⟩ := Dataset.exists_encode hshaped fun hfixed =>
    (hraw hfixed).trans hdimension
  obtain ⟨q, hsearch, hpart, hcount⟩ := hholds.search_count h.metric vector hk
  have hfindable : h.findable raw = h.index.findable h.metric vector := by
    rw [LoadedIndex.findable, hspace, hvector]
  have hheld : h.backend.search h.metric ⟨vector, k⟩ h.index = .ok q := by
    rw [(load_spec hload).held]
    exact hsearch
  have hquery : h.query raw k = .ok q.toSorted :=
    query_of_search (by omega) (fun hfixed => hraw (hspace ▸ hfixed)) (hspace ▸ hvector) hheld
  exact ⟨vector, q.toSorted, hfindable, hquery, hpart, hcount.trans (by rw [hfindable])⟩

/-- What the results of a query have to be where some of the vectors can be found: as many as are
asked for and can be found, each under an id of its own. They are as many as are asked for and
stored exactly where enough can be found, and then asking for all gives all. -/
structure Answered (ids : List Int) (findable k : Nat) (results : List Neighbor) : Prop where
  distinct : (results.map Neighbor.id).Nodup
  stored : ∀ r ∈ results, r.id ∈ ids
  count : results.length = min k findable
  full : results.length = min k ids.length ↔ min k ids.length ≤ findable
  everything : ids.length ≤ k → ids.length ≤ findable → (results.map Neighbor.id).Perm ids

/-- A query of an index that was built and loaded answers as many results as are asked for and can
be found. In an exact index and in a small layered one everything can be found. -/
theorem query_count (hkind : kind ≠ .dense)
    (hbuild : build kind.backend ids vectors space params output w = (.ok manifest, w₁))
    (hfiles : w₂.files = w₁.files)
    (hload : load kind.backend output space tuning w₂ = (.ok h, w₃)) (raw : RawVector)
    (hraw : space.hasFixedDimension = true → raw.length = h.dimension) {k : Nat} (hk : 1 ≤ k) :
    ∃ results, h.query raw k = .ok results ∧ Answered ids (h.findable raw) k results ∧
      (kind = .exact ∨ ids.length ≤ 2 * params.links + 1 → h.findable raw = ids.length) := by
  have hholds := loaded_holds hkind hbuild hfiles hload
  obtain ⟨dataset, metric, index, -, hbuilt⟩ := build_spec hbuild
  obtain ⟨-, hshaped, -, -⟩ := Dataset.build_spec hbuilt.batch
  obtain ⟨vector, results, hfindable, hquery, hpart, hcount⟩ :=
    exists_query hkind hbuild hfiles hload raw hraw hk
  have hle := hholds.findable_le h.metric vector
  rw [← hfindable] at hle
  refine ⟨results, hquery, ?_, fun hsmall => ?_⟩
  · refine
      { distinct := ?_, stored := ?_, count := hcount, full := by omega, everything := ?_ }
    · obtain ⟨l, hperm, hsub⟩ := hpart
      exact hperm.nodup_iff.mp (hshaped.distinct.sublist hsub)
    · intro r hr
      exact hpart.subset (List.mem_map_of_mem hr)
    · intro hk' henough
      apply hpart.perm_of_length_le
      rw [List.length_map, hcount]
      omega
  · rw [hfindable, findable_of_small hbuild hfiles hload hkind hsmall]

section Alike

/-- Five equal vectors, and two that are nearer to those than to each other. -/
def alike : List RawVector := List.replicate 5 [1, 1] ++ [[1, 0], [0, 1]]

def alikeCrowd : List Entry := [1, 2, 3, 4, 5].map fun id => ⟨id, .sparse [0, 1]⟩

def alikeOthers : List Entry := [⟨6, .sparse [0]⟩, ⟨7, .sparse [1]⟩]

theorem alike_batch : Dataset.build .sparseJaccard [1, 2, 3, 4, 5, 6, 7] alike =
    .ok ⟨.sparseJaccard, 2, alikeCrowd ++ alikeOthers⟩ := rfl

theorem alike_accepts : LayeredIndex.Accepts ⟨.sparseJaccard, 2, alikeCrowd ++ alikeOthers⟩
    (BuildParams.toParams ⟨none, some 2, none⟩) 2 200 where
  known := rfl
  given := ⟨some 2, by decide, rfl⟩
  enough := le_refl 2
  inWord := by decide
  beam := ⟨none, rfl, rfl⟩
  threads := ⟨none, rfl⟩
  inMemory := by decide

theorem alike_reread : ∀ e ∈ alikeCrowd ++ alikeOthers, ∃ e', e.reread = some e' := by
  intro e he
  have hplain : ∀ e ∈ alikeCrowd ++ alikeOthers,
      Number.fitsSigned 64 e.id = true ∧ e.vector.encoding ≠ .dense := by decide
  obtain ⟨hid, hsparse⟩ := hplain e he
  exact ⟨e, Entry.reread_eq hid hsparse⟩

/-- An index over them can be built and loaded. -/
theorem alike_loaded : ∃ manifest w₁ h w₂,
    build BackendKind.layered.backend [1, 2, 3, 4, 5, 6, 7] alike .sparseJaccard
      ⟨none, some 2, none⟩ "a.idx" ⟨⟨[], []⟩, 0, []⟩ = (.ok manifest, w₁) ∧
    load BackendKind.layered.backend "a.idx" .sparseJaccard .unset w₁ = (.ok h, w₂) := by
  obtain ⟨w₁, hbuild⟩ := exists_first_build_layered rfl alike_batch alike_accepts
  obtain ⟨h, w₂, hload⟩ := exists_load (by decide) hbuild rfl alike_batch (by decide)
    (fun _ => by decide) alike_reread (show QueryParams.unset.validate = .ok () from rfl)
    (by decide)
  exact ⟨_, w₁, h, w₂, hbuild, hload⟩

theorem query_count_alike : ∃ manifest w₁ h w₂ results,
    build BackendKind.layered.backend [1, 2, 3, 4, 5, 6, 7] alike .sparseJaccard
      ⟨none, some 2, none⟩ "a.idx" ⟨⟨[], []⟩, 0, []⟩ = (.ok manifest, w₁) ∧
    load BackendKind.layered.backend "a.idx" .sparseJaccard .unset w₁ = (.ok h, w₂) ∧
    h.query [1, 1] 7 = .ok results ∧
    Answered [1, 2, 3, 4, 5, 6, 7] (h.findable [1, 1]) 7 results := by
  obtain ⟨manifest, w₁, h, w₂, hbuild, hload⟩ := alike_loaded
  obtain ⟨results, hquery, hanswered, -⟩ := query_count (by decide) hbuild rfl hload
    [1, 1] (fun hfixed => absurd hfixed (by decide)) (show 1 ≤ 7 by decide)
  exact ⟨manifest, w₁, h, w₂, results, hbuild, hload, hquery, hanswered⟩

end Alike

end Engine

end Vicinity
