import Vicinity.Proofs.Graph.Relabel
import Vicinity.Proofs.Index.Reopened

/-!
Indexes over the same vectors under other ids. Where the new ids stand in the order of the old ones,
every index over a batch is made or refused in the same way, is the same up to ids, and answers
every query with the same neighbours under their other ids.
-/

namespace Vicinity

variable {f : Int → Int}

/-! Searches -/

def LayeredIndex.relabel (f : Int → Int) (ix : LayeredIndex) : LayeredIndex :=
  { ix with graph := ix.graph.relabel f }

def ExactIndex.relabel (f : Int → Int) (ix : ExactIndex) : ExactIndex :=
  { ix with entries := ix.entries.map (Entry.relabel f) }

def DenseIndex.relabel (f : Int → Int) (ix : DenseIndex) : DenseIndex :=
  { ix with ids := ix.ids.map f }

theorem LayeredIndex.search_relabel (m : MetricSpace) (q : Query) (ix : LayeredIndex)
    (hf : StrictMonoOn f {id | id ∈ (Graph.entriesOf ix.graph.nodes).map Entry.id}) :
    (ix.relabel f).search m q = (ix.search m q).map (TopK.relabel f) := by
  rw [search, search, relabel, Graph.search_relabel m.dist ix.graph q.vector q.k hf]
  cases Graph.search m.dist ix.graph q.vector q.k <;> rfl

theorem ExactIndex.search_relabel (m : MetricSpace) (q : Query) (ix : ExactIndex)
    (hf : StrictMonoOn f {id | id ∈ ix.entries.map Entry.id}) :
    (ix.relabel f).search m q = (ix.search m q).relabel f := by
  have hids : ∀ n ∈ ix.entries.map fun e => (⟨e.id, m.dist q.vector e.vector⟩ : Neighbor),
      n.id ∈ {id | id ∈ ix.entries.map Entry.id} := by
    intro n hn
    obtain ⟨e, he, rfl⟩ := List.mem_map.mp hn
    exact List.mem_map_of_mem (f := Entry.id) he
  rw [search, search, ← TopK.offered_relabel hf q.k hids, relabel, List.map_map, List.map_map]
  rfl

namespace DenseIndex

theorem neighborAt_relabel (ix : DenseIndex) (found : Nat × Single) :
    (ix.relabel f).neighborAt found = Neighbor.relabel f <$> ix.neighborAt found := by
  rw [neighborAt, neighborAt, relabel, List.getElem?_map]
  cases ix.ids[found.1]? <;> rfl

theorem ids_of_neighborAt {ix : DenseIndex} {found : List (Nat × Single)}
    {neighbors : List Neighbor} (h : found.mapM ix.neighborAt = .ok neighbors) :
    ∀ n ∈ neighbors, n.id ∈ ix.ids := by
  induction found generalizing neighbors with
  | nil =>
      cases Except.ok.inj h
      exact fun n hn => absurd hn List.not_mem_nil
  | cons s rest ih =>
      rw [List.mapM_cons] at h
      obtain ⟨n, hn, h⟩ := bind_eq_ok_iff.mp h
      obtain ⟨others, hothers, h⟩ := bind_eq_ok_iff.mp h
      cases Except.ok.inj h
      intro k hk
      rcases List.mem_cons.mp hk with rfl | hk
      · unfold neighborAt at hn
        split at hn
        · simp at hn
        · rename_i id hid
          cases Except.ok.inj hn
          exact List.mem_of_getElem? hid
      · exact ih hothers k hk

/-- However the table is searched, what is found at its positions goes by the other ids. -/
theorem searchBy_relabel (table : TableSearch) (q : Query) (ix : DenseIndex)
    (hf : StrictMonoOn f {id | id ∈ ix.ids}) :
    (ix.relabel f).searchBy table q = (ix.searchBy table q).map (TopK.relabel f) := by
  have htable : (ix.relabel f).table = ix.table := rfl
  unfold searchBy
  rw [htable]
  cases ix.table with
  | none => rfl
  | some t =>
  cases q.vector.dense? with
  | none => rfl
  | some v =>
  dsimp only
  split
  · rfl
  cases table t v (min q.k t.vectors.length) with
  | error e => rfl
  | ok found =>
  simp only [bind, Except.bind, mapM_map_eq (Neighbor.relabel f) (neighborAt_relabel ix) found]
  cases hneighbors : found.mapM ix.neighborAt with
  | error e => rfl
  | ok neighbors =>
      exact congrArg Except.ok (TopK.offered_relabel hf q.k (ids_of_neighborAt hneighbors))

end DenseIndex

/-! Construction -/

section Construct

variable (m : MetricSpace) (dataset : Dataset) (params : Params)

theorem LayeredIndex.constructWith_relabel (levels : Nat → Nat → Nat) (ix : LayeredIndex) :
    (ix.relabel f).constructWith levels m (dataset.relabel f) params =
      (ix.constructWith levels m dataset params).map id (relabel f) := by
  unfold constructWith
  rw [Dataset.relabel_size]
  cases params.checkKnown constructNames with
  | error e => rfl
  | ok _ =>
  cases params.getPositive? ParamName.m with
  | error e => rfl
  | ok given =>
  dsimp only
  split
  · rfl
  split
  · rfl
  cases params.getPositive? ParamName.efConstruction with
  | error e => rfl
  | ok beam =>
  cases params.getPositive? ParamName.threadCount with
  | error e => rfl
  | ok threads =>
  dsimp only
  split
  · rw [Dataset.relabel, Graph.build_relabel]
    exact match Graph.build m.dist _ _ dataset.entries with
      | none => rfl
      | some graph => rfl
  · rfl

theorem ExactIndex.construct_relabel (ix : ExactIndex) :
    (ix.relabel f).construct (dataset.relabel f) params =
      (ix.construct dataset params).map id (relabel f) := by
  unfold construct
  cases params.checkKnown constructNames <;> rfl

theorem DenseIndex.denseVectors_relabel (entries : List Entry) :
    denseVectors (entries.map (Entry.relabel f)) = denseVectors entries := by
  induction entries with
  | nil => rfl
  | cons e rest ih => rw [List.map_cons, denseVectors, denseVectors, ih]; rfl

theorem DenseIndex.construct_relabel (ix : DenseIndex) :
    (ix.relabel f).construct (dataset.relabel f) params =
      (ix.construct dataset params).map id (relabel f) := by
  unfold construct
  cases checkPositive params constructNames
      [ParamName.m, ParamName.efConstruction, ParamName.threadCount] with
  | error e => rfl
  | ok _ =>
  rw [Dataset.relabel, denseVectors_relabel]
  cases denseVectors dataset.entries with
  | error e => rfl
  | ok vectors =>
      have hids : (dataset.entries.map (Entry.relabel f)).map (·.id) =
          (dataset.entries.map (·.id)).map f := by
        rw [List.map_map, List.map_map]
        rfl
      simp only [hids]
      rfl

end Construct

namespace BuiltinIndex

/-- The index with other ids. Nothing else of it changes. -/
def relabel (f : Int → Int) : BuiltinIndex → BuiltinIndex
  | layered ix => layered (ix.relabel f)
  | exact ix => exact (ix.relabel f)
  | dense ix => dense (ix.relabel f)

/-- The ids under which an index answers. -/
def ids : BuiltinIndex → List Int
  | layered ix => (Graph.entriesOf ix.graph.nodes).map Entry.id
  | exact ix => ix.entries.map Entry.id
  | dense ix => ix.ids

/-- An index answers under other ids what it answered, if these stand in the same order. -/
theorem searchBy_relabel (table : TableSearch) (m : MetricSpace) (q : Query) (ix : BuiltinIndex)
    (hf : StrictMonoOn f {id | id ∈ ix.ids}) :
    (ix.relabel f).searchBy table m q = (ix.searchBy table m q).map (TopK.relabel f) := by
  cases ix with
  | layered ix => exact ix.search_relabel m q hf
  | exact ix => exact congrArg Except.ok (ix.search_relabel m q hf)
  | dense ix => exact ix.searchBy_relabel table q hf

variable (params : Params) (m : MetricSpace) (dataset : Dataset) (ix : BuiltinIndex)

theorem construct_relabel :
    (ix.relabel f).construct m (dataset.relabel f) params =
      (ix.construct m dataset params).map id (relabel f) := by
  cases ix with
  | layered ix =>
      exact congrArg (Prod.map id layered) (ix.constructWith_relabel m dataset params Level.ofNode)
  | exact ix => exact congrArg (Prod.map id exact) (ix.construct_relabel dataset params)
  | dense ix => exact congrArg (Prod.map id dense) (ix.construct_relabel dataset params)

theorem setParams_relabel :
    (ix.relabel f).setParams params = (ix.setParams params).map id (relabel f) := by
  cases ix with
  | layered ix =>
      simp only [relabel, setParams, LayeredIndex.setParams]
      cases params.checkKnown searchNames with
      | error e => rfl
      | ok _ =>
      cases params.getPositive? ParamName.efSearch with
      | error e => rfl
      | ok given => cases given <;> rfl
  | exact ix => rfl
  | dense ix => rfl

theorem ids_of_construct {ix' : BuiltinIndex} (h : ix.construct m dataset params = (.ok (), ix')) :
    ix'.ids = dataset.entries.map Entry.id := by
  cases ix with
  | layered ix =>
      obtain ⟨built, hbuilt, rfl⟩ := map_eq_ok (f := layered) (r := ix.construct m dataset params) h
      obtain ⟨links, ef, g, -, hgraph, rfl⟩ := LayeredIndex.constructWith_spec hbuilt
      obtain ⟨-, -, hentries⟩ := Graph.wellFormed_of_build hgraph
      exact congrArg (List.map Entry.id) hentries
  | exact ix =>
      obtain ⟨built, hbuilt, rfl⟩ := map_eq_ok (f := exact) (r := ix.construct dataset params) h
      unfold ExactIndex.construct at hbuilt
      split at hbuilt
      · simp at hbuilt
      · cases (Prod.mk.inj hbuilt).2
        rfl
  | dense ix =>
      obtain ⟨built, hbuilt, rfl⟩ := map_eq_ok (f := dense) (r := ix.construct dataset params) h
      unfold DenseIndex.construct at hbuilt
      split at hbuilt
      · simp at hbuilt
      split at hbuilt
      · simp at hbuilt
      · cases (Prod.mk.inj hbuilt).2
        rfl

theorem ids_of_setParams {ix' : BuiltinIndex} (h : ix.setParams params = (.ok (), ix')) :
    ix'.ids = ix.ids := by
  cases ix with
  | layered ix =>
      obtain ⟨tuned, htuned, rfl⟩ := map_eq_ok (f := layered) (r := ix.setParams params) h
      obtain ⟨efSearch, rfl⟩ := LayeredIndex.setParams_spec htuned
      rfl
  | exact ix =>
      cases (Prod.mk.inj h).2
      rfl
  | dense ix =>
      cases (Prod.mk.inj h).2
      rfl

end BuiltinIndex

namespace BackendKind

variable (kind : BackendKind) (m : MetricSpace) (dataset : Dataset) (params tuning : Params)

/-- An index that is still empty has no ids. -/
theorem relabel_of_create {empty : BuiltinIndex} (h : BuiltinIndex.create m kind = .ok empty) :
    empty.relabel f = empty := by
  cases kind with
  | layered =>
      cases Except.ok.inj h
      exact congrArg (fun g => BuiltinIndex.layered ⟨m.space, g⟩) (Graph.relabel_empty _)
  | exact =>
      cases Except.ok.inj h
      rfl
  | dense =>
      simp only [BuiltinIndex.create] at h
      cases hspace : DenseIndex.checkSpace m.space with
      | error e => simp [hspace, Except.map] at h
      | ok _ =>
          rw [hspace] at h
          cases Except.ok.inj h
          rfl

/-- The index over a dataset with other ids is the same up to ids, or refused in the same way. -/
theorem indexOver_relabel : kind.indexOver m (dataset.relabel f) params tuning =
    (kind.indexOver m dataset params tuning).map (BuiltinIndex.relabel f) := by
  unfold indexOver
  cases hempty : BuiltinIndex.create m kind with
  | error e => rfl
  | ok empty =>
  have hconstruct := empty.construct_relabel (f := f) params m dataset
  rw [relabel_of_create kind m hempty] at hconstruct
  simp only [bind, Except.bind, hconstruct]
  obtain ⟨outcome, built⟩ := empty.construct m dataset params
  cases outcome with
  | error e => rfl
  | ok _ =>
  simp only [Prod.map, id_eq, BuiltinIndex.setParams_relabel tuning]
  obtain ⟨outcome, tuned⟩ := built.setParams tuning
  cases outcome <;> rfl

/-- An index over a dataset answers under its ids. -/
theorem ids_of_indexOver {index : BuiltinIndex}
    (h : kind.indexOver m dataset params tuning = .ok index) :
    index.ids = dataset.entries.map Entry.id := by
  obtain ⟨empty, built, -, hconstruct, hset⟩ := indexOver_eq_ok_iff.mp h
  rw [built.ids_of_setParams tuning hset, empty.ids_of_construct params m dataset hconstruct]

end BackendKind

/-! Answers -/

namespace Engine

variable {kind : BackendKind} {ids : List Int} {vectors : List RawVector} {space : Space}
  {params : BuildParams} {tuning : QueryParams} {h h' : LoadedIndex BuiltinIndex}

/-- A reopened index answers queries under other ids as it answered them. -/
theorem Reopened.query_relabel (hopened : Reopened kind ids vectors space params tuning h)
    (hopened' : Reopened kind (ids.map f) vectors space params tuning h') (hkind : kind ≠ .dense)
    {dataset : Dataset} (hbatch : Dataset.build space ids vectors = .ok dataset)
    (hf : StrictMonoOn f {id | id ∈ ids}) (raw : RawVector) (k : Nat) :
    h'.query raw k = (h.query raw k).map (List.map (Neighbor.relabel f)) := by
  obtain ⟨hheld, hspace, hdimension, hmetric, hindex⟩ := hopened.kept hkind hbatch
  obtain ⟨hheld', hspace', hdimension', hmetric', hindex'⟩ :=
    hopened'.kept hkind (Dataset.build_relabel hbatch hf.injOn)
  obtain ⟨-, -, hids, -⟩ := Dataset.build_spec hbatch
  have hsame : h'.metric = h.metric := Except.ok.inj (hmetric'.symm.trans hmetric)
  rw [hsame, kind.indexOver_relabel, hindex] at hindex'
  have hlabels : StrictMonoOn f {id | id ∈ h.index.ids} := by
    rwa [kind.ids_of_indexOver h.metric dataset _ _ hindex, hids]
  unfold LoadedIndex.query
  rw [hspace, hspace', hdimension, hdimension', hheld, hheld', hsame,
    ← Except.ok.inj hindex']
  have hsearch (q : Query) : kind.backend.search h.metric q (h.index.relabel f) =
      (kind.backend.search h.metric q h.index).map (TopK.relabel f) :=
    h.index.searchBy_relabel DenseTable.scan h.metric q hlabels
  split
  · rfl
  rw [show (dataset.relabel f).dimension = dataset.dimension from rfl]
  split
  · rfl
  cases space.encode raw with
  | error e => rfl
  | ok vector =>
  simp only [bind, Except.bind, hsearch]
  cases kind.backend.search h.metric ⟨vector, k⟩ h.index with
  | error e => rfl
  | ok found => exact congrArg Except.ok found.toSorted_relabel

end Engine

/-- Ids are labels. Where new ids stand in the order of the old ones, a batch that is accepted is
accepted under the new ids. Every index over it is made, or refused, in the same way, answers every
query with the same neighbours at the same distances under the new ids, and is linked in the same
way if it is layered; a dense one for every way to search its table. So do indexes that were saved
and loaded. -/
theorem answers_relabel {space : Space} {ids : List Int} {vectors : List RawVector}
    {dataset : Dataset} (hbatch : Dataset.build space ids vectors = .ok dataset)
    (hf : StrictMonoOn f {id | id ∈ ids}) :
    ∃ dataset', Dataset.build space (ids.map f) vectors = .ok dataset' ∧
      (∀ (kind : BackendKind) (m : MetricSpace) (params tuning : Params),
        (∀ e, kind.indexOver m dataset params tuning = .error e →
          kind.indexOver m dataset' params tuning = .error e) ∧
        ∀ index, kind.indexOver m dataset params tuning = .ok index →
          ∃ index', kind.indexOver m dataset' params tuning = .ok index' ∧
            (∀ (table : TableSearch) (q : Query),
              (index'.searchBy table m q).map TopK.toSorted =
                (index.searchBy table m q).map fun found =>
                  found.toSorted.map (Neighbor.relabel f)) ∧
            ∀ ix, index = .layered ix →
              ∃ ix', index' = .layered ix' ∧ Graph.SameLinks ix.graph ix'.graph) ∧
      ∀ kind params tuning h h', kind ≠ .dense →
        Engine.Reopened kind ids vectors space params tuning h →
        Engine.Reopened kind (ids.map f) vectors space params tuning h' →
        ∀ raw k, h'.query raw k = (h.query raw k).map (List.map (Neighbor.relabel f)) := by
  obtain ⟨-, -, hids, -⟩ := Dataset.build_spec hbatch
  refine ⟨dataset.relabel f, Dataset.build_relabel hbatch hf.injOn, ?_, ?_⟩
  · intro kind m params tuning
    have hover := kind.indexOver_relabel (f := f) m dataset params tuning
    refine ⟨fun e he => by rw [hover, he]; rfl, fun index hindex => ?_⟩
    refine ⟨index.relabel f, by rw [hover, hindex]; rfl, fun table q => ?_, ?_⟩
    · have hlabels : StrictMonoOn f {id | id ∈ index.ids} := by
        rwa [kind.ids_of_indexOver m dataset params tuning hindex, hids]
      rw [index.searchBy_relabel table m q hlabels]
      cases index.searchBy table m q with
      | error e => rfl
      | ok found => exact congrArg Except.ok found.toSorted_relabel
    · rintro ix rfl
      exact ⟨ix.relabel f, rfl, Graph.sameLinks_relabel ix.graph⟩
  · intro kind params tuning h h' hkind hopened hopened' raw k
    exact hopened.query_relabel hopened' hkind hbatch hf raw k

/-- Takes negative numbers to the least number of 64 bits and all others to the greatest. -/
def toExtremes (id : Int) : Int :=
  if id < 0 then -9223372036854775808 else 9223372036854775807

theorem toExtremes_mono : StrictMonoOn toExtremes {id | id ∈ [4, -3]} := by
  have hlt : ∀ a ∈ [4, -3], ∀ b ∈ [4, -3], a < b → toExtremes a < toExtremes b := by decide
  exact fun a ha b hb hab => hlt a ha b hb hab

/-- Two ids moved to both ends of the numbers of 64 bits. -/
theorem answers_relabel_extremes : ∃ dataset dataset' ix ix',
    Dataset.build .l2 [4, -3] Engine.tenths = .ok dataset ∧
    Dataset.build .l2 [9223372036854775807, -9223372036854775808] Engine.tenths = .ok dataset' ∧
    BackendKind.layered.indexOver (.standard .l2) dataset BuildParams.unset.toParams
      QueryParams.unset.toParams = .ok (.layered ix) ∧
    BackendKind.layered.indexOver (.standard .l2) dataset' BuildParams.unset.toParams
      QueryParams.unset.toParams = .ok (.layered ix') ∧
    Graph.SameLinks ix.graph ix'.graph ∧
    ∀ q, (ix'.search (.standard .l2) q).map TopK.toSorted =
      (ix.search (.standard .l2) q).map fun found =>
        found.toSorted.map (Neighbor.relabel toExtremes) := by
  obtain ⟨dataset, hbatch⟩ : ∃ dataset, Dataset.build .l2 [4, -3] Engine.tenths = .ok dataset :=
    ⟨_, rfl⟩
  obtain ⟨ix, hindex⟩ := BackendKind.exists_indexOver (.standard .l2) dataset
  obtain ⟨dataset', hbatch', hindexes, -⟩ := answers_relabel hbatch toExtremes_mono
  obtain ⟨-, hmade⟩ := hindexes .layered (.standard .l2) BuildParams.unset.toParams
    QueryParams.unset.toParams
  obtain ⟨_, hindex', hanswers, hlinks⟩ := hmade _ hindex
  obtain ⟨ix', rfl, hsame⟩ := hlinks ix rfl
  exact ⟨dataset, dataset', ix, ix', hbatch, hbatch', hindex, hindex', hsame,
    fun q => hanswers DenseTable.scan q⟩

end Vicinity
