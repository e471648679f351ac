import Vicinity.Proofs.Index.Persistence

/-!
Indexes over a batch, apart from the files that they went through. One that was built, saved and
loaded is the one that the build made, tuned with the search parameters, so what holds of an index
over a dataset holds of every index that is queried.
-/

namespace Vicinity

namespace BackendKind

/-- An index of a backend over a dataset, built with some parameters and tuned with others. -/
def indexOver (kind : BackendKind) (m : MetricSpace) (dataset : Dataset) (params tuning : Params) :
    Except Error BuiltinIndex := do
  let empty ← BuiltinIndex.create m kind
  let (outcome, built) := empty.construct m dataset params
  outcome
  let (outcome, tuned) := built.setParams tuning
  outcome
  return tuned

theorem indexOver_eq_ok_iff {kind : BackendKind} {m : MetricSpace} {dataset : Dataset}
    {params tuning : Params} {index : BuiltinIndex} :
    kind.indexOver m dataset params tuning = .ok index ↔
      ∃ empty built, BuiltinIndex.create m kind = .ok empty ∧
        empty.construct m dataset params = (.ok (), built) ∧
        built.setParams tuning = (.ok (), index) := by
  constructor
  · intro h
    obtain ⟨empty, hempty, h⟩ := bind_eq_ok_iff.mp h
    obtain ⟨⟨⟩, hconstruct, h⟩ := bind_eq_ok_iff.mp h
    obtain ⟨⟨⟩, hset, h⟩ := bind_eq_ok_iff.mp h
    exact ⟨empty, _, hempty, Prod.ext hconstruct rfl, Prod.ext hset (Except.ok.inj h)⟩
  · rintro ⟨empty, built, hempty, hconstruct, hset⟩
    simp only [indexOver, hempty, bind, Except.bind, hconstruct, hset]
    rfl

section Spec

variable {m : MetricSpace} {dataset : Dataset} {params : BuildParams} {tuning : QueryParams}
  {index : BuiltinIndex}

/-- A layered index over a dataset is the graph over its entries, with the beam width that searches
ask for. -/
theorem indexOver_layered
    (h : layered.indexOver m dataset params.toParams tuning.toParams = .ok index) :
    ∃ g, Graph.build m.dist (Level.ofNode params.links)
        ((LayeredIndex.fresh m).buildConfig params.links params.beam) dataset.entries = some g ∧
      index = .layered
        ⟨m.space, { g with config := { g.config with efSearch := tuning.beam } }⟩ := by
  obtain ⟨empty, built, hempty, hconstruct, hset⟩ := indexOver_eq_ok_iff.mp h
  cases Except.ok.inj hempty
  obtain ⟨ix, hix, rfl⟩ := map_eq_ok (f := BuiltinIndex.layered)
    (r := (LayeredIndex.fresh m).construct m dataset params.toParams) hconstruct
  obtain ⟨links, ef, g, haccepts, hbuild, rfl⟩ := LayeredIndex.constructWith_spec hix
  obtain rfl := haccepts.links_eq
  obtain rfl := haccepts.beam_eq
  obtain ⟨ix', hix', rfl⟩ := map_eq_ok (f := BuiltinIndex.layered)
    (r := LayeredIndex.setParams tuning.toParams { LayeredIndex.fresh m with graph := g }) hset
  obtain ⟨-, hconfig, -⟩ := Graph.wellFormed_of_build hbuild
  refine ⟨g, hbuild, ?_⟩
  rw [LayeredIndex.setParams_eq hix', LayeredIndex.withConfig, hconfig]
  rfl

/-- An exact index over a dataset is its entries. -/
theorem indexOver_exact
    (h : exact.indexOver m dataset params.toParams tuning.toParams = .ok index) :
    index = .exact ⟨m.space, dataset.entries⟩ := by
  obtain ⟨empty, built, hempty, hconstruct, hset⟩ := indexOver_eq_ok_iff.mp h
  cases Except.ok.inj hempty
  obtain ⟨ix, hix, rfl⟩ := map_eq_ok (f := BuiltinIndex.exact)
    (r := (ExactIndex.fresh m).construct dataset params.toParams) hconstruct
  rw [ExactIndex.construct, params.checkKnown_toParams] at hix
  cases (Prod.mk.inj hix).2
  exact BuiltinIndex.exact_of_setParams hset

end Spec

/-- There is a layered index over every dataset. -/
theorem exists_indexOver (m : MetricSpace) (dataset : Dataset) :
    ∃ ix, layered.indexOver m dataset BuildParams.unset.toParams QueryParams.unset.toParams =
      .ok (.layered ix) := by
  obtain ⟨g, hconstruct, -⟩ := LayeredIndex.constructWith_wellFormed Level.ofNode m
    (LayeredIndex.fresh m) (LayeredIndex.accepts_unset dataset)
  have hbuilt : (BuiltinIndex.layered (.fresh m)).construct m dataset BuildParams.unset.toParams =
      (.ok (), .layered ⟨m.space, g⟩) := congrArg (Prod.map id BuiltinIndex.layered) hconstruct
  exact ⟨⟨m.space, g⟩, indexOver_eq_ok_iff.mpr ⟨_, _, rfl, hbuilt, rfl⟩⟩

end BackendKind

namespace Engine

variable {kind : BackendKind} {ids : List Int} {vectors : List RawVector} {space : Space}
  {params : BuildParams} {tuning : QueryParams} {h : LoadedIndex BuiltinIndex}

/-- Whether an index was built over a batch, saved, and loaded from there. -/
def Reopened (kind : BackendKind) (ids : List Int) (vectors : List RawVector) (space : Space)
    (params : BuildParams) (tuning : QueryParams) (h : LoadedIndex BuiltinIndex) : Prop :=
  ∃ output manifest w w₁ w₂ w₃,
    build kind.backend ids vectors space params output w = (.ok manifest, w₁) ∧
    w₂.files = w₁.files ∧ load kind.backend output space tuning w₂ = (.ok h, w₃)

/-- A reopened index is the one over the batch that was never saved. -/
theorem Reopened.kept (hopened : Reopened kind ids vectors space params tuning h)
    (hkind : kind ≠ .dense) {dataset : Dataset}
    (hbatch : Dataset.build space ids vectors = .ok dataset) :
    h.backend = kind.backend ∧ h.space = space ∧ h.dimension = dataset.dimension ∧
      kind.backend.createSpace space = .ok h.metric ∧
      kind.indexOver h.metric dataset params.toParams tuning.toParams = .ok h.index := by
  obtain ⟨output, manifest, w, w₁, w₂, w₃, hbuild, hfiles, hload⟩ := hopened
  have hsame := loaded_manifest hbuild hfiles hload
  have hloaded := load_spec hload
  obtain ⟨_, metric, index, rfl, hbuilt⟩ := build_spec hbuild
  cases Except.ok.inj (hbatch.symm.trans hbuilt.batch)
  obtain ⟨rfl, hset⟩ := setParams_of_loaded hkind hbuilt hfiles hloaded
  obtain ⟨empty, hempty, hconstruct⟩ := hbuilt.constructed
  refine ⟨hloaded.held, by rw [LoadedIndex.space, hsame]; rfl,
    by rw [LoadedIndex.dimension, hsame]; rfl, hbuilt.compared, ?_⟩
  exact BackendKind.indexOver_eq_ok_iff.mpr ⟨empty, index, hempty, hconstruct, hset⟩

/-- A reopened index compares vectors in the way of its space. -/
theorem Reopened.metric_eq (hopened : Reopened kind ids vectors space params tuning h)
    (hkind : kind ≠ .dense) : h.metric = .standard space := by
  obtain ⟨_, _, _, _, _, _, -, -, hload⟩ := hopened
  have hcompared := (load_spec hload).compared
  cases kind with
  | dense => exact absurd rfl hkind
  | layered => exact (Except.ok.inj hcompared).symm
  | exact => exact (Except.ok.inj hcompared).symm

/-- A query that is not refused is answered by a search of the index. -/
theorem Reopened.query_eq (hopened : Reopened kind ids vectors space params tuning h)
    (hkind : kind ≠ .dense) {dataset : Dataset}
    (hbatch : Dataset.build space ids vectors = .ok dataset) {raw : RawVector}
    (hraw : space.hasFixedDimension = true → raw.length = h.dimension) {vector : Encoded}
    (hvector : space.encode raw = .ok vector) {k : Nat} (hk : 1 ≤ k) {q : TopK}
    (hsearch : h.index.search h.metric ⟨vector, k⟩ = .ok q) : h.query raw k = .ok q.toSorted := by
  obtain ⟨hbackend, hspace, -⟩ := hopened.kept hkind hbatch
  refine query_of_search (by omega) (fun hfixed => hraw (hspace ▸ hfixed)) (hspace ▸ hvector) ?_
  rw [hbackend]
  exact hsearch

end Engine

end Vicinity
