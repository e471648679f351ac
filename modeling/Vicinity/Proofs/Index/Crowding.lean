import Vicinity.Proofs.Graph.Crowding
import Vicinity.Proofs.Index.Query

/-!
Layered indexes that cannot be searched to their end. In a batch that starts with one vector more
than a list of links on level zero can hold, all close together, the vectors after those are not
linked to by any of them. No query finds more than one of them then, however many results it asks
for.
-/

namespace Vicinity

namespace Graph

variable {count : Nat} {g g' : Graph}

/-- A crowd is still one after the graph was written and read. -/
theorem Reread.crowded (h : Reread g g') (hcrowded : Crowded count g) : Crowded count g' := by
  refine { inside := fun i hi => ?_, outside := fun i hi hlt => ?_ }
  · rw [h.size_eq] at hi ⊢
    rw [h.linksOf_eq]
    exact hcrowded.inside i hi
  · rw [h.size_eq] at hlt
    rw [h.linksOf_eq]
    exact hcrowded.outside i hi hlt

end Graph

namespace Engine

variable {ids : List Int} {vectors : List RawVector} {space : Space} {params : BuildParams}
  {output : String} {w w₁ w₂ w₃ : World} {manifest : Manifest} {tuning : QueryParams}
  {h : LoadedIndex BuiltinIndex}

/-- A query finds the crowd of a batch and at most one vector outside it. -/
theorem findable_le_of_crowd
    (hbuild : build BackendKind.layered.backend ids vectors space params output w =
      (.ok manifest, w₁))
    (hfiles : w₂.files = w₁.files)
    (hload : load BackendKind.layered.backend output space tuning w₂ = (.ok h, w₃))
    {dimension : Nat} {crowd others : List Entry}
    (hbatch : Dataset.build space ids vectors = .ok ⟨space, dimension, crowd ++ others⟩)
    (hcrowd : Graph.Crowd space.distance crowd others)
    (hroom : crowd.length = 2 * params.links + 1)
    (hwide : (crowd ++ others).length ≤ params.beam) (raw : RawVector) :
    h.findable raw ≤ crowd.length + 1 := by
  obtain ⟨dataset, g, g', efSearch, hsame, haccepts, hgraph, hreread, -, -, hindex⟩ :=
    loaded_layered hbuild hfiles hload
  cases Except.ok.inj (hbatch.symm.trans hsame)
  have henough := haccepts.enough
  have hcrowded := Graph.crowded_of_build hgraph hcrowd
    (by simp only [LayeredIndex.buildConfig]; omega)
    (by simp only [LayeredIndex.buildConfig]; omega) hwide
  have hfound : ∀ vector, h.index.findable h.metric vector ≤ crowd.length + 1 := by
    intro vector
    rw [hindex]
    exact Graph.Crowded.findable_le (g := { g' with config := { g'.config with efSearch } })
      ⟨(hreread.crowded hcrowded).inside, (hreread.crowded hcrowded).outside⟩ _ vector
  unfold LoadedIndex.findable
  cases h.space.encode raw with
  | error e => exact Nat.zero_le _
  | ok vector => exact hfound vector

theorem alike_crowd : Graph.Crowd Space.sparseJaccard.distance alikeCrowd alikeOthers where
  close := by decide +kernel
  apart := by decide +kernel
  beyond := by decide +kernel

/-- Asking for all seven vectors gives at most six. -/
theorem query_short_alike : ∃ manifest w₁ h w₂ results,
    build BackendKind.layered.backend [1, 2, 3, 4, 5, 6, 7] alike .sparseJaccard
      ⟨none, some 2, none⟩ "a.idx" ⟨⟨[], []⟩, 0, []⟩ = (.ok manifest, w₁) ∧
    load BackendKind.layered.backend "a.idx" .sparseJaccard .unset w₁ = (.ok h, w₂) ∧
    h.query [1, 1] 7 = .ok results ∧ results.length ≤ 6 := by
  obtain ⟨manifest, w₁, h, w₂, hbuild, hload⟩ := alike_loaded
  obtain ⟨-, results, -, hquery, -, hcount⟩ := exists_query (by decide) hbuild rfl hload
    [1, 1] (fun hfixed => absurd hfixed (by decide)) (show 1 ≤ 7 by decide)
  have hfew := findable_le_of_crowd hbuild rfl hload alike_batch alike_crowd rfl (by decide) [1, 1]
  have hcrowd : alikeCrowd.length = 5 := rfl
  exact ⟨manifest, w₁, h, w₂, results, hbuild, hload, hquery, by omega⟩

end Engine

end Vicinity
