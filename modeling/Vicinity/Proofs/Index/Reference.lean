import Vicinity.Proofs.Index.Persistence

/-!
The exact index as the measure for the others. A query of one that was built and loaded answers
what a plain scan does: all vectors of the batch with their distances, in order, cut off behind as
many as are asked for. So the answer does not depend on the order in which the batch was given.
-/

namespace Vicinity

open TopK (ranked)

variable {space : Space} {pairs pairs' : List (Int × RawVector)} {query : Encoded}
  {all all' : List Neighbor} {dimension : Nat}

theorem Space.hasFixedDimension_iff (s : Space) :
    s.hasFixedDimension = true ↔ s ≠ .sparseJaccard := by
  cases s <;> decide

/-- Whether neighbours are the vectors of a batch with their distances to a query, in the order of
the batch. -/
def Measures (space : Space) (query : Encoded) (pairs : List (Int × RawVector))
    (all : List Neighbor) : Prop :=
  List.Forall₂ (fun p n => n.id = p.1 ∧ ∃ v, space.encode p.2 = .ok v ∧
    n.distance = space.distance query v) pairs all

namespace Measures

theorem ids (h : Measures space query pairs all) : all.map Neighbor.id = pairs.map Prod.fst := by
  induction h with
  | nil => rfl
  | cons hid _ ih => rw [List.map_cons, List.map_cons, ih, hid.1]

theorem unique (h : Measures space query pairs all) (h' : Measures space query pairs all') :
    all = all' := by
  refine List.right_unique_forall₂' ?_ h h'
  rintro p ⟨id, distance⟩ ⟨id', distance'⟩ ⟨rfl, v, hv, rfl⟩ ⟨rfl, v', hv', rfl⟩
  rw [Except.ok.inj (hv.symm.trans hv')]

/-- The order of the batch is that of the neighbours. -/
theorem perm (hperm : pairs.Perm pairs') (h : Measures space query pairs all)
    (h' : Measures space query pairs' all') : all.Perm all' := by
  obtain ⟨all'', hmeasures, hall⟩ := List.perm_comp_forall₂ hperm h'
  rwa [h.unique hmeasures]

end Measures

/-- What a query has to answer over a batch: no results for none, none for a query of another length
than the vectors where lengths matter, and in all other cases the nearest. -/
structure ScansLike {σ : Type} (h : LoadedIndex σ) (space : Space) (dimension : Nat)
    (pairs : List (Int × RawVector)) : Prop where
  refused : ∀ raw, h.query raw 0 = .error (.badArgument (.notPositive "k"))
  mismatched : ∀ raw k, k ≠ 0 → space ≠ .sparseJaccard → raw.length ≠ dimension →
    h.query raw k = .error (.dimensionMismatch .queryLength dimension raw.length)
  nearest : ∀ raw k, k ≠ 0 → (space = .sparseJaccard ∨ raw.length = dimension) →
    ∃ query all, space.encode raw = .ok query ∧ Measures space query pairs all ∧
      h.query raw k = .ok ((ranked all).take k)

namespace ScansLike

variable {σ : Type} {h h' : LoadedIndex σ}

/-- A batch in another order is answered from in the same way. -/
theorem query_eq (hscan : ScansLike h space dimension pairs)
    (hscan' : ScansLike h' space dimension pairs') (hperm : pairs.Perm pairs')
    (hids : (pairs.map Prod.fst).Nodup) (raw : RawVector) (k : Nat) :
    h'.query raw k = h.query raw k := by
  by_cases hk : k = 0
  · rw [hk, hscan.refused, hscan'.refused]
  by_cases hfits : space = .sparseJaccard ∨ raw.length = dimension
  · obtain ⟨query, all, hquery, hall, hanswer⟩ := hscan.nearest raw k hk hfits
    obtain ⟨query', all', hquery', hall', hanswer'⟩ := hscan'.nearest raw k hk hfits
    obtain rfl : query = query' := Except.ok.inj (hquery.symm.trans hquery')
    have hsame := TopK.ranked_eq_of_perm (hall.perm hperm hall') (hall.ids ▸ hids)
    rw [hanswer, hanswer', hsame]
  · obtain ⟨hfixed, hlength⟩ := not_or.mp hfits
    rw [hscan.mismatched raw k hk hfixed hlength, hscan'.mismatched raw k hk hfixed hlength]

end ScansLike

namespace Engine

variable {ids : List Int} {vectors : List RawVector} {params : BuildParams}
  {tuning : QueryParams} {output : String} {w w₁ w₂ w₃ : World} {manifest : Manifest}
  {h : LoadedIndex BuiltinIndex}

/-- The entries of a batch stand for its vectors. -/
theorem measures_of_batch {dataset : Dataset}
    (hbatch : Dataset.build space ids vectors = .ok dataset) (query : Encoded) :
    Measures space query (ids.zip vectors)
      (dataset.entries.map fun e => ⟨e.id, space.distance query e.vector⟩) := by
  refine List.forall₂_map_right_iff.mpr ((Dataset.forall₂_zip hbatch).imp ?_)
  rintro p e ⟨hid, hvector⟩
  exact ⟨hid, e.vector, hvector, rfl⟩

/-- An exact index that was built and loaded answers like a scan of its batch. -/
theorem scansLike_of_loaded
    (hbuild : build BackendKind.exact.backend ids vectors space params output w =
      (.ok manifest, w₁))
    (hfiles : w₂.files = w₁.files)
    (hload : load BackendKind.exact.backend output space tuning w₂ = (.ok h, w₃)) :
    ScansLike h space manifest.dimension (ids.zip vectors) := by
  have hsame := loaded_manifest hbuild hfiles hload
  have hstorable := storable_of_load (by decide) hbuild hfiles hload
  obtain ⟨dataset, entries, hbatch, hreread, hmetric, hindex⟩ := loaded_exact hbuild hfiles hload
  obtain ⟨_, _, _, hmanifest, hbuilt⟩ := build_spec hbuild
  cases Except.ok.inj (hbatch.symm.trans hbuilt.batch)
  obtain ⟨-, hshaped, hids, -⟩ := Dataset.build_spec hbatch
  obtain rfl : entries = dataset.entries :=
    Entry.eq_of_vectors hreread (reread_of_storable hbatch hstorable)
  have hspace : h.space = space := by rw [LoadedIndex.space, hsame, hmanifest, manifestOf]
  have hdimension : h.dimension = dataset.dimension := by
    rw [LoadedIndex.dimension, hsame, hmanifest, manifestOf]
  have hasked : manifest.dimension = dataset.dimension := by rw [hmanifest, manifestOf]
  rw [hasked]
  refine ⟨fun raw => by rw [LoadedIndex.query, if_pos rfl], ?_, ?_⟩
  · intro raw k hk hfixed hlength
    have hmismatch : h.space.hasFixedDimension = true ∧ raw.length ≠ h.dimension :=
      ⟨hspace ▸ (Space.hasFixedDimension_iff space).mpr hfixed, hdimension ▸ hlength⟩
    rw [LoadedIndex.query, if_neg hk, if_pos hmismatch, hdimension]
  · intro raw k hk hfits
    have hlength : space.hasFixedDimension = true → raw.length = dataset.dimension := fun hfixed =>
      hfits.resolve_left ((Space.hasFixedDimension_iff space).mp hfixed)
    obtain ⟨query, hquery⟩ := Dataset.exists_encode hshaped hlength
    let all := dataset.entries.map fun e => Neighbor.mk e.id (space.distance query e.vector)
    have hall : Measures space query (ids.zip vectors) all := measures_of_batch hbatch query
    have hdistinct : (all.map Neighbor.id).Nodup := by
      rw [List.map_map]
      exact hids ▸ hshaped.distinct
    have hsearch : h.backend.search h.metric ⟨query, k⟩ h.index =
        .ok ((TopK.empty k).pushAll all) := by
      rw [(load_spec hload).held, hindex, hmetric]
      rfl
    refine ⟨query, all, hquery, hall, ?_⟩
    rw [query_of_search hk (fun hfixed => hdimension ▸ hlength (hspace ▸ hfixed)) (hspace ▸ hquery)
      hsearch, TopK.offered_eq_ranked hdistinct]

/-- A permuted batch has the same vectors. -/
theorem vectors_perm {ids' : List Int} {vectors' : List RawVector}
    (hperm : (ids.zip vectors).Perm (ids'.zip vectors')) (hlength : ids.length = vectors.length)
    (hlength' : ids'.length = vectors'.length) : vectors.Perm vectors' := by
  have hvectors := hperm.map Prod.snd
  rwa [List.map_snd_zip hlength.ge, List.map_snd_zip hlength'.ge] at hvectors

/-- A query of an exact index that was built and loaded gives the front of all vectors of the batch
in the order of their distances and, where these are equal, of their ids. It is refused only if no
results are asked for or if it is not as long as the vectors where that matters. The answer is the
same for every order of the batch. -/
theorem query_eq_ranked
    (hbuild : build BackendKind.exact.backend ids vectors space params output w =
      (.ok manifest, w₁))
    (hfiles : w₂.files = w₁.files)
    (hload : load BackendKind.exact.backend output space tuning w₂ = (.ok h, w₃)) :
    (∀ raw ∈ vectors, raw.length = manifest.dimension) ∧
    ScansLike h space manifest.dimension (ids.zip vectors) ∧
    ∀ {ids' : List Int} {vectors' : List RawVector} {params' : BuildParams}
      {tuning' : QueryParams} {output' : String} {v v₁ v₂ v₃ : World} {manifest' : Manifest}
      {h' : LoadedIndex BuiltinIndex},
      build BackendKind.exact.backend ids' vectors' space params' output' v =
        (.ok manifest', v₁) →
      v₂.files = v₁.files →
      load BackendKind.exact.backend output' space tuning' v₂ = (.ok h', v₃) →
      (ids.zip vectors).Perm (ids'.zip vectors') →
      ∀ raw k, h'.query raw k = h.query raw k := by
  have hscan := scansLike_of_loaded hbuild hfiles hload
  obtain ⟨dataset, _, _, hmanifest, hbuilt⟩ := build_spec hbuild
  obtain ⟨-, hshaped, -, -⟩ := Dataset.build_spec hbuilt.batch
  have hdimension : manifest.dimension = dataset.dimension := by rw [hmanifest, manifestOf]
  refine ⟨fun raw hraw => (hshaped.uniform raw hraw).trans hdimension.symm, hscan, ?_⟩
  intro ids' vectors' params' tuning' output' v v₁ v₂ v₃ manifest' h' hbuild' hfiles' hload' hperm
  obtain ⟨dataset', _, _, hmanifest', hbuilt'⟩ := build_spec hbuild'
  obtain ⟨-, hshaped', -, -⟩ := Dataset.build_spec hbuilt'.batch
  have hdimension' : manifest'.dimension = dataset'.dimension := by rw [hmanifest', manifestOf]
  have hvectors := vectors_perm hperm hshaped.matched hshaped'.matched
  have hscan' := scansLike_of_loaded hbuild' hfiles' hload'
  -- There is a vector in both batches, so they are of one dimension.
  have hsame : manifest'.dimension = manifest.dimension := by
    obtain ⟨raw, rest, hcons⟩ := List.exists_cons_of_ne_nil hshaped.nonempty
    have hraw : raw ∈ vectors := hcons ▸ List.mem_cons_self
    rw [hdimension, hdimension', ← hshaped.uniform raw hraw,
      ← hshaped'.uniform raw (hvectors.mem_iff.mp hraw)]
  have hids : ((ids.zip vectors).map Prod.fst).Nodup := by
    rw [List.map_fst_zip hshaped.matched.le]
    exact hshaped.distinct
  exact hscan.query_eq (hsame ▸ hscan') hperm hids

section Tenths

/-- Any batch of finite vectors whose numbers fit in words gives a first exact index. -/
theorem exists_first_exact {dataset : Dataset}
    (hbatch : Dataset.build space ids vectors = .ok dataset)
    (hfits : Fits .exact ids vectors .unset 0) (hstorable : Storable space vectors) : ∃ w₁ h w₂,
    build BackendKind.exact.backend ids vectors space .unset "a.idx" ⟨⟨[], []⟩, 0, []⟩ =
      (.ok (manifestOf BackendKind.exact.backend space .unset dataset 0), w₁) ∧
    load BackendKind.exact.backend "a.idx" space .unset w₁ = (.ok h, w₂) := by
  have hvalid : BuildParams.unset.validate = .ok () := rfl
  have htuning : QueryParams.unset.validate = .ok () := rfl
  obtain ⟨w₁, hbuild⟩ := exists_first_build_exact hvalid hbatch
  obtain ⟨h, w₂, hload⟩ := exists_load_of_storable (by decide) hbuild rfl hfits
    htuning (by decide) hstorable
  exact ⟨w₁, h, w₂, hbuild, hload⟩

theorem query_eq_ranked_tenths : ∃ manifest w₁ h w₂ manifest' v₁ h' v₂,
    build BackendKind.exact.backend [4, -3] tenths .l2 .unset "a.idx" ⟨⟨[], []⟩, 0, []⟩ =
      (.ok manifest, w₁) ∧
    load BackendKind.exact.backend "a.idx" .l2 .unset w₁ = (.ok h, w₂) ∧
    build BackendKind.exact.backend [-3, 4] tenths.reverse .l2 .unset "a.idx" ⟨⟨[], []⟩, 0, []⟩ =
      (.ok manifest', v₁) ∧
    load BackendKind.exact.backend "a.idx" .l2 .unset v₁ = (.ok h', v₂) ∧
    ScansLike h .l2 2 ([4, -3].zip tenths) ∧ ∀ raw k, h'.query raw k = h.query raw k := by
  have hbatch : Dataset.build .l2 [4, -3] tenths =
      .ok ⟨.l2, 2, [⟨4, .dense [0, 1]⟩, ⟨-3, .dense [⟨0x3DCCCCCD⟩, ⟨0xBF000000⟩]⟩]⟩ := rfl
  have hbatch' : Dataset.build .l2 [-3, 4] tenths.reverse =
      .ok ⟨.l2, 2, [⟨-3, .dense [⟨0x3DCCCCCD⟩, ⟨0xBF000000⟩]⟩, ⟨4, .dense [0, 1]⟩]⟩ := rfl
  have hfits : Fits .exact [4, -3] tenths .unset 0 :=
    ⟨by decide, by decide, by decide, by decide, by decide, by decide⟩
  have hfits' : Fits .exact [-3, 4] tenths.reverse .unset 0 :=
    ⟨by decide, by decide, by decide, by decide, by decide, by decide⟩
  obtain ⟨w₁, h, w₂, hbuild, hload⟩ := exists_first_exact hbatch hfits (by decide)
  obtain ⟨v₁, h', v₂, hbuild', hload'⟩ := exists_first_exact hbatch' hfits' (by decide)
  obtain ⟨-, hscan, hsame⟩ := query_eq_ranked hbuild rfl hload
  exact ⟨_, w₁, h, w₂, _, v₁, h', v₂, hbuild, hload, hbuild', hload', hscan,
    hsame hbuild' rfl hload' (List.Perm.swap _ _ _)⟩

end Tenths

end Engine

end Vicinity
