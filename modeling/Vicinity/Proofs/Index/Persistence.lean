import Vicinity.Proofs.Index.Query
import Vicinity.Proofs.Json.Singles

/-!
What becomes of an index between its build and its load. A build writes components that are not
finite as `null`, which no load reads back, so an index that was built can be loaded exactly where
its file holds nothing of that kind. An index that is loaded is the one that was built: it has the
same manifest, and it answers every query in the same way.
-/

namespace Vicinity

/-- Whether an index file can hold vectors: where it holds components, all of them are finite. -/
def Storable (space : Space) (vectors : List RawVector) : Prop :=
  space.encoding = .dense → ∀ raw ∈ vectors, ∀ x ∈ raw, x.IsFinite

instance (space : Space) (vectors : List RawVector) : Decidable (Storable space vectors) :=
  inferInstanceAs (Decidable (_ → _))

section Batch

variable {space : Space} {ids : List Int} {vectors : List RawVector} {dataset : Dataset}

/-- A batch that can be stored comes back vector by vector. -/
theorem reread_of_storable (hbatch : Dataset.build space ids vectors = .ok dataset)
    (hstorable : Storable space vectors) :
    ∀ e ∈ dataset.entries, e.vector.reread = some e.vector := by
  intro e he
  obtain ⟨raw, hraw, hencode⟩ := Dataset.exists_raw hbatch he
  by_cases hdense : space.encoding = .dense
  · rw [Space.encode_dense hdense] at hencode
    rw [← Except.ok.inj hencode]
    exact Encoded.reread_dense fun x hx => Single.restored (hstorable hdense raw hraw x hx)
  · exact Encoded.reread_eq (Space.encoding_of_encode hencode ▸ hdense)

/-- A batch of which every vector can be read can be stored. -/
theorem storable_of_reread (hbatch : Dataset.build space ids vectors = .ok dataset)
    {stored : List Encoded}
    (hread : List.Forall₂ (fun e v => e.vector.reread = some v) dataset.entries stored) :
    Storable space vectors := by
  intro hdense raw hraw
  obtain ⟨e, he, hencode⟩ := Dataset.exists_entry hbatch hraw
  obtain ⟨v, -, hv⟩ := Json.exists_of_forall₂ hread he
  rw [Space.encode_dense hdense] at hencode
  rw [← Except.ok.inj hencode] at hv
  exact Encoded.isFinite_of_reread hv

end Batch

namespace Engine

variable {kind : BackendKind} {ids : List Int} {vectors : List RawVector} {space : Space}
  {params : BuildParams} {tuning : QueryParams} {output : String} {w w₁ w₂ w₃ : World}
  {manifest : Manifest} {h : LoadedIndex BuiltinIndex}

/-- Whether the numbers that a build writes fit in the words that they are read into. Integers of
a program always do; the nodes of a graph are numbered in words of 32 bits. -/
structure Fits (kind : BackendKind) (ids : List Int) (vectors : List RawVector)
    (params : BuildParams) (clock : Int) : Prop where
  ids : ∀ id ∈ ids, Number.fitsSigned 64 id = true
  dimension : ∀ raw ∈ vectors, raw.length ≤ Number.maxWord
  count : vectors.length ≤ Number.maxWord
  nodes : kind = .layered → vectors.length ≤ Nat.pow 2 32
  params : params.InWords
  clock : Number.fitsSigned 64 clock = true

/-- What could be loaded could be stored. -/
theorem storable_of_load (hkind : kind ≠ .dense)
    (hbuild : build kind.backend ids vectors space params output w = (.ok manifest, w₁))
    (hfiles : w₂.files = w₁.files)
    (hload : load kind.backend output space tuning w₂ = (.ok h, w₃)) : Storable space vectors := by
  obtain ⟨dataset, metric, index, -, hbuilt⟩ := build_spec hbuild
  exact storable_of_reread hbuilt.batch
    (vectors_of_loaded hkind hbuilt (by rw [hfiles]) (load_spec hload))

/-- The manifest of a build whose numbers fit in words can be read. -/
theorem manifest_inWords
    (hbuild : build kind.backend ids vectors space params output w = (.ok manifest, w₁))
    (hfits : Fits kind ids vectors params w.clock) : manifest.InWords := by
  obtain ⟨dataset, metric, index, rfl, hbuilt⟩ := build_spec hbuild
  obtain ⟨-, hshaped, -, hencoded⟩ := Dataset.build_spec hbuilt.batch
  obtain ⟨raw, rest, hvectors⟩ := List.exists_cons_of_ne_nil hshaped.nonempty
  have hraw : raw ∈ vectors := by
    rw [hvectors]
    exact List.mem_cons_self
  have hversion : Manifest.currentVersion ≤ Nat.pow 2 32 - 1 := by decide
  refine ⟨hversion, ?_, ?_, hfits.params, hfits.clock⟩
  · have hdimension := hfits.dimension raw hraw
    rwa [hshaped.uniform raw hraw] at hdimension
  · have hcount := hfits.count
    rwa [hencoded.length_eq] at hcount

/-- An index over vectors that its file can hold can be loaded, with any valid parameters. -/
theorem exists_load_of_storable (hkind : kind ≠ .dense)
    (hbuild : build kind.backend ids vectors space params output w = (.ok manifest, w₁))
    (hfiles : w₂.files = w₁.files) (hfits : Fits kind ids vectors params w.clock)
    (hvalid : tuning.validate = .ok ())
    (hwords : ∀ n ∈ tuning.efSearch, n ≤ Number.maxWord) (hstorable : Storable space vectors) :
    ∃ h w₃, load kind.backend output space tuning w₂ = (.ok h, w₃) := by
  obtain ⟨dataset, metric, index, -, hbuilt⟩ := build_spec hbuild
  obtain ⟨-, hshaped, hids, -⟩ := Dataset.build_spec hbuilt.batch
  have hmany : kind = .layered → ids.length ≤ Nat.pow 2 32 := by
    intro hlayered
    rw [hshaped.matched]
    exact hfits.nodes hlayered
  have hentries : ∀ e ∈ dataset.entries, ∃ e', e.reread = some e' := by
    intro e he
    have hid : e.id ∈ ids := by
      rw [← hids]
      exact List.mem_map_of_mem he
    have hvector := reread_of_storable hbuilt.batch hstorable e he
    exact ⟨e, by rw [Entry.reread, if_pos (hfits.ids _ hid), hvector, Option.map_some]⟩
  exact exists_load hkind hbuild hfiles hbuilt.batch (manifest_inWords hbuild hfits) hmany hentries
    hvalid hwords

/-- An index that was built can be loaded, with any valid parameters, if and only if no stored
component is infinite or a NaN. -/
theorem exists_load_iff_storable (hkind : kind ≠ .dense)
    (hbuild : build kind.backend ids vectors space params output w = (.ok manifest, w₁))
    (hfiles : w₂.files = w₁.files) (hfits : Fits kind ids vectors params w.clock)
    (hvalid : tuning.validate = .ok ())
    (hwords : ∀ n ∈ tuning.efSearch, n ≤ Number.maxWord) :
    (∃ h w₃, load kind.backend output space tuning w₂ = (.ok h, w₃)) ↔ Storable space vectors := by
  constructor
  · rintro ⟨h, w₃, hload⟩
    exact storable_of_load hkind hbuild hfiles hload
  · exact exists_load_of_storable hkind hbuild hfiles hfits hvalid hwords

/-- Two vectors with components that are not whole numbers. -/
def tenths : List RawVector := [[0, 1], [⟨0x3DCCCCCD⟩, ⟨0xBF000000⟩]]

theorem tenths_fits : Fits .layered [4, -3] tenths .unset 0 where
  ids := by decide
  dimension := by decide
  count := by decide
  nodes := fun _ => by decide
  params := by decide
  clock := by decide

theorem tenths_built : ∃ manifest w₁,
    build BackendKind.layered.backend [4, -3] tenths .l2 .unset "a.idx" ⟨⟨[], []⟩, 0, []⟩ =
      (.ok manifest, w₁) := by
  have hbatch : Dataset.build .l2 [4, -3] tenths =
      .ok ⟨.l2, 2, [⟨4, .dense [0, 1]⟩, ⟨-3, .dense [⟨0x3DCCCCCD⟩, ⟨0xBF000000⟩]⟩]⟩ := rfl
  obtain ⟨w₁, hbuild⟩ := exists_first_build_layered rfl hbatch (LayeredIndex.accepts_unset _)
  exact ⟨_, w₁, hbuild⟩

theorem tenths_loaded {manifest : Manifest} {w₁ : World}
    (hbuild : build BackendKind.layered.backend [4, -3] tenths .l2 .unset "a.idx"
      ⟨⟨[], []⟩, 0, []⟩ = (.ok manifest, w₁)) :
    ∃ h w₂, load BackendKind.layered.backend "a.idx" .l2 ⟨some 7⟩ w₁ = (.ok h, w₂) :=
  exists_load_of_storable (by decide) hbuild rfl tenths_fits rfl (by decide) (by decide)

theorem exists_load_iff_storable_tenths : ∃ manifest w₁,
    build BackendKind.layered.backend [4, -3] tenths .l2 .unset "a.idx" ⟨⟨[], []⟩, 0, []⟩ =
      (.ok manifest, w₁) ∧
    ((∃ h w₂, load BackendKind.layered.backend "a.idx" .l2 ⟨some 7⟩ w₁ = (.ok h, w₂)) ↔
      Storable .l2 tenths) := by
  obtain ⟨manifest, w₁, hbuild⟩ := tenths_built
  exact ⟨manifest, w₁, hbuild, exists_load_iff_storable (by decide) hbuild rfl tenths_fits rfl
    (by decide)⟩

/-- A vector with a component past the greatest number can be built, and what was built cannot be
loaded. -/
theorem load_fails_infinite : ∃ manifest w₁,
    build BackendKind.layered.backend [1] [[Single.infinity, 0]] .l2 .unset "a.idx"
      ⟨⟨[], []⟩, 0, []⟩ = (.ok manifest, w₁) ∧
    ∀ h w₂, load BackendKind.layered.backend "a.idx" .l2 .unset w₁ ≠ (.ok h, w₂) := by
  have hbatch : Dataset.build .l2 [1] [[Single.infinity, 0]] =
      .ok ⟨.l2, 2, [⟨1, .dense [Single.infinity, 0]⟩]⟩ := rfl
  obtain ⟨w₁, hbuild⟩ := exists_first_build_layered rfl hbatch (LayeredIndex.accepts_unset _)
  refine ⟨_, w₁, hbuild, fun h w₂ hload => ?_⟩
  have hstorable := storable_of_load (by decide) hbuild rfl hload
  exact absurd (hstorable rfl _ List.mem_cons_self _ List.mem_cons_self) (by decide)

/-- What was loaded is what was built, tuned: its vectors could be stored, so they came back. -/
theorem setParams_of_loaded {dataset : Dataset} {metric : MetricSpace} {index : BuiltinIndex}
    (hkind : kind ≠ .dense)
    (hbuilt : Built kind.backend ids vectors space params output w w₁ dataset metric index)
    (hfiles : w₂.files = w₁.files) (hloaded : Loaded kind.backend output space tuning w₂ w₃ h) :
    h.metric = metric ∧ kind.backend.setParams tuning.toParams index = (.ok (), h.index) := by
  have hstorable := storable_of_reread hbuilt.batch
    (vectors_of_loaded hkind hbuilt (by rw [hfiles]) hloaded)
  have hvectors := reread_of_storable hbuilt.batch hstorable
  have hmetric : h.metric = metric := Except.ok.inj (hloaded.compared.symm.trans hbuilt.compared)
  cases kind with
  | dense => exact absurd rfl hkind
  | layered =>
      obtain ⟨links, ef, g, -, hgraph, rfl, hopen⟩ := hbuilt.layered
      rw [← hfiles] at hopen
      obtain ⟨-, g', hreread, -, hset⟩ := hloaded.layered hopen
      obtain ⟨-, -, hentries⟩ := Graph.wellFormed_of_build hgraph
      rw [← hentries] at hvectors
      rw [(Graph.reread_spec hreread).eq_of_vectors hvectors] at hset
      exact ⟨hmetric, hset⟩
  | exact =>
      obtain ⟨rfl, hopen⟩ := hbuilt.exact
      rw [← hfiles] at hopen
      obtain ⟨-, entries, hreread, hset⟩ := hloaded.exact hopen
      rw [Entry.eq_of_vectors hreread hvectors] at hset
      exact ⟨hmetric, hset⟩

/-- An index over a batch that was created and tuned with no file in between. -/
structure Kept {σ : Type} (b : Backend σ) (ids : List Int) (vectors : List RawVector)
    (space : Space) (params : BuildParams) (tuning : QueryParams) (metric : MetricSpace)
    (index : σ) : Prop where
  compared : b.createSpace space = .ok metric
  constructed : ∃ dataset empty built, Dataset.build space ids vectors = .ok dataset ∧
    b.createIndex metric = .ok empty ∧
    b.construct metric dataset params.toParams empty = (.ok (), built) ∧
    b.setParams tuning.toParams built = (.ok (), index)

/-- An index that was built and loaded has the manifest of its build, with the parameters as they
were given, and answers every query as the index does that was never saved. -/
theorem query_eq_kept (hkind : kind ≠ .dense)
    (hbuild : build kind.backend ids vectors space params output w = (.ok manifest, w₁))
    (hfiles : w₂.files = w₁.files)
    (hload : load kind.backend output space tuning w₂ = (.ok h, w₃)) :
    h.manifest = manifest ∧ manifest.buildParams = params ∧ h.size = vectors.length ∧
      ∃ metric index, Kept kind.backend ids vectors space params tuning metric index ∧
        ∀ raw k,
          h.query raw k = (LoadedIndex.mk kind.backend index metric manifest).query raw k := by
  have hsame := loaded_manifest hbuild hfiles hload
  have hholds := loaded_holds hkind hbuild hfiles hload
  have hloaded := load_spec hload
  obtain ⟨dataset, metric, index, hmanifest, hbuilt⟩ := build_spec hbuild
  obtain ⟨-, hshaped, -, -⟩ := Dataset.build_spec hbuilt.batch
  obtain ⟨rfl, hset⟩ := setParams_of_loaded hkind hbuilt hfiles hloaded
  obtain ⟨empty, hempty, hconstruct⟩ := hbuilt.constructed
  have hhandle : h = ⟨kind.backend, h.index, h.metric, manifest⟩ := by
    rw [← hsame, ← hloaded.held]
  refine ⟨hsame, by rw [hmanifest, manifestOf], ?_, h.metric, h.index, ?_, ?_⟩
  · rw [hloaded.size_eq, hholds.size_eq, hshaped.matched]
  · exact
      { compared := hbuilt.compared
        constructed := ⟨dataset, empty, index, hbuilt.batch, hempty, hconstruct, hset⟩ }
  · intro raw k
    rw [← hhandle]

theorem query_eq_kept_tenths : ∃ manifest w₁ h w₂,
    build BackendKind.layered.backend [4, -3] tenths .l2 .unset "a.idx" ⟨⟨[], []⟩, 0, []⟩ =
      (.ok manifest, w₁) ∧
    load BackendKind.layered.backend "a.idx" .l2 ⟨some 7⟩ w₁ = (.ok h, w₂) ∧
    h.manifest = manifest ∧ manifest.buildParams = .unset ∧ h.size = 2 ∧
    ∃ metric index,
      Kept BackendKind.layered.backend [4, -3] tenths .l2 .unset ⟨some 7⟩ metric index ∧
      ∀ raw k, h.query raw k =
        (LoadedIndex.mk BackendKind.layered.backend index metric manifest).query raw k := by
  obtain ⟨manifest, w₁, hbuild⟩ := tenths_built
  obtain ⟨h, w₂, hload⟩ := tenths_loaded hbuild
  obtain ⟨hmanifest, hparams, hsize, hkept⟩ :=
    query_eq_kept (by decide) hbuild rfl hload
  exact ⟨manifest, w₁, h, w₂, hbuild, hload, hmanifest, hparams, hsize, hkept⟩

end Engine

end Vicinity
