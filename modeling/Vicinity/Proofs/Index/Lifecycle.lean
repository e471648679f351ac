import Vicinity.Proofs.Index.Reloaded

/-!
Where an index can be built and loaded. Building and saving a layered index succeed if the batch and
the parameters are accepted and both files can be written. Loading succeeds after any build if what
was written can be read.
-/

namespace Vicinity

/-- Whether an index is saved as one file with the given text. -/
def BuiltinIndex.SavesAs (ix : BuiltinIndex) (text : String) : Prop :=
  ∀ path fs, ix.save path fs = writeFile fs path text

namespace Engine

variable {ids : List Int} {vectors : List RawVector} {space : Space} {params : BuildParams}
  {output : String} {w w₁ : World} {manifest : Manifest} {dataset : Dataset} {links ef : Nat}
  {metric : MetricSpace} {index : BuiltinIndex} {l l' : Location}

section Save

variable {kind : BackendKind} {text : String} {fs : Files}

/-- What is made of a batch holds all of it and is saved as one file. -/
theorem Made.stored (hkind : kind ≠ .dense)
    (hmade : Made kind.backend ids vectors space params dataset metric index) :
    index.size = dataset.size ∧ ∃ text, index.SavesAs text := by
  cases kind with
  | dense => exact absurd rfl hkind
  | layered =>
      obtain ⟨links, ef, g, -, hgraph, rfl⟩ := hmade.layered
      obtain ⟨-, -, hentries⟩ := Graph.wellFormed_of_build hgraph
      refine ⟨?_, _, fun path fs => rfl⟩
      rw [BuiltinIndex.size, Dataset.size, ← hentries, Graph.entriesOf_length]
      rfl
  | exact =>
      obtain rfl := hmade.exact
      exact ⟨rfl, _, fun path fs => rfl⟩

theorem save_eq (hsaves : index.SavesAs text) (hplace : w.files.writable output = .ok l) :
    kind.backend.save index output w.files = (.ok (), w.files.put l (.text text)) :=
  (hsaves output w.files).trans (writeFile_of_writable hplace text)

theorem writable_manifest_put (hplace : fs.writable output = .ok l) (text : String) :
    (fs.put l (.text text)).writable (Manifest.pathFor output) =
      fs.writable (Manifest.pathFor output) :=
  Files.writable_put_beside hplace (by decide) (by decide) text

/-- What is made of a batch is built where its files can be written. -/
theorem exists_build_of_made (hkind : kind ≠ .dense)
    (hmade : Made kind.backend ids vectors space params dataset metric index)
    (hplace : w.files.writable output = .ok l)
    (hbeside : w.files.writable (Manifest.pathFor output) = .ok l') :
    ∃ w₁, build kind.backend ids vectors space params output w =
      (.ok (manifestOf kind.backend space params dataset w.clock), w₁) := by
  obtain ⟨hcounted, text, hsaves⟩ := hmade.stored hkind
  rw [build_of_saved hmade hcounted (save_eq hsaves hplace), Manifest.write, Files.write,
    writable_manifest_put hplace, hbeside]
  exact ⟨_, rfl⟩

end Save

/-- A batch and parameters that are accepted give an index where its files can be written. -/
theorem exists_build_layered (hvalid : params.validate = .ok ())
    (hbatch : Dataset.build space ids vectors = .ok dataset)
    (haccepts : LayeredIndex.Accepts dataset params.toParams links ef)
    (hplace : w.files.writable output = .ok l)
    (hbeside : w.files.writable (Manifest.pathFor output) = .ok l') :
    ∃ w₁, build BackendKind.layered.backend ids vectors space params output w =
      (.ok (manifestOf BackendKind.layered.backend space params dataset w.clock), w₁) := by
  obtain ⟨g, hgraph, -, -, -⟩ := Graph.build_wellFormed space.distance
    (Level.ofNode links) ((LayeredIndex.fresh (.standard space)).buildConfig links ef)
    dataset.entries
  have hconstruct : (LayeredIndex.fresh (.standard space)).construct (.standard space) dataset
      params.toParams = (.ok (), ⟨space, g⟩) :=
    LayeredIndex.constructWith_of_accepts haccepts hgraph
  have hmade : Made BackendKind.layered.backend ids vectors space params dataset (.standard space)
      (.layered ⟨space, g⟩) :=
    ⟨hvalid, hbatch, rfl, _, rfl, congrArg (Prod.map id BuiltinIndex.layered) hconstruct⟩
  exact exists_build_of_made (by decide) hmade hplace hbeside

/-- A batch that is accepted gives an exact index where its files can be written. -/
theorem exists_build_exact (hvalid : params.validate = .ok ())
    (hbatch : Dataset.build space ids vectors = .ok dataset)
    (hplace : w.files.writable output = .ok l)
    (hbeside : w.files.writable (Manifest.pathFor output) = .ok l') :
    ∃ w₁, build BackendKind.exact.backend ids vectors space params output w =
      (.ok (manifestOf BackendKind.exact.backend space params dataset w.clock), w₁) := by
  have hconstruct : (ExactIndex.fresh (.standard space)).construct dataset params.toParams =
      (.ok (), ⟨space, dataset.entries⟩) := by
    rw [ExactIndex.construct, params.checkKnown_toParams]
    rfl
  have hmade : Made BackendKind.exact.backend ids vectors space params dataset (.standard space)
      (.exact ⟨space, dataset.entries⟩) :=
    ⟨hvalid, hbatch, rfl, _, rfl, congrArg (Prod.map id BuiltinIndex.exact) hconstruct⟩
  exact exists_build_of_made (by decide) hmade hplace hbeside

section First

theorem writable_first : (⟨[], []⟩ : Files).writable "a.idx" = .ok ["a.idx"] := by decide +kernel

theorem writable_first_manifest : (⟨[], []⟩ : Files).writable (Manifest.pathFor "a.idx") =
    .ok ["a.idx.manifest.json"] := by decide +kernel

/-- A first index can be built where there are no files yet. -/
theorem exists_first_build_layered (hvalid : params.validate = .ok ())
    (hbatch : Dataset.build space ids vectors = .ok dataset)
    (haccepts : LayeredIndex.Accepts dataset params.toParams links ef) :
    ∃ w₁, build BackendKind.layered.backend ids vectors space params "a.idx" ⟨⟨[], []⟩, 0, []⟩ =
      (.ok (manifestOf BackendKind.layered.backend space params dataset 0), w₁) :=
  exists_build_layered (w := ⟨⟨[], []⟩, 0, []⟩) hvalid hbatch haccepts writable_first
    writable_first_manifest

theorem exists_first_build_exact (hvalid : params.validate = .ok ())
    (hbatch : Dataset.build space ids vectors = .ok dataset) :
    ∃ w₁, build BackendKind.exact.backend ids vectors space params "a.idx" ⟨⟨[], []⟩, 0, []⟩ =
      (.ok (manifestOf BackendKind.exact.backend space params dataset 0), w₁) :=
  exists_build_exact (w := ⟨⟨[], []⟩, 0, []⟩) hvalid hbatch writable_first writable_first_manifest

/-- Any text can stand beside any manifest. -/
theorem exists_beside (text : String) (hfits : manifest.InWords)
    (hversion : manifest.formatVersion ≤ Manifest.currentVersion) :
    ∃ fs : Files, fs.open? "a.idx" = .ok (some text) ∧ Manifest.read "a.idx" fs = .ok manifest := by
  have hdirectory := (Files.writable_spec writable_first).2.1
  have hwrite := Files.write_of_writable writable_first text
  have hbeside := Files.write_of_writable
    (Files.writable_put hdirectory text writable_first_manifest) manifest.toJson.pretty
  have hmanifest : manifest.write "a.idx" (Files.put ⟨[], []⟩ ["a.idx"] (.text text)) =
      .ok ((Files.put ⟨[], []⟩ ["a.idx"] (.text text)).put ["a.idx.manifest.json"]
        (.text manifest.toJson.pretty)) := by
    rw [Manifest.write, hbeside]
  refine ⟨_, Files.open?_of_write_beside hwrite hbeside ?_,
    Manifest.read_of_write hmanifest hfits hversion⟩
  exact Files.getLast?_components_append "a.idx" (by decide) (by decide)

end First

/-- The configuration of a graph that is built with accepted parameters fits in words. -/
theorem buildConfig_inWords (haccepts : LayeredIndex.Accepts dataset params.toParams links ef) :
    ((LayeredIndex.fresh (.standard space)).buildConfig links ef).InWords := by
  have hlinks := haccepts.inWord
  have hfew : links ≤ Number.maxWord := by omega
  have hsearch : GraphConfig.standardEfSearch ≤ Number.maxWord := by decide
  have hwide : ef ≤ Number.maxWord := by
    obtain ⟨given, hgiven, rfl⟩ := haccepts.beam
    rw [BuildParams.getPositive?_efConstruction] at hgiven
    have hword := le_of_passedOn hgiven
    cases eq_of_passedOn hgiven
    cases hbeam : params.efConstruction with
    | none =>
        rw [Option.getD_none]
        decide
    | some n => exact hword n hbeam
  exact ⟨hfew, hlinks, hwide, hsearch⟩

section Load

variable {kind : BackendKind} {w₂ : World} {tuning : QueryParams}

/-- The file of a layered index can be taken in if its vectors can be read. -/
theorem opened_layered
    (hbuilt : Built BackendKind.layered.backend ids vectors space params output w w₁ dataset metric
      index) (hmany : ids.length ≤ Nat.pow 2 32)
    (hvectors : ∀ e ∈ dataset.entries, ∃ e', e.reread = some e') :
    ∃ g, (LayeredIndex.fresh (.standard space)).load (.standard space) output w₁.files =
      (.ok (), ⟨space, g⟩) := by
  obtain ⟨links, ef, g, haccepts, hgraph, -, hopen⟩ := hbuilt.layered
  obtain ⟨-, -, hids, -⟩ := Dataset.build_spec hbuilt.batch
  rw [← hids, List.length_map] at hmany
  have hlow : ∀ i, Level.ofNode links i ≤ Number.maxWord := by
    have hbound : Level.maxLevel ≤ Number.maxWord := by decide
    intro i
    exact (Level.ofNode_le links i).trans hbound
  obtain ⟨g', hreread, hchecked⟩ := Graph.exists_reread_of_build hgraph
    (buildConfig_inWords haccepts) hmany hlow hvectors
  exact ⟨g', LayeredIndex.load_of_reread (m := .standard space) hopen hreread hchecked _⟩

/-- The file of an exact index can be taken in if its vectors can be read. -/
theorem opened_exact
    (hbuilt : Built BackendKind.exact.backend ids vectors space params output w w₁ dataset metric
      index) (hvectors : ∀ e ∈ dataset.entries, ∃ e', e.reread = some e') :
    ∃ entries, (ExactIndex.fresh (.standard space)).load (.standard space) output w₁.files =
      (.ok (), ⟨space, entries⟩) := by
  obtain ⟨entries, hreread⟩ := Json.exists_mapM hvectors
  exact ⟨entries, ExactIndex.load_of_reread (m := .standard space) hbuilt.exact.2 hreread _⟩

/-- What was built can be loaded if its manifest and its vectors can be read. -/
theorem exists_load (hkind : kind ≠ .dense)
    (hbuild : build kind.backend ids vectors space params output w = (.ok manifest, w₁))
    (hfiles : w₂.files = w₁.files) (hbatch : Dataset.build space ids vectors = .ok dataset)
    (hmanifest : manifest.InWords) (hmany : kind = .layered → ids.length ≤ Nat.pow 2 32)
    (hvectors : ∀ e ∈ dataset.entries, ∃ e', e.reread = some e')
    (hvalid : tuning.validate = .ok ()) (hwords : ∀ n ∈ tuning.efSearch, n ≤ Number.maxWord) :
    ∃ h w₃, load kind.backend output space tuning w₂ = (.ok h, w₃) := by
  obtain ⟨_, metric, index, rfl, hbuilt⟩ := build_spec hbuild
  cases Except.ok.inj (hbatch.symm.trans hbuilt.batch)
  obtain ⟨fs, -, hwrite⟩ := hbuilt.saved
  have hread := Manifest.read_of_write hwrite hmanifest (le_refl _)
  rw [← hfiles] at hread
  have haccepted : (manifestOf kind.backend space params dataset w.clock).validate space
      kind.backend.name = .ok () := by
    simp [Manifest.validate, manifestOf]
  cases kind with
  | dense => exact absurd rfl hkind
  | layered =>
      obtain ⟨g, hopened⟩ := opened_layered hbuilt (hmany rfl) hvectors
      obtain ⟨ix, hset⟩ := LayeredIndex.exists_setParams ⟨space, g⟩ hvalid hwords
      rw [← hfiles] at hopened
      obtain ⟨w₃, hload⟩ := load_of_steps (b := BackendKind.layered.backend) hvalid hread haccepted
        rfl rfl (congrArg (Prod.map id BuiltinIndex.layered) hopened)
        (congrArg (Prod.map id BuiltinIndex.layered) hset)
      exact ⟨_, w₃, hload⟩
  | exact =>
      obtain ⟨entries, hopened⟩ := opened_exact hbuilt hvectors
      have hset : (ExactIndex.mk space entries).setParams tuning.toParams =
          (.ok (), ⟨space, entries⟩) := by
        rw [ExactIndex.setParams, tuning.checkKnown_toParams]
      rw [← hfiles] at hopened
      obtain ⟨w₃, hload⟩ := load_of_steps (b := BackendKind.exact.backend) hvalid hread haccepted
        rfl rfl (congrArg (Prod.map id BuiltinIndex.exact) hopened)
        (congrArg (Prod.map id BuiltinIndex.exact) hset)
      exact ⟨_, w₃, hload⟩

end Load

end Engine

end Vicinity
