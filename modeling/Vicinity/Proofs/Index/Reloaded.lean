import Vicinity.Index.Builtin
import Vicinity.Proofs.Dataset
import Vicinity.Proofs.Calls
import Vicinity.Proofs.Files
import Vicinity.Proofs.Graph.Findable
import Vicinity.Proofs.Graph.Reread
import Vicinity.Proofs.Index.Layered
import Vicinity.Proofs.Params

/-!
An index that was built, saved and loaded. The index file and the manifest beside it are read as
they were written, so what was loaded holds the vectors of the batch under their ids, and the graph
of a layered index is linked as it was built.
-/

namespace Vicinity

section Saved

variable {fs fs₁ fs₂ : Files} {path text : String} {m m' : Manifest}

theorem Manifest.write_eq_ok (h : m.write path fs = .ok fs₁) :
    fs.write (pathFor path) m.toJson.pretty = .ok fs₁ := by
  unfold write at h
  cases hwrite : fs.write (pathFor path) m.toJson.pretty with
  | error e => simp [hwrite] at h
  | ok fs' =>
      rw [hwrite] at h
      rw [Except.ok.inj h]

/-- A manifest that can be read at all is read as it was written. -/
theorem Manifest.eq_of_read (hwrite : m.write path fs = .ok fs₁)
    (hread : Manifest.read path fs₁ = .ok m') : m' = m := by
  have hopen := Files.open?_of_write (write_eq_ok hwrite)
  unfold read Files.read at hread
  simp only [hopen, ofText?_pretty] at hread
  by_cases hfits : m.InWords
  · rw [if_pos hfits] at hread
    dsimp only at hread
    split at hread
    · simp at hread
    · exact (Except.ok.inj hread).symm
  · rw [if_neg hfits] at hread
    simp at hread

/-- A manifest whose numbers fit in words can be read. -/
theorem Manifest.read_of_write (hwrite : m.write path fs = .ok fs₁) (hfits : m.InWords)
    (hversion : m.formatVersion ≤ currentVersion) : Manifest.read path fs₁ = .ok m := by
  have hopen := Files.open?_of_write (write_eq_ok hwrite)
  unfold read Files.read
  simp only [hopen, ofText?_pretty, if_pos hfits, if_neg (Nat.not_lt.mpr hversion)]

theorem writeFile_of_writable (hplace : fs.writable path = .ok l) (text : String) :
    writeFile fs path text = (.ok (), fs.put l (.text text)) := by
  rw [writeFile, Files.write_of_writable hplace]

theorem writeFile_of_unwritable {cause : FileError} (hplace : fs.writable path = .error cause)
    (text : String) : writeFile fs path text = (.error (.file cause), fs) := by
  rw [writeFile, Files.write, hplace]
  rfl

/-- Writing the manifest leaves the index file as it is. -/
theorem open?_of_saved (hsave : writeFile fs path text = (.ok (), fs₁))
    (hmanifest : m.write path fs₁ = .ok fs₂) : fs₂.open? path = .ok (some text) := by
  have hwrite : fs.write path text = .ok fs₁ := by
    unfold writeFile at hsave
    cases hwrite : fs.write path text with
    | error e => simp [hwrite] at hsave
    | ok fs' =>
        rw [hwrite] at hsave
        rw [(Prod.mk.inj hsave).2]
  exact Files.open?_of_write_beside hwrite (Manifest.write_eq_ok hmanifest)
    (Files.getLast?_components_append path (by decide) (by decide))

theorem readFile_of_text {α : Type} {read : String → Option α}
    (hopen : fs.open? path = .ok (some text)) :
    readFile fs path read = match read text with
      | none => .error .malformedData
      | some a => .ok a := by
  unfold readFile
  rw [hopen]
  rfl

end Saved

/-- An operation on one kind of index succeeds as one on any kind where it does. -/
theorem map_eq_ok {α β : Type} {f : α → β} {r : Except Error Unit × α} {b : β}
    (h : r.map id f = (.ok (), b)) : ∃ a, r = (.ok (), a) ∧ f a = b := by
  obtain ⟨outcome, a⟩ := r
  obtain ⟨houtcome, ha⟩ := Prod.mk.inj h
  exact ⟨a, Prod.ext houtcome rfl, ha⟩

section Load

variable {m : MetricSpace} {fs : Files} {path name : String}

/-- Loading the file of a graph takes in the graph as it is read, if its links lead nowhere outside
it. -/
theorem LayeredIndex.load_spec {ix ix' : LayeredIndex} {g : Graph}
    (hload : ix.load m path fs = (.ok (), ix'))
    (hopen : fs.open? path = .ok (some (GraphSnapshot.render ⟨name, g⟩))) :
    ∃ g', g.reread = some g' ∧ g'.checkIntegrity = .ok () ∧ ix' = { ix with graph := g' } := by
  unfold load at hload
  rw [readFile_of_text hopen, GraphSnapshot.ofText?_render] at hload
  cases hreread : g.reread with
  | none => simp [hreread] at hload
  | some g' =>
      simp only [hreread, Option.map_some] at hload
      split at hload
      · simp at hload
      · obtain ⟨hchecked, rfl⟩ := Prod.mk.inj hload
        exact ⟨g', rfl, hchecked, rfl⟩

/-- A graph that can be read and passes the check is taken in. -/
theorem LayeredIndex.load_of_reread {g g' : Graph}
    (hopen : fs.open? path = .ok (some (GraphSnapshot.render ⟨m.space.storedName, g⟩)))
    (hreread : g.reread = some g') (hchecked : g'.checkIntegrity = .ok ()) (ix : LayeredIndex) :
    ix.load m path fs = (.ok (), { ix with graph := g' }) := by
  unfold load
  rw [readFile_of_text hopen, GraphSnapshot.ofText?_render, hreread, Option.map_some]
  simp [hchecked]

theorem ExactIndex.load_spec {ix ix' : ExactIndex} {entries : List Entry}
    (hload : ix.load m path fs = (.ok (), ix'))
    (hopen : fs.open? path = .ok (some (EntrySnapshot.render ⟨name, entries⟩))) :
    ∃ entries', entries.mapM Entry.reread = some entries' ∧
      ix' = { ix with entries := entries' } := by
  unfold load at hload
  rw [readFile_of_text hopen, EntrySnapshot.ofText?_render] at hload
  cases hreread : entries.mapM Entry.reread with
  | none => simp [hreread] at hload
  | some entries' =>
      simp only [hreread, Option.map_some] at hload
      split at hload
      · simp at hload
      · exact ⟨entries', rfl, (Prod.mk.inj hload).2.symm⟩

/-- Entries that can be read are taken in. -/
theorem ExactIndex.load_of_reread {entries entries' : List Entry}
    (hopen : fs.open? path = .ok (some (EntrySnapshot.render ⟨m.space.storedName, entries⟩)))
    (hreread : entries.mapM Entry.reread = some entries') (ix : ExactIndex) :
    ix.load m path fs = (.ok (), { ix with entries := entries' }) := by
  unfold load
  rw [readFile_of_text hopen, EntrySnapshot.ofText?_render, hreread, Option.map_some]
  simp

/-- Search parameters change the beam width of searching and nothing else. -/
theorem LayeredIndex.setParams_spec {ix ix' : LayeredIndex} {params : Params}
    (hset : ix.setParams params = (.ok (), ix')) :
    ∃ efSearch, ix' = ix.withConfig { ix.graph.config with efSearch } := by
  unfold setParams at hset
  cases hknown : params.checkKnown searchNames with
  | error e => simp [hknown] at hset
  | ok u =>
  cases hgiven : params.getPositive? ParamName.efSearch with
  | error e => simp [hknown, hgiven] at hset
  | ok given =>
  simp only [hknown, hgiven] at hset
  cases given with
  | none => exact ⟨ix.graph.config.efSearch, (Prod.mk.inj hset).2.symm⟩
  | some ef => exact ⟨ef, (Prod.mk.inj hset).2.symm⟩

/-- A beam width that is given takes the place of the one held. -/
theorem LayeredIndex.setParams_eq {ix ix' : LayeredIndex} {tuning : QueryParams}
    (hset : ix.setParams tuning.toParams = (.ok (), ix')) :
    ix' = ix.withConfig { ix.graph.config with
      efSearch := tuning.efSearch.getD ix.graph.config.efSearch } := by
  unfold setParams at hset
  rw [tuning.checkKnown_toParams, tuning.getPositive?_efSearch] at hset
  cases hgiven : passedOn ParamName.efSearch tuning.efSearch with
  | error e => simp [hgiven] at hset
  | ok given =>
      rw [hgiven] at hset
      rw [← eq_of_passedOn hgiven]
      cases given <;> exact (Prod.mk.inj hset).2.symm

/-- The number of links is the one asked for. -/
theorem LayeredIndex.Accepts.links_eq {dataset : Dataset} {params : BuildParams} {links ef : Nat}
    (h : Accepts dataset params.toParams links ef) : links = params.links := by
  obtain ⟨given, hgiven, hlinks⟩ := h.given
  rw [BuildParams.getPositive?_m] at hgiven
  rw [← hlinks, eq_of_passedOn hgiven, BuildParams.links]

/-- The beam width of building is the one asked for. -/
theorem LayeredIndex.Accepts.beam_eq {dataset : Dataset} {params : BuildParams} {links ef : Nat}
    (h : Accepts dataset params.toParams links ef) : ef = params.beam := by
  obtain ⟨given, hgiven, hbeam⟩ := h.beam
  rw [BuildParams.getPositive?_efConstruction] at hgiven
  rw [← hbeam, eq_of_passedOn hgiven, BuildParams.beam]

/-- Valid search parameters that fit in words can be set. -/
theorem LayeredIndex.exists_setParams (ix : LayeredIndex) {tuning : QueryParams}
    (hvalid : tuning.validate = .ok ()) (hwords : ∀ n ∈ tuning.efSearch, n ≤ Number.maxWord) :
    ∃ ix', ix.setParams tuning.toParams = (.ok (), ix') := by
  unfold setParams
  rw [tuning.checkKnown_toParams, tuning.getPositive?_efSearch, passedOn_of_valid hvalid hwords]
  cases tuning.efSearch with
  | none => exact ⟨_, rfl⟩
  | some ef => exact ⟨_, rfl⟩

end Load

namespace BuiltinIndex

/-- The vectors that an index stores. -/
def stored : BuiltinIndex → List Encoded
  | layered ix => (Graph.entriesOf ix.graph.nodes).map Entry.vector
  | exact ix => ix.entries.map Entry.vector
  | dense ix =>
    match ix.table with
    | none => []
    | some t => t.vectors.map Encoded.dense

theorem size_eq_length (ix : BuiltinIndex) : ix.size = ix.stored.length := by
  cases ix with
  | layered ix =>
      rw [stored, List.length_map, Graph.entriesOf_length]
      rfl
  | exact ix => rw [stored, List.length_map, size]
  | dense ix =>
      rw [stored, size, DenseIndex.size]
      cases ix.table with
      | none => rfl
      | some t => rw [List.length_map]

end BuiltinIndex

section Engine

open Engine

variable {ids : List Int} {vectors : List RawVector} {space : Space} {params : BuildParams}
  {tuning : QueryParams} {output path : String} {w w' : World} {dataset : Dataset}
  {metric : MetricSpace} {index : BuiltinIndex} {h : LoadedIndex BuiltinIndex}

/-- Building a layered index makes the graph over the batch. -/
theorem Engine.Made.layered (hmade : Made BackendKind.layered.backend ids vectors space params
    dataset metric index) :
    ∃ links ef g, LayeredIndex.Accepts dataset params.toParams links ef ∧
      Graph.build space.distance (Level.ofNode links)
        ((LayeredIndex.fresh (.standard space)).buildConfig links ef) dataset.entries = some g ∧
      index = .layered ⟨space, g⟩ := by
  obtain ⟨empty, hempty, hconstruct⟩ := hmade.constructed
  cases Except.ok.inj hmade.compared
  cases Except.ok.inj hempty
  obtain ⟨ix, hix, rfl⟩ := map_eq_ok (f := BuiltinIndex.layered)
    (r := (LayeredIndex.fresh (.standard space)).construct (.standard space) dataset
      params.toParams) hconstruct
  obtain ⟨links, ef, g, haccepts, hbuild, rfl⟩ := LayeredIndex.constructWith_spec hix
  exact ⟨links, ef, g, haccepts, hbuild, rfl⟩

/-- Building an exact index takes in the entries of the batch. -/
theorem Engine.Made.exact (hmade : Made BackendKind.exact.backend ids vectors space params dataset
    metric index) : index = .exact ⟨space, dataset.entries⟩ := by
  obtain ⟨empty, hempty, hconstruct⟩ := hmade.constructed
  cases Except.ok.inj hmade.compared
  cases Except.ok.inj hempty
  obtain ⟨ix, hix, rfl⟩ := map_eq_ok (f := BuiltinIndex.exact)
    (r := (ExactIndex.fresh (.standard space)).construct dataset params.toParams) hconstruct
  unfold ExactIndex.construct at hix
  cases hknown : params.toParams.checkKnown constructNames with
  | error e => simp [hknown] at hix
  | ok u =>
      rw [hknown] at hix
      cases (Prod.mk.inj hix).2
      rfl

/-- What building a layered index makes and leaves: the graph over the batch, and its file. -/
theorem Engine.Built.layered (hbuilt : Built BackendKind.layered.backend ids vectors space params
    output w w' dataset metric index) :
    ∃ links ef g, LayeredIndex.Accepts dataset params.toParams links ef ∧
      Graph.build space.distance (Level.ofNode links)
        ((LayeredIndex.fresh (.standard space)).buildConfig links ef) dataset.entries = some g ∧
      index = .layered ⟨space, g⟩ ∧
      w'.files.open? output = .ok (some (GraphSnapshot.render ⟨space.storedName, g⟩)) := by
  obtain ⟨links, ef, g, haccepts, hbuild, rfl⟩ := hbuilt.made.layered
  obtain ⟨fs, hsave, hmanifest⟩ := hbuilt.saved
  exact ⟨links, ef, g, haccepts, hbuild, rfl, open?_of_saved hsave hmanifest⟩

/-- What building an exact index makes and leaves: the entries of the batch, and their file. -/
theorem Engine.Built.exact (hbuilt : Built BackendKind.exact.backend ids vectors space params
    output w w' dataset metric index) :
    index = .exact ⟨space, dataset.entries⟩ ∧
      w'.files.open? output =
        .ok (some (EntrySnapshot.render ⟨space.storedName, dataset.entries⟩)) := by
  obtain rfl := hbuilt.made.exact
  obtain ⟨fs, hsave, hmanifest⟩ := hbuilt.saved
  exact ⟨rfl, open?_of_saved hsave hmanifest⟩

theorem Engine.Loaded.size_eq {kind : BackendKind}
    (hloaded : Loaded kind.backend path space tuning w w' h) : h.size = h.index.size := by
  rw [LoadedIndex.size, hloaded.held]
  rfl

/-- Loading a layered index takes in a file and tunes what was in it. -/
theorem Engine.Loaded.layered_opened
    (hloaded : Loaded BackendKind.layered.backend path space tuning w w' h) :
    h.metric = .standard space ∧ ∃ ix,
      (LayeredIndex.fresh (.standard space)).load (.standard space) path w.files = (.ok (), ix) ∧
      BackendKind.layered.backend.setParams tuning.toParams (.layered ix) = (.ok (), h.index) := by
  obtain ⟨empty, index, hempty, hload, hset⟩ := hloaded.opened
  have hmetric : MetricSpace.standard space = h.metric := Except.ok.inj hloaded.compared
  rw [← hmetric] at hempty hload
  cases Except.ok.inj hempty
  obtain ⟨ix, hix, rfl⟩ := map_eq_ok (f := BuiltinIndex.layered)
    (r := (LayeredIndex.fresh (.standard space)).load (.standard space) path w.files) hload
  exact ⟨hmetric.symm, ix, hix, hset⟩

/-- Loading an exact index takes in a file and tunes what was in it. -/
theorem Engine.Loaded.exact_opened
    (hloaded : Loaded BackendKind.exact.backend path space tuning w w' h) :
    h.metric = .standard space ∧ ∃ ix,
      (ExactIndex.fresh (.standard space)).load (.standard space) path w.files = (.ok (), ix) ∧
      BackendKind.exact.backend.setParams tuning.toParams (.exact ix) = (.ok (), h.index) := by
  obtain ⟨empty, index, hempty, hload, hset⟩ := hloaded.opened
  have hmetric : MetricSpace.standard space = h.metric := Except.ok.inj hloaded.compared
  rw [← hmetric] at hempty hload
  cases Except.ok.inj hempty
  obtain ⟨ix, hix, rfl⟩ := map_eq_ok (f := BuiltinIndex.exact)
    (r := (ExactIndex.fresh (.standard space)).load (.standard space) path w.files) hload
  exact ⟨hmetric.symm, ix, hix, hset⟩

theorem Engine.Loaded.layered
    (hloaded : Loaded BackendKind.layered.backend path space tuning w w' h) {name : String}
    {g : Graph} (hopen : w.files.open? path = .ok (some (GraphSnapshot.render ⟨name, g⟩))) :
    h.metric = .standard space ∧ ∃ g', g.reread = some g' ∧ g'.checkIntegrity = .ok () ∧
      BackendKind.layered.backend.setParams tuning.toParams (.layered ⟨space, g'⟩) =
        (.ok (), h.index) := by
  obtain ⟨hmetric, ix, hix, hset⟩ := hloaded.layered_opened
  obtain ⟨g', hreread, hchecked, rfl⟩ := LayeredIndex.load_spec hix hopen
  exact ⟨hmetric, g', hreread, hchecked, hset⟩

theorem Engine.Loaded.exact (hloaded : Loaded BackendKind.exact.backend path space tuning w w' h)
    {name : String} {entries : List Entry}
    (hopen : w.files.open? path = .ok (some (EntrySnapshot.render ⟨name, entries⟩))) :
    h.metric = .standard space ∧ ∃ entries', entries.mapM Entry.reread = some entries' ∧
      BackendKind.exact.backend.setParams tuning.toParams (.exact ⟨space, entries'⟩) =
        (.ok (), h.index) := by
  obtain ⟨hmetric, ix, hix, hset⟩ := hloaded.exact_opened
  obtain ⟨entries', hreread, rfl⟩ := ExactIndex.load_spec hix hopen
  exact ⟨hmetric, entries', hreread, hset⟩

/-- Search parameters change the beam width of a layered index and nothing else. -/
theorem BuiltinIndex.layered_of_setParams {ix : LayeredIndex}
    (hset : (BuiltinIndex.layered ix).setParams tuning.toParams = (.ok (), index)) :
    ∃ efSearch, index = .layered (ix.withConfig { ix.graph.config with efSearch }) := by
  obtain ⟨tuned, htuned, rfl⟩ := map_eq_ok (f := BuiltinIndex.layered)
    (r := LayeredIndex.setParams tuning.toParams _) hset
  obtain ⟨efSearch, rfl⟩ := LayeredIndex.setParams_spec htuned
  exact ⟨efSearch, rfl⟩

/-- Search parameters change nothing in an exact index. -/
theorem BuiltinIndex.exact_of_setParams {ix : ExactIndex}
    (hset : (BuiltinIndex.exact ix).setParams tuning.toParams = (.ok (), index)) :
    index = .exact ix := by
  obtain ⟨tuned, htuned, rfl⟩ := map_eq_ok (f := BuiltinIndex.exact)
    (r := ExactIndex.setParams tuning.toParams _) hset
  rw [(Prod.mk.inj htuned).2]

/-- An index that is loaded from a file that was built stores the vectors of the batch, as they are
read. -/
theorem Engine.vectors_of_loaded {kind : BackendKind} {v v' : World} (hkind : kind ≠ .dense)
    (hbuilt : Built kind.backend ids vectors space params output w w' dataset metric index)
    (hopen : v.files.open? path = w'.files.open? output)
    (hloaded : Loaded kind.backend path space tuning v v' h) :
    List.Forall₂ (fun e vector => e.vector.reread = some vector) dataset.entries
      h.index.stored := by
  cases kind with
  | dense => exact absurd rfl hkind
  | layered =>
      obtain ⟨links, ef, g, -, hgraph, -, htext⟩ := hbuilt.layered
      obtain ⟨-, g', hreread, -, hset⟩ := hloaded.layered (hopen.trans htext)
      obtain ⟨efSearch, hindex⟩ := BuiltinIndex.layered_of_setParams hset
      obtain ⟨-, -, hentries⟩ := Graph.wellFormed_of_build hgraph
      rw [hindex, ← hentries, BuiltinIndex.stored, List.forall₂_map_right_iff]
      exact (Graph.reread_spec hreread).vectors
  | exact =>
      obtain ⟨-, entries, hreread, hset⟩ := hloaded.exact (hopen.trans hbuilt.exact.2)
      rw [BuiltinIndex.exact_of_setParams hset, BuiltinIndex.stored, List.forall₂_map_right_iff]
      exact (Json.mapM_forall₂ hreread).imp fun _ _ he => (Entry.reread_spec he).2.2

end Engine

end Vicinity
