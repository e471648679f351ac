import Vicinity.Proofs.Index.Persistence

/-!
How far the two files of a loaded index agree. A load compares the space that is asked for with
those of the manifest and of the index file, and nothing else: the number and the dimension that the
manifest gives are not held against what is stored. They are right where both files were left by one
build, wherever they were copied to; a file that was copied without its manifest is taken in as
well.
-/

namespace Vicinity

namespace Space

/-- No two spaces have the same name in an index file. -/
theorem storedName_inj {s t : Space} : s.storedName = t.storedName ↔ s = t := by
  cases s <;> cases t <;> decide

end Space

theorem BackendKind.name_inj {k k' : BackendKind} : k.name = k'.name ↔ k = k' := by
  cases k <;> cases k' <;> decide

namespace Encoded

/-- Whether a vector is stored as a space asks for, with a component or a bit for each of the
dimensions. -/
def Suits (space : Space) (dimension : Nat) : Encoded → Prop
  | dense values => space.encoding = .dense ∧ values.length = dimension
  | sparse _ => space.encoding = .sparse
  | bits packed => space.encoding = .bits ∧ packed.dimension = dimension ∧
      packed.dataWords.length = wordCount dimension

variable {space : Space} {raw : RawVector} {dimension : Nat} {v v' : Encoded}

/-- What is encoded suits its space. The dimension of bits is kept in a word of 32 bits. -/
theorem suits_of_encode (h : space.encode raw = .ok v)
    (hword : space.encoding = .bits → raw.length < Nat.pow 2 32) : v.Suits space raw.length := by
  rcases Space.encode_cases h with ⟨hdense, rfl⟩ | ⟨hsparse, rfl⟩ | ⟨hbits, rfl⟩
  · exact ⟨hdense, rfl⟩
  · exact hsparse
  · exact ⟨hbits, PackedBits.dimension_pack (hword hbits), PackedBits.dataWords_pack raw⟩

/-- What is read has as many components as what was written. -/
theorem Suits.of_reread (h : v.Suits space dimension) (hread : v.reread = some v') :
    v'.Suits space dimension := by
  cases v with
  | dense values =>
      obtain ⟨values', hvalues, rfl⟩ := Option.map_eq_some_iff.mp hread
      exact ⟨h.1, (Json.mapM_forall₂ hvalues).length_eq.symm.trans h.2⟩
  | sparse indices => rwa [← Option.some.inj hread]
  | bits packed => rwa [← Option.some.inj hread]

end Encoded

/-- The name of a space in an index file. -/
def BackendKind.spaceName? (kind : BackendKind) (text : String) : Option String :=
  match kind with
  | .layered => (GraphSnapshot.ofText? text).map GraphSnapshot.space
  | .exact => (EntrySnapshot.ofText? text).map EntrySnapshot.space
  | .dense => none

/-- Whether a loaded index is what its manifest says: as many vectors, each of them stored as the
space asks for and in the dimension given. -/
structure LoadedIndex.Agrees (h : LoadedIndex BuiltinIndex) : Prop where
  count : h.size = h.manifest.vectorCount
  suited : ∀ v ∈ h.index.stored, v.Suits h.manifest.space h.manifest.dimension

section Read

variable {fs : Files} {path : String} {m : MetricSpace}

theorem readFile_eq_ok {α : Type} {read : String → Option α} {a : α}
    (h : readFile fs path read = .ok a) :
    ∃ text, fs.open? path = .ok (some text) ∧ read text = some a := by
  unfold readFile at h
  split at h
  · simp at h
  · simp at h
  · rename_i text hopen
    split at h
    · simp at h
    · rename_i b hread
      exact ⟨text, hopen, by rw [hread, Except.ok.inj h]⟩

/-- A graph is only taken in from a file that names the space in use. -/
theorem LayeredIndex.spaceName_of_load {ix ix' : LayeredIndex}
    (h : ix.load m path fs = (.ok (), ix')) :
    ∃ text, fs.open? path = .ok (some text) ∧
      BackendKind.layered.spaceName? text = some m.space.storedName := by
  unfold load at h
  cases hread : readFile fs path GraphSnapshot.ofText? with
  | error e => simp [hread] at h
  | ok s =>
      obtain ⟨text, hopen, htext⟩ := readFile_eq_ok hread
      rw [hread] at h
      dsimp only at h
      split at h
      · simp at h
      · rename_i hname
        refine ⟨text, hopen, ?_⟩
        rw [BackendKind.spaceName?, htext, Option.map_some, Classical.not_not.mp hname]

/-- Entries are only taken in from a file that names the space in use. -/
theorem ExactIndex.spaceName_of_load {ix ix' : ExactIndex}
    (h : ix.load m path fs = (.ok (), ix')) :
    ∃ text, fs.open? path = .ok (some text) ∧
      BackendKind.exact.spaceName? text = some m.space.storedName := by
  unfold load at h
  cases hread : readFile fs path EntrySnapshot.ofText? with
  | error e => simp [hread] at h
  | ok s =>
      obtain ⟨text, hopen, htext⟩ := readFile_eq_ok hread
      rw [hread] at h
      dsimp only at h
      split at h
      · simp at h
      · rename_i hname
        refine ⟨text, hopen, ?_⟩
        rw [BackendKind.spaceName?, htext, Option.map_some, Classical.not_not.mp hname]

end Read

namespace Engine

variable {kind : BackendKind} {ids : List Int} {vectors : List RawVector} {space : Space}
  {params : BuildParams} {tuning : QueryParams} {path output : String} {w w' v v₁ : World}
  {manifest : Manifest} {dataset : Dataset} {metric : MetricSpace} {index : BuiltinIndex}
  {h : LoadedIndex BuiltinIndex}

theorem spaceName_of_loaded (hkind : kind ≠ .dense)
    (hloaded : Loaded kind.backend path space tuning w w' h) :
    h.metric = .standard space ∧ ∃ text, w.files.open? path = .ok (some text) ∧
      kind.spaceName? text = some space.storedName := by
  cases kind with
  | dense => exact absurd rfl hkind
  | layered =>
      obtain ⟨hmetric, ix, hix, -⟩ := hloaded.layered_opened
      exact ⟨hmetric, LayeredIndex.spaceName_of_load hix⟩
  | exact =>
      obtain ⟨hmetric, ix, hix, -⟩ := hloaded.exact_opened
      exact ⟨hmetric, ExactIndex.spaceName_of_load hix⟩

/-- What was built stores as many vectors when it is loaded as its manifest says, in the dimension
that it says. -/
theorem agrees_of_loaded (hkind : kind ≠ .dense)
    (hbuilt : Built kind.backend ids vectors space params output v v₁ dataset metric index)
    (hopen : w.files.open? path = v₁.files.open? output)
    (hloaded : Loaded kind.backend path space tuning w w' h)
    (hmanifest : h.manifest = manifestOf kind.backend space params dataset v.clock)
    (hword : space.encoding = .bits → h.manifest.dimension < Nat.pow 2 32) : h.Agrees := by
  have hread := vectors_of_loaded hkind hbuilt hopen hloaded
  obtain ⟨-, hshaped, -, -⟩ := Dataset.build_spec hbuilt.batch
  rw [hmanifest, manifestOf] at hword
  constructor
  · rw [hloaded.size_eq, h.index.size_eq_length, ← hread.length_eq, hmanifest]
    rfl
  · intro stored hstored
    obtain ⟨e, he, hvector⟩ := Json.exists_of_forall₂ hread.flip hstored
    obtain ⟨raw, hraw, hencode⟩ := Dataset.exists_raw hbuilt.batch he
    have hlength := hshaped.uniform raw hraw
    have hsuits := Encoded.suits_of_encode hencode fun hbits => hlength ▸ hword hbits
    rw [hlength] at hsuits
    rw [hmanifest]
    exact hsuits.of_reread hvector

/-- Whether the index file and the manifest at a path are those that one build left, at that path or
at another one. -/
def LeftTogether (fs : Files) (path : String) : Prop :=
  ∃ (kind : BackendKind) (ids : List Int) (vectors : List RawVector) (space : Space)
    (params : BuildParams) (output : String) (v v₁ : World) (manifest : Manifest),
    build kind.backend ids vectors space params output v = (.ok manifest, v₁) ∧
    fs.open? path = v₁.files.open? output ∧
    fs.open? (Manifest.pathFor path) = v₁.files.open? (Manifest.pathFor output)

theorem LeftTogether.of_build
    (hbuild : build kind.backend ids vectors space params output v = (.ok manifest, v₁)) :
    LeftTogether v₁.files output :=
  ⟨kind, ids, vectors, space, params, output, v, v₁, manifest, hbuild, rfl, rfl⟩

/-- Files that were left together give an index that agrees with its manifest. -/
theorem agrees_of_leftTogether (hkind : kind ≠ .dense)
    (hload : load kind.backend path space tuning w = (.ok h, w'))
    (htogether : LeftTogether w.files path)
    (hword : space.encoding = .bits → h.manifest.dimension < Nat.pow 2 32) : h.Agrees := by
  have hloaded := load_spec hload
  obtain ⟨hspace, hbackend⟩ : h.manifest.space = space ∧ h.manifest.backend = kind.name :=
    manifest_of_loaded hloaded
  obtain ⟨kind', ids, vectors, space', params, output, v, v₁, manifest, hbuild, hindex, hbeside⟩ :=
    htogether
  obtain ⟨dataset, metric, index, hmanifest, hbuilt⟩ := build_spec hbuild
  obtain ⟨fs, -, hwrite⟩ := hbuilt.saved
  have hread : Manifest.read output v₁.files = .ok h.manifest := by
    have hdescribed := hloaded.described
    unfold Manifest.read Files.read at hdescribed ⊢
    rwa [hbeside] at hdescribed
  -- The manifest that was read is that of the build, so the build was for this space and backend.
  have hsame := Manifest.eq_of_read hwrite hread
  have hkinds : kind'.name = kind.name := by
    rw [← hbackend, hsame]
    rfl
  have hspaces : space' = space := by
    rw [← hspace, hsame]
    rfl
  cases BackendKind.name_inj.mp hkinds
  subst hspaces
  exact agrees_of_loaded hkind hbuilt hindex hloaded hsame hword

/-- An index that was loaded is of the space asked for, and so are its manifest and its file. It
agrees with its manifest where both files were left by one build. -/
theorem load_agrees (hkind : kind ≠ .dense)
    (hload : load kind.backend path space tuning w = (.ok h, w')) :
    h.manifest.space = space ∧ h.metric = .standard space ∧
      (∃ text, w.files.open? path = .ok (some text) ∧
        ∀ s : Space, kind.spaceName? text = some s.storedName ↔ s = space) ∧
      (LeftTogether w.files path →
        (space.encoding = .bits → h.manifest.dimension < Nat.pow 2 32) → h.Agrees) := by
  obtain ⟨hspace, -⟩ := manifest_of_loaded (load_spec hload)
  obtain ⟨hmetric, text, hopen, hname⟩ := spaceName_of_loaded hkind (load_spec hload)
  refine ⟨hspace, hmetric, ⟨text, hopen, fun s => ?_⟩, agrees_of_leftTogether hkind hload⟩
  rw [hname, Option.some.injEq, Space.storedName_inj, eq_comm]

theorem load_agrees_tenths : ∃ w h w',
    load BackendKind.layered.backend "a.idx" .l2 ⟨some 7⟩ w = (.ok h, w') ∧
    LeftTogether w.files "a.idx" ∧ h.manifest.space = .l2 ∧ h.metric = .standard .l2 ∧
    (∃ text, w.files.open? "a.idx" = .ok (some text) ∧
      ∀ s : Space, BackendKind.layered.spaceName? text = some s.storedName ↔ s = .l2) ∧
    h.Agrees := by
  obtain ⟨manifest, w₁, hbuild⟩ := tenths_built
  obtain ⟨h, w₂, hload⟩ := tenths_loaded hbuild
  obtain ⟨hspace, hmetric, hname, hagrees⟩ := load_agrees (by decide) hload
  have htogether := LeftTogether.of_build hbuild
  exact ⟨w₁, h, w₂, hload, htogether, hspace, hmetric, hname,
    hagrees htogether fun hbits => absurd hbits (by decide)⟩

/-- The manifest of two vectors of two components, beside the file of one vector with one
component, is loaded with that file. -/
theorem load_disagrees_mislaid : ∃ w h w',
    load BackendKind.exact.backend "a.idx" .l2 .unset w = (.ok h, w') ∧
    h.size = 1 ∧ h.manifest.vectorCount = 2 ∧
    h.index.stored = [.dense [0]] ∧ h.manifest.dimension = 2 ∧ ¬ h.Agrees := by
  let described : Manifest := ⟨Manifest.currentVersion, .l2, 2, 2, "exact", .unset, 0⟩
  have hreread : [Entry.mk 1 (.dense [0])].mapM Entry.reread = some [⟨1, .dense [0]⟩] := by
    have hzero : ∀ x ∈ [(0 : Single)], x.Restored := by decide +kernel
    simp [Entry.reread, Encoded.reread_dense hzero, Number.fitsSigned]
  have hfits : described.InWords := by decide
  obtain ⟨fs, hopen, hread⟩ := exists_beside
    (EntrySnapshot.render ⟨Space.l2.storedName, [⟨1, .dense [0]⟩]⟩) hfits (le_refl _)
  have hopened := ExactIndex.load_of_reread (m := .standard .l2) hopen hreread
    (ExactIndex.fresh (.standard .l2))
  have hvalid : QueryParams.unset.validate = .ok () := rfl
  obtain ⟨w', hload⟩ := load_of_steps (b := BackendKind.exact.backend) (w := ⟨fs, 0, []⟩) hvalid
    hread rfl rfl rfl (congrArg (Prod.map id BuiltinIndex.exact) hopened) rfl
  refine ⟨_, _, w', hload, rfl, rfl, rfl, rfl, fun hagrees => ?_⟩
  have hcount := hagrees.count
  exact absurd hcount (by decide)

end Engine

end Vicinity
