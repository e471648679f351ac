import Vicinity.Proofs.Index.Lifecycle

/-!
A build that fails, and the files it leaves. The file of an index is written before its manifest, so
a build that can write the first but not the second has put the new index in place of the old one by
the time it fails. All other failures leave the files as they were.
-/

namespace Vicinity

namespace Engine

variable {kind : BackendKind} {ids : List Int} {vectors : List RawVector} {space : Space}
  {params : BuildParams} {output text : String} {w w' : World} {dataset : Dataset}
  {metric : MetricSpace} {index : BuiltinIndex} {fs fs' : Files} {l : Location} {e : Error}

/-- Whether both files of an index are as they were. -/
def Untouched (fs fs' : Files) (path : String) : Prop :=
  fs'.open? path = fs.open? path ∧
    fs'.open? (Manifest.pathFor path) = fs.open? (Manifest.pathFor path)

/-- Whether the file of an index can be written where its manifest cannot. -/
def Blocked (fs : Files) (path : String) : Prop :=
  (∃ l, fs.writable path = .ok l) ∧ ∃ cause, fs.writable (Manifest.pathFor path) = .error cause

/-- Whether a build makes an index that it saves with the given text and then has no place for its
manifest. -/
structure StopsHalfway (kind : BackendKind) (ids : List Int) (vectors : List RawVector)
    (space : Space) (params : BuildParams) (output : String) (fs : Files) (text : String) :
    Prop where
  made : ∃ dataset metric index,
    Made kind.backend ids vectors space params dataset metric index ∧ index.SavesAs text
  blocked : Blocked fs output

/-- A build that stops halfway fails, and leaves the new index. -/
theorem build_of_blocked (hkind : kind ≠ .dense)
    (hmade : Made kind.backend ids vectors space params dataset metric index)
    (hsaves : index.SavesAs text) (hplace : w.files.writable output = .ok l) {cause : FileError}
    (hmanifest : w.files.writable (Manifest.pathFor output) = .error cause) :
    ∃ w', build kind.backend ids vectors space params output w = (.error (.file cause), w') ∧
      w'.files = w.files.put l (.text text) := by
  rw [build_of_saved hmade (hmade.stored hkind).1 (save_eq hsaves hplace), Manifest.write,
    Files.write, writable_manifest_put hplace, hmanifest]
  exact ⟨_, rfl, rfl⟩

/-- A build that fails after it has made an index whose file it can write has no place for the
manifest. -/
theorem manifest_of_failed (hkind : kind ≠ .dense)
    (hfail : build kind.backend ids vectors space params output w = (.error e, w'))
    (hmade : Made kind.backend ids vectors space params dataset metric index)
    (hplace : w.files.writable output = .ok l) :
    ∃ cause, w.files.writable (Manifest.pathFor output) = .error cause := by
  cases hmanifest : w.files.writable (Manifest.pathFor output) with
  | error cause => exact ⟨cause, rfl⟩
  | ok k =>
      obtain ⟨w₁, hbuild⟩ := exists_build_of_made hkind hmade hplace hmanifest
      exact absurd (congrArg Prod.fst (hbuild.symm.trans hfail)) (by simp)

/-- A build that fails leaves the files as they were, or has put a new index in place. -/
theorem files_of_failed (hkind : kind ≠ .dense)
    (hfail : build kind.backend ids vectors space params output w = (.error e, w')) :
    w'.files = w.files ∨
      ∃ text, StopsHalfway kind ids vectors space params output w.files text := by
  obtain ⟨calls, files, r, hrun, hends⟩ :=
    build_ends kind.backend ids vectors space params output w
  obtain ⟨rfl, rfl⟩ := Prod.mk.inj (hrun.symm.trans hfail)
  obtain hsame | ⟨dataset, metric, index, _, hmade, -, -, hfiles⟩ | ⟨_, _, _, ⟨⟩, -⟩ :=
    hends.written
  · exact .inl hsame
  obtain ⟨-, text, hsaves⟩ := hmade.stored hkind
  have hsave : files = (writeFile w.files output text).2 :=
    hfiles.trans (congrArg Prod.snd (hsaves output w.files))
  cases hplace : w.files.writable output with
  | error cause =>
      rw [writeFile_of_unwritable hplace] at hsave
      exact .inl hsave
  | ok l =>
      have hmanifest := manifest_of_failed hkind hfail hmade hplace
      exact .inr ⟨text, ⟨dataset, metric, index, hmade, hsaves⟩, ⟨l, hplace⟩, hmanifest⟩

/-- A build that fails leaves the files as they were if it has not stopped halfway. If it has, the
new index stands where it was to be saved, with what was beside it before, so both files are as they
were only if the old one happens to have held the same text. -/
theorem build_failed_files (hkind : kind ≠ .dense)
    (hfail : build kind.backend ids vectors space params output w = (.error e, w')) :
    ((¬ ∃ text, StopsHalfway kind ids vectors space params output w.files text) →
      w'.files = w.files) ∧
    (∀ text, StopsHalfway kind ids vectors space params output w.files text →
      w'.files.open? output = .ok (some text) ∧
      w'.files.open? (Manifest.pathFor output) = w.files.open? (Manifest.pathFor output)) ∧
    (Untouched w.files w'.files output ↔
      ∀ text, StopsHalfway kind ids vectors space params output w.files text →
        w.files.open? output = .ok (some text)) := by
  have hwhole := (files_of_failed hkind hfail).resolve_right
  have hhalf : ∀ text, StopsHalfway kind ids vectors space params output w.files text →
      w'.files.open? output = .ok (some text) ∧
      w'.files.open? (Manifest.pathFor output) = w.files.open? (Manifest.pathFor output) := by
    rintro text ⟨⟨dataset, metric, index, hmade, hsaves⟩, ⟨l, hplace⟩, cause, hmanifest⟩
    obtain ⟨v, hrun, hfiles⟩ := build_of_blocked hkind hmade hsaves hplace hmanifest
    obtain ⟨-, rfl⟩ := Prod.mk.inj (hrun.symm.trans hfail)
    rw [hfiles]
    exact ⟨Files.open?_of_write (Files.write_of_writable hplace text),
      Files.open?_put_beside hplace (by decide) (by decide) text⟩
  refine ⟨hwhole, hhalf, fun huntouched text hstops => ?_, fun hsame => ?_⟩
  · exact huntouched.1.symm.trans (hhalf text hstops).1
  · by_cases hstops : ∃ text, StopsHalfway kind ids vectors space params output w.files text
    · obtain ⟨text, hstops⟩ := hstops
      obtain ⟨hindex, hbeside⟩ := hhalf text hstops
      exact ⟨hindex.trans (hsame text hstops).symm, hbeside⟩
    · rw [Untouched, hwhole hstops]
      exact ⟨rfl, rfl⟩

section Barred

/-- A file of an index, and a directory where its manifest belongs. -/
def barred (text : String) : Files :=
  Files.put ⟨[(["a.idx.manifest.json"], .directory)], []⟩ ["a.idx"] (.text text)

theorem barred_writable : (⟨[(["a.idx.manifest.json"], .directory)], []⟩ : Files).writable "a.idx" =
    .ok ["a.idx"] := by decide +kernel

theorem barred_place (text : String) : (barred text).writable "a.idx" = .ok ["a.idx"] :=
  Files.writable_put (Files.writable_spec barred_writable).2.1 text barred_writable

theorem barred_manifest (text : String) :
    (barred text).writable (Manifest.pathFor "a.idx") = .error .isADirectory :=
  (writable_manifest_put barred_writable text).trans (by decide +kernel)

theorem barred_open (text : String) : (barred text).open? "a.idx" = .ok (some text) :=
  Files.open?_of_write (Files.write_of_writable barred_writable text)

/-- The file of an exact index over one vector of one component. -/
def singleText (id : Int) (x : Single) : String :=
  EntrySnapshot.render ⟨Space.l2.storedName, [⟨id, .dense [x]⟩]⟩

theorem savesAs_single (id : Int) (x : Single) :
    (BuiltinIndex.exact ⟨.l2, [⟨id, .dense [x]⟩]⟩).SavesAs (singleText id x) :=
  fun _ _ => rfl

theorem made_single (id : Int) (x : Single) : Made BackendKind.exact.backend [id] [[x]] .l2 .unset
    ⟨.l2, 1, [⟨id, .dense [x]⟩]⟩ (.standard .l2) (.exact ⟨.l2, [⟨id, .dense [x]⟩]⟩) :=
  ⟨rfl, rfl, rfl, _, rfl, rfl⟩

theorem build_failed_files_barred : ∃ e w',
    build BackendKind.exact.backend [2] [[1]] .l2 .unset "a.idx" ⟨barred (singleText 1 0), 0, []⟩ =
      (.error e, w') ∧
    w'.files.open? "a.idx" = .ok (some (singleText 2 1)) ∧
    w'.files.open? (Manifest.pathFor "a.idx") =
      (barred (singleText 1 0)).open? (Manifest.pathFor "a.idx") := by
  obtain ⟨w', hfail, -⟩ := build_of_blocked (w := ⟨barred (singleText 1 0), 0, []⟩) (by decide)
    (made_single 2 1) (savesAs_single 2 1) (barred_place _) (barred_manifest _)
  obtain ⟨-, hhalf, -⟩ := build_failed_files (by decide) hfail
  exact ⟨_, w', hfail, hhalf _ ⟨⟨_, _, _, made_single 2 1, savesAs_single 2 1⟩,
    ⟨_, barred_place _⟩, _, barred_manifest _⟩⟩

theorem singleText_ne : singleText 1 0 ≠ singleText 2 1 := by
  intro hsame
  have hread := congrArg EntrySnapshot.ofText? hsame
  have hzero : ∀ x ∈ [(0 : Single)], x.Restored := by decide +kernel
  have hone : ∀ x ∈ [(1 : Single)], x.Restored := by decide +kernel
  simp [singleText, EntrySnapshot.ofText?_render, Entry.reread, Encoded.reread_dense hzero,
    Encoded.reread_dense hone, Number.fitsSigned] at hread

/-- A build over another vector fails where a directory is in the way of its manifest, and takes the
earlier index with it. -/
theorem build_replaces_barred : ∃ e w',
    build BackendKind.exact.backend [2] [[1]] .l2 .unset "a.idx" ⟨barred (singleText 1 0), 0, []⟩ =
      (.error e, w') ∧
    (barred (singleText 1 0)).open? "a.idx" = .ok (some (singleText 1 0)) ∧
    ¬ Untouched (barred (singleText 1 0)) w'.files "a.idx" := by
  obtain ⟨w', hfail, hfiles⟩ := build_of_blocked (w := ⟨barred (singleText 1 0), 0, []⟩) (by decide)
    (made_single 2 1) (savesAs_single 2 1) (barred_place _) (barred_manifest _)
  refine ⟨_, w', hfail, barred_open _, fun huntouched => singleText_ne ?_⟩
  have hnew : w'.files.open? "a.idx" = .ok (some (singleText 2 1)) := by
    rw [hfiles]
    exact Files.open?_of_write (Files.write_of_writable (barred_place _) _)
  simpa [barred_open] using (huntouched.1.symm.trans hnew)

end Barred

end Engine

end Vicinity
