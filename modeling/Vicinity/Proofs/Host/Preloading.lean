import Vicinity.Proofs.Host.Warmup
import Vicinity.Proofs.Index.Persistence

/-!
Which files a warm-up loads. Where the table has each file once, a list of entries that succeeds
gives one number for each place and loads no file that is in the table already, however its path is
spelled. A list that fails leaves in the table what was loaded for the entries before the one that
failed, under numbers that nobody was told.
-/

namespace Vicinity.Host

variable {σ : Type} {b : Backend σ} {entry : WarmupEntry} {entries : List WarmupEntry}
  {s s' : State σ} {handle : Nat} {handles : List Nat} {e : Error}

section Tenths

variable {manifest : Manifest} {w₁ : World}

/-- A file that can be loaded, and the same file for a space that does not exist. -/
def misspelled : List WarmupEntry := [⟨"a.idx", "l2"⟩, ⟨"a.idx", "hamming"⟩]

/-- The first entry of both lists is loaded into an empty table. -/
theorem tenths_warm
    (hbuild : Engine.build BackendKind.layered.backend [4, -3] Engine.tenths .l2 .unset "a.idx"
      ⟨⟨[], []⟩, 0, []⟩ = (.ok manifest, w₁)) :
    ∃ h w₂, Engine.load BackendKind.layered.backend "a.idx" .l2 .unset w₁ = (.ok h, w₂) ∧
      w₂.files = w₁.files ∧
      warm BackendKind.layered.backend ⟨"a.idx", "l2"⟩ ⟨.empty, w₁⟩ =
        (.ok 1, ⟨(HandleTable.empty.insert h (w₁.files.normalize "a.idx")).2, w₂⟩) := by
  obtain ⟨h, w₂, hload⟩ : ∃ h w₂, Engine.load BackendKind.layered.backend "a.idx" .l2 .unset w₁ =
      (.ok h, w₂) :=
    Engine.exists_load_of_storable (by decide) hbuild rfl Engine.tenths_fits rfl (by decide)
      (by decide)
  have hfiles := Engine.keepsFiles_load BackendKind.layered.backend "a.idx" .l2 .unset w₁
  rw [hload] at hfiles
  exact ⟨h, w₂, hload, hfiles, warm_of_load (s := ⟨.empty, w₁⟩) rfl List.not_mem_nil hload⟩

theorem misspelled_fails
    (hbuild : Engine.build BackendKind.layered.backend [4, -3] Engine.tenths .l2 .unset "a.idx"
      ⟨⟨[], []⟩, 0, []⟩ = (.ok manifest, w₁)) :
    ∃ h w₂, Engine.load BackendKind.layered.backend "a.idx" .l2 .unset w₁ = (.ok h, w₂) ∧
      warmup BackendKind.layered.backend misspelled ⟨.empty, w₁⟩ =
        (.error (.unsupportedSpace "hamming"),
          ⟨(HandleTable.empty.insert h (w₁.files.normalize "a.idx")).2, w₂⟩) := by
  obtain ⟨h, w₂, hload, -, hwarm⟩ := tenths_warm hbuild
  exact ⟨h, w₂, hload, warmup_cons_eq_error.mpr
    (.inr ⟨1, _, hwarm, warmup_cons_eq_error.mpr (.inl rfl)⟩)⟩

end Tenths

/-- A list that fails leaves the table as the entries before the one that failed have left it: the
indexes that were loaded for them stay. The table is as before if and only if the files of all these
entries were loaded already. -/
theorem warmup_failed (h : warmup b entries s = (.error e, s')) :
    ∃ done failing rest handles s₁, entries = done ++ failing :: rest ∧
      warmup b done s = (.ok handles, s₁) ∧ warm b failing s₁ = (.error e, s') ∧
      s'.handles = s₁.handles ∧ s.handles.entries <+: s'.handles.entries ∧
      s'.handles.size = s.handles.size + ((done.map fun entry =>
        entry.place s.world.files).filter (· ∉ s.handles.places)).dedup.length ∧
      (s'.handles = s.handles ↔
        ∀ entry ∈ done, entry.place s.world.files ∈ s.handles.places) := by
  obtain ⟨done, failing, rest, handles, s₁, hsplit, hdone, hfailing, hsame, -⟩ := exists_failing h
  have hgrows := warmup_grows hdone
  refine ⟨done, failing, rest, handles, s₁, hsplit, hdone, hfailing, hsame, ?_⟩
  rw [hsame]
  exact ⟨hgrows.kept, size_of_warmup hdone, handles_eq_iff hdone⟩

theorem warmup_failed_misspelled : ∃ (w₁ : World) (s' : State BuiltinIndex),
    warmup BackendKind.layered.backend misspelled ⟨.empty, w₁⟩ =
      (.error (.unsupportedSpace "hamming"), s') ∧
    ∃ done failing rest handles s₁, misspelled = done ++ failing :: rest ∧
      warmup BackendKind.layered.backend done ⟨.empty, w₁⟩ = (.ok handles, s₁) ∧
      warm BackendKind.layered.backend failing s₁ = (.error (.unsupportedSpace "hamming"), s') ∧
      (s'.handles = .empty ↔ ∀ entry ∈ done, entry.place w₁.files ∈ ([] : List (List String))) := by
  obtain ⟨manifest, w₁, hbuild⟩ := Engine.tenths_built
  obtain ⟨h, w₂, -, hwarmup⟩ := misspelled_fails hbuild
  obtain ⟨done, failing, rest, handles, s₁, hsplit, hdone, hfailing, -, -, -, hkept⟩ :=
    warmup_failed hwarmup
  exact ⟨w₁, _, hwarmup, done, failing, rest, handles, s₁, hsplit, hdone, hfailing, hkept⟩

/-- The index that is loaded for the first entry stays in the table when the second is refused. -/
theorem warmup_leaves_misspelled : ∃ (manifest : Manifest) (w₁ : World) (s' : State BuiltinIndex),
    Engine.build BackendKind.layered.backend [4, -3] Engine.tenths .l2 .unset "a.idx"
      ⟨⟨[], []⟩, 0, []⟩ = (.ok manifest, w₁) ∧
    warmup BackendKind.layered.backend misspelled ⟨.empty, w₁⟩ =
      (.error (.unsupportedSpace "hamming"), s') ∧
    s'.handles.size = 1 ∧ s'.handles.live ≠ HandleTable.empty.live := by
  obtain ⟨manifest, w₁, hbuild⟩ := Engine.tenths_built
  obtain ⟨h, w₂, -, hwarmup⟩ := misspelled_fails hbuild
  exact ⟨manifest, w₁, _, hbuild, hwarmup, rfl, List.cons_ne_nil _ _⟩

end Vicinity.Host
