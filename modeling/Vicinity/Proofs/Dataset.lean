import Vicinity.Dataset
import Vicinity.Proofs.Encoded
import Mathlib.Data.List.Forall2
import Mathlib.Data.List.Nodup

/-!
What an accepted batch is: as many vectors as ids, one dimension for all of them, and ids that are
pairwise different.
-/

namespace Vicinity

theorem firstRepeated_eq_none_iff (seen ids : List Int) :
    firstRepeated seen ids = none ↔ ids.Nodup ∧ ∀ id ∈ ids, id ∉ seen := by
  induction ids generalizing seen with
  | nil => simp [firstRepeated]
  | cons id rest ih =>
      rw [firstRepeated]
      by_cases hid : id ∈ seen
      · simp [hid]
      · rw [if_neg hid, ih, List.nodup_cons]
        constructor
        · rintro ⟨hrest, hfresh⟩
          refine ⟨⟨fun hmem => hfresh id hmem List.mem_cons_self, hrest⟩, ?_⟩
          intro other hother
          rcases List.mem_cons.mp hother with rfl | hother
          · exact hid
          · exact fun hseen => hfresh other hother (List.mem_cons_of_mem id hseen)
        · rintro ⟨⟨hnot, hrest⟩, hfresh⟩
          refine ⟨hrest, fun other hother hseen => ?_⟩
          rcases List.mem_cons.mp hseen with rfl | hseen
          · exact hnot hother
          · exact hfresh other (List.mem_cons_of_mem id hother) hseen

namespace Dataset

variable {space : Space} {ids : List Int} {vectors : List RawVector} {dimension : Nat}

/-- What the checks of a batch leave through. -/
structure Shaped (space : Space) (ids : List Int) (vectors : List RawVector) (dimension : Nat) :
    Prop where
  matched : ids.length = vectors.length
  nonempty : vectors ≠ []
  uniform : ∀ v ∈ vectors, v.length = dimension
  packable : space.encoding = .bits → minBitDimension ≤ dimension
  distinct : ids.Nodup

theorem checkShape_spec (h : checkShape space ids vectors = .ok dimension) :
    Shaped space ids vectors dimension := by
  unfold checkShape at h
  split at h
  · simp at h
  rename_i hlength
  cases vectors with
  | nil => simp at h
  | cons first rest =>
  cases hother : (first :: rest).find? fun v => v.length != first.length with
  | some other => simp [hother] at h
  | none =>
  cases hbits : (if space.encoding = .bits then checkBitDimension first.length else .ok ()) with
  | error e => simp [hother, hbits] at h
  | ok u =>
  cases hrepeat : firstRepeated [] ids with
  | some id => simp [hother, hbits, hrepeat] at h
  | none =>
  simp only [hother, hbits, hrepeat, Except.ok.injEq] at h
  subst h
  refine
    { matched := Classical.not_not.mp hlength, nonempty := List.cons_ne_nil _ _
      uniform := fun v hv => by simpa using List.find?_eq_none.mp hother v hv
      packable := ?_, distinct := ((firstRepeated_eq_none_iff [] ids).mp hrepeat).1 }
  intro hencoding
  rw [if_pos hencoding, checkBitDimension] at hbits
  split at hbits
  · simp at hbits
  · omega

/-- Every vector is encoded under its id, in order. -/
theorem encodeAll_spec {entries : List Entry} (hlength : ids.length = vectors.length)
    (h : encodeAll space ids vectors = .ok entries) :
    entries.map Entry.id = ids ∧
      List.Forall₂ (fun v e => space.encode v = .ok e.vector) vectors entries := by
  induction ids generalizing vectors entries with
  | nil =>
      cases vectors with
      | nil =>
          rw [← Except.ok.inj h]
          exact ⟨rfl, List.Forall₂.nil⟩
      | cons raw vectors => simp at hlength
  | cons id rest ih =>
      cases vectors with
      | nil => simp at hlength
      | cons raw vectors =>
          rw [encodeAll] at h
          cases hraw : space.encode raw with
          | error e => simp [hraw] at h
          | ok vector =>
              cases hrest : encodeAll space rest vectors with
              | error e => simp [hraw, hrest, Except.map] at h
              | ok more =>
                  simp only [hraw, hrest, Except.map, Except.ok.injEq] at h
                  obtain ⟨hids, hvectors⟩ := ih (Nat.succ.inj hlength) hrest
                  rw [← h, List.map_cons, hids]
                  exact ⟨rfl, List.Forall₂.cons hraw hvectors⟩

/-- All that an accepted batch is. -/
theorem build_spec {dataset : Dataset} (h : build space ids vectors = .ok dataset) :
    dataset.space = space ∧ Shaped space ids vectors dataset.dimension ∧
      dataset.entries.map Entry.id = ids ∧
      List.Forall₂ (fun v e => space.encode v = .ok e.vector) vectors dataset.entries := by
  unfold build at h
  cases hshape : checkShape space ids vectors with
  | error e => simp [hshape] at h
  | ok dimension =>
      cases hentries : encodeAll space ids vectors with
      | error e => simp [hshape, hentries, Except.map] at h
      | ok entries =>
          simp only [hshape, hentries, Except.map, Except.ok.injEq] at h
          subst h
          have hshaped := checkShape_spec hshape
          exact ⟨rfl, hshaped, encodeAll_spec hshaped.matched hentries⟩

/-- The entries of an accepted batch go with its pairs of an id and a raw vector. -/
theorem forall₂_zip {dataset : Dataset} (h : build space ids vectors = .ok dataset) :
    List.Forall₂ (fun p e => e.id = p.1 ∧ space.encode p.2 = .ok e.vector) (ids.zip vectors)
      dataset.entries := by
  obtain ⟨-, -, hids, hencoded⟩ := build_spec h
  rw [← hids]
  clear h hids
  generalize dataset.entries = entries at hencoded ⊢
  induction hencoded with
  | nil => exact List.Forall₂.nil
  | cons hvector _ ih => exact List.Forall₂.cons ⟨rfl, hvector⟩ ih

/-- Each stored vector of an accepted batch is the form of one of its raw vectors. -/
theorem exists_raw {dataset : Dataset} (h : build space ids vectors = .ok dataset) {e : Entry}
    (he : e ∈ dataset.entries) : ∃ raw ∈ vectors, space.encode raw = .ok e.vector := by
  obtain ⟨-, -, -, hencoded⟩ := build_spec h
  obtain ⟨i, hi, rfl⟩ := List.mem_iff_getElem.mp he
  have hlength := hencoded.length_eq
  exact ⟨_, List.getElem_mem (by omega), hencoded.get (by omega) hi⟩

/-- Each raw vector of an accepted batch is stored in its form. -/
theorem exists_entry {dataset : Dataset} (h : build space ids vectors = .ok dataset)
    {raw : RawVector} (hraw : raw ∈ vectors) :
    ∃ e ∈ dataset.entries, space.encode raw = .ok e.vector := by
  obtain ⟨-, -, -, hencoded⟩ := build_spec h
  obtain ⟨i, hi, rfl⟩ := List.mem_iff_getElem.mp hraw
  have hlength := hencoded.length_eq
  exact ⟨_, List.getElem_mem (by omega), hencoded.get hi (by omega)⟩

/-- A vector as long as those of an accepted batch is encoded without an error, and one of any
length is where the space does not fix it. -/
theorem exists_encode (h : Shaped space ids vectors dimension) {raw : RawVector}
    (hraw : space.hasFixedDimension = true → raw.length = dimension) :
    ∃ vector, space.encode raw = .ok vector := by
  unfold Space.encode
  cases hencoding : space.encoding with
  | dense => exact ⟨_, rfl⟩
  | sparse => exact ⟨_, rfl⟩
  | bits =>
      have hlength : raw.length = dimension := hraw (by simp [Space.hasFixedDimension, hencoding])
      have hpackable := h.packable hencoding
      have henough : ¬ raw.length < minBitDimension := by omega
      simp only [checkBitDimension, if_neg henough]
      exact ⟨_, rfl⟩

end Dataset

end Vicinity
