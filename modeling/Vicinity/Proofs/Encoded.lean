import Vicinity.Encoded

/-!
The forms in which spaces store vectors: all components, the indices of those that are not zero, or
packed bits that end with their dimension.
-/

namespace Vicinity

namespace PackedBits

theorem dataWords_pack (raw : RawVector) : (pack raw).dataWords.length = wordCount raw.length := by
  simp [dataWords, pack]

/-- Packed bits know their dimension if it fits in a word. -/
theorem dimension_pack {raw : RawVector} (h : raw.length < Nat.pow 2 32) :
    (pack raw).dimension = raw.length := by
  have hpow : Nat.pow 2 32 = 2 ^ 32 := rfl
  have hlast : (pack raw).dimension = (UInt32.ofNat raw.length).toNat := by
    simp [dimension, pack]
  rw [hlast, UInt32.toNat_ofNat', Nat.mod_eq_of_lt (hpow ▸ h)]

end PackedBits

namespace Space

variable {s : Space} {raw : RawVector} {v : Encoded}

theorem encode_dense (h : s.encoding = .dense) (raw : RawVector) :
    s.encode raw = .ok (.dense raw) := by
  rw [encode, h]

theorem encode_bits (h : minBitDimension ≤ raw.length) :
    Space.bitJaccard.encode raw = .ok (.bits (.pack raw)) := by
  simp [encode, encoding, checkBitDimension, Nat.not_lt.mpr h]

/-- All forms that a raw vector can take. -/
theorem encode_cases (h : s.encode raw = .ok v) :
    (s.encoding = .dense ∧ v = .dense raw) ∨
    (s.encoding = .sparse ∧ v = .sparse (nonzeroIndices raw)) ∨
    (s.encoding = .bits ∧ v = .bits (.pack raw)) := by
  unfold encode at h
  cases hencoding : s.encoding with
  | dense =>
      rw [hencoding] at h
      exact Or.inl ⟨rfl, (Except.ok.inj h).symm⟩
  | sparse =>
      rw [hencoding] at h
      exact Or.inr (Or.inl ⟨rfl, (Except.ok.inj h).symm⟩)
  | bits =>
      cases hcheck : checkBitDimension raw.length with
      | error e => simp [hencoding, hcheck] at h
      | ok u =>
          simp only [hencoding, hcheck] at h
          exact Or.inr (Or.inr ⟨rfl, (Except.ok.inj h).symm⟩)

/-- A vector is encoded the way its space asks for. -/
theorem encoding_of_encode (h : s.encode raw = .ok v) : v.encoding = s.encoding := by
  rcases encode_cases h with ⟨hencoding, rfl⟩ | ⟨hencoding, rfl⟩ | ⟨hencoding, rfl⟩
  · exact hencoding.symm
  · exact hencoding.symm
  · exact hencoding.symm

end Space

end Vicinity
