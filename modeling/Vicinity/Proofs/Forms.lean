import Vicinity.Proofs.Jaccard
import Vicinity.Proofs.Packing

/-!
The forms in which vectors are stored, as codes. The sparse and the packed form keep of a vector the
positions at which it is not zero and nothing else, in no more room than the vector takes. The bytes
of a stored vector tell it from all others in the same form.
-/

namespace Vicinity

section Bytes

@[simp] theorem length_wordBytes (w : UInt32) : (wordBytes w).length = 4 := rfl

/-- A word is made up of its bytes. -/
theorem toNat_eq_bytes (w : UInt32) :
    w.toNat = w.toUInt8.toNat + 256 * (w >>> 8).toUInt8.toNat +
      65536 * (w >>> 16).toUInt8.toNat + 16777216 * (w >>> 24).toUInt8.toNat := by
  have hlt := w.toNat_lt
  simp only [UInt32.toNat_toUInt8, UInt32.toNat_shiftRight, UInt32.reduceToNat,
    Nat.shiftRight_eq_div_pow, Nat.reduceMod, Nat.reducePow]
  omega

theorem wordBytes_injective : Function.Injective wordBytes := by
  intro v w h
  simp only [wordBytes, List.cons.injEq] at h
  obtain ⟨hfirst, hsecond, hthird, hfourth, -⟩ := h
  rw [← UInt32.toNat_inj, toNat_eq_bytes v, toNat_eq_bytes w, hfirst, hsecond, hthird, hfourth]

/-- Every word takes four bytes, so bytes are divided into words in one way only. -/
theorem flatMap_wordBytes_injective :
    Function.Injective fun words : List UInt32 => words.flatMap wordBytes := by
  intro vs
  induction vs with
  | nil =>
      intro ws h
      cases ws with
      | nil => rfl
      | cons w ws => simp [wordBytes] at h
  | cons v vs ih =>
      intro ws h
      cases ws with
      | nil => simp [wordBytes] at h
      | cons w ws =>
          simp only [List.flatMap_cons] at h
          obtain ⟨hhead, hrest⟩ := List.append_inj h rfl
          rw [wordBytes_injective hhead, ih hrest]

namespace Encoded

theorem length_units (v : Encoded) : v.units.length = v.unitCount := by
  cases v with
  | dense values => exact List.length_map _
  | sparse indices => rfl
  | bits packed => rfl

theorem length_bytes (v : Encoded) : v.bytes.length = v.byteCount := by
  simp [bytes, byteCount, List.length_flatMap, length_units]

theorem eq_of_units {v w : Encoded} (hform : v.encoding = w.encoding) (h : v.units = w.units) :
    v = w := by
  have hbits : Function.Injective Single.bits := by
    rintro ⟨a⟩ ⟨b⟩ rfl
    rfl
  cases v with
  | dense values =>
      cases w with
      | dense others => exact congrArg dense (List.map_injective_iff.mpr hbits h)
      | _ => cases hform
  | sparse indices =>
      cases w with
      | sparse others => exact congrArg sparse h
      | _ => cases hform
  | bits packed =>
      cases w with
      | bits others => exact congrArg bits (congrArg PackedBits.mk h)
      | _ => cases hform

/-- In one form, different vectors have different bytes. -/
theorem eq_of_bytes {v w : Encoded} (hform : v.encoding = w.encoding) (h : v.bytes = w.bytes) :
    v = w :=
  eq_of_units hform (flatMap_wordBytes_injective h)

end Encoded

end Bytes

variable {raw raw' : RawVector}

section Sparse

theorem nonzeroIndices_eq_iff (h : raw.length < Nat.pow 2 32) (h' : raw'.length < Nat.pow 2 32) :
    nonzeroIndices raw = nonzeroIndices raw' ↔ support raw = support raw' := by
  constructor
  · intro heq
    rw [← Distance.image_nonzeroIndices h.le, ← Distance.image_nonzeroIndices h'.le, heq]
  · intro heq
    refine (nonzeroIndices_sorted h.le).eq_of_mem_iff (nonzeroIndices_sorted h'.le) fun w => ?_
    rw [mem_nonzeroIndices h.le, mem_nonzeroIndices h'.le, heq]

theorem length_nonzeroIndices_le (raw : RawVector) : (nonzeroIndices raw).length ≤ raw.length := by
  rw [nonzeroIndices, List.length_map]
  exact (List.length_filter_le _ _).trans_eq List.length_zipIdx

end Sparse

namespace PackedBits

theorem length_words_pack (raw : RawVector) :
    (pack raw).words.length = wordCount raw.length + 1 := by
  simp [words_pack]

theorem dataWord_pack {k : Nat} {w : UInt32} (h : (pack raw).dataWords[k]? = some w) :
    w = wordAt raw k := by
  have hwords : (pack raw).dataWords = (List.range (wordCount raw.length)).map (wordAt raw) := by
    rw [dataWords, words_pack, List.dropLast_concat]
  rw [hwords, List.getElem?_map] at h
  obtain ⟨i, hi, rfl⟩ := Option.map_eq_some_iff.mp h
  obtain ⟨hk, rfl⟩ := List.getElem?_eq_some_iff.mp hi
  rw [List.getElem_range]

/-- Past the last component no bit of a word is set. -/
theorem testBit_padding {k j : Nat} {w : UInt32} (h : (pack raw).dataWords[k]? = some w)
    (hj : j < wordBits) (hpast : raw.length ≤ wordBits * k + j) : w.toNat.testBit j = false := by
  rw [dataWord_pack h, testBit_wordAt raw k hj, decide_eq_false_iff_not]
  exact fun hmem => Nat.not_lt.mpr hpast (lt_of_mem_support hmem)

theorem pack_eq_iff (h : raw.length < Nat.pow 2 32) (h' : raw'.length < Nat.pow 2 32) :
    pack raw = pack raw' ↔ raw.length = raw'.length ∧ support raw = support raw' := by
  constructor
  · intro heq
    rw [← dimension_pack h, ← dimension_pack h', ← ones_pack h, ← ones_pack h', heq]
    exact ⟨rfl, rfl⟩
  · rintro ⟨hlength, hsupport⟩
    have hwords : ∀ k, wordAt raw k = wordAt raw' k := by
      refine fun k => eq_of_testBit fun j hj => ?_
      rw [testBit_wordAt raw k hj, testBit_wordAt raw' k hj, hsupport]
    have heq : (pack raw).words = (pack raw').words := by
      rw [words_pack, words_pack, hlength, funext hwords]
    exact congrArg PackedBits.mk heq

end PackedBits

namespace Space

variable {s : Space} {v v' : Encoded}

theorem encode_bits_eq_error_iff {e : Error} :
    bitJaccard.encode raw = .error e ↔ raw.length < 2 ∧ .bitsTooFew raw.length = e := by
  by_cases hfew : raw.length < minBitDimension
  · have hfew' : raw.length < 2 := hfew
    simp [encode, encoding, checkBitDimension, hfew, hfew']
  · have hfew' : ¬ raw.length < 2 := hfew
    simp [encode_bits (Nat.not_lt.mp hfew), hfew']

theorem packable_of_encode (hs : s.encoding = .bits) (h : s.encode raw = .ok v) :
    2 ≤ raw.length := by
  by_contra hfew
  have hfew' : raw.length < minBitDimension := Nat.not_le.mp hfew
  simp [encode, hs, checkBitDimension, hfew'] at h

/-- What is stored of a vector that is not stored as it is takes no more room than the vector. -/
theorem byteCount_le (hs : s.encoding ≠ .dense) (h : s.encode raw = .ok v) :
    v.byteCount ≤ 4 * raw.length := by
  rcases encode_cases h with ⟨hdense, -⟩ | ⟨-, rfl⟩ | ⟨hbits, rfl⟩
  · exact absurd hdense hs
  · have hle := length_nonzeroIndices_le raw
    simp only [Encoded.byteCount, Encoded.unitCount]
    omega
  · have hmany := packable_of_encode hbits h
    simp only [Encoded.byteCount, Encoded.unitCount, PackedBits.length_words_pack, wordCount,
      wordBits]
    omega

/-- Vectors of one length are stored alike if they are zero at the same positions. -/
theorem stored_eq_iff (hshort : raw.length < Nat.pow 2 32) (hshort' : raw'.length < Nat.pow 2 32)
    (hs : s.encoding ≠ .dense) (h : s.encode raw = .ok v) (h' : s.encode raw' = .ok v') :
    v = v' ↔ support raw = support raw' ∧ (s.encoding = .bits → raw.length = raw'.length) := by
  rcases encode_cases h with ⟨hform, -⟩ | ⟨hform, rfl⟩ | ⟨hform, rfl⟩
  · exact absurd hform hs
  · rcases encode_cases h' with ⟨hform', -⟩ | ⟨-, rfl⟩ | ⟨hform', -⟩
    · exact absurd hform' hs
    · simp [hform, nonzeroIndices_eq_iff hshort hshort']
    · cases hform.symm.trans hform'
  · rcases encode_cases h' with ⟨hform', -⟩ | ⟨hform', -⟩ | ⟨-, rfl⟩
    · exact absurd hform' hs
    · cases hform.symm.trans hform'
    · simp [hform, PackedBits.pack_eq_iff hshort hshort', and_comm]

/-- The sparse form of a vector lists the positions at which it is not zero in ascending order. The
packed form needs two components; it has a word for each 32 of them and then one with their number,
its bits are set at the positions at which the vector is not zero, and no others in its words are.
Both are determined by these positions and the length alone and determine the positions, and neither
takes more bytes than the vector. The bytes of any stored vector are four for each of its units, and
they tell it from all others in the same form. -/
theorem encode_keeps_support (hshort : raw.length < Nat.pow 2 32)
    (hshort' : raw'.length < Nat.pow 2 32) :
    (∃ indices, sparseJaccard.encode raw = .ok (.sparse indices) ∧ indices.Pairwise (· < ·) ∧
      ∀ i, (∃ w ∈ indices, w.toNat = i) ↔ i ∈ support raw) ∧
    (∀ e, bitJaccard.encode raw = .error e ↔ raw.length < 2 ∧ .bitsTooFew raw.length = e) ∧
    (2 ≤ raw.length → ∃ b, bitJaccard.encode raw = .ok (.bits b) ∧
      PackedBits.pack? raw = some b ∧
      b.words.length = (raw.length + 31) / 32 + 1 ∧
      (∃ w, b.words.getLast? = some w ∧ w.toNat = raw.length) ∧
      (∀ i, b.bit i = true ↔ i ∈ support raw) ∧
      ∀ k j w, b.dataWords[k]? = some w → j < 32 → raw.length ≤ 32 * k + j →
        w.toNat.testBit j = false) ∧
    (∀ (s : Space) (v : Encoded), s.encoding ≠ .dense → s.encode raw = .ok v →
      v.byteCount ≤ 4 * raw.length ∧
      ∀ v', s.encode raw' = .ok v' → (v = v' → support raw = support raw') ∧
        (raw.length = raw'.length → (v = v' ↔ support raw = support raw'))) ∧
    ∀ v : Encoded, v.bytes.length = v.byteCount ∧
      ∀ v' : Encoded, v.encoding = v'.encoding → v.bytes = v'.bytes → v = v' := by
  refine ⟨?sparse, fun e => encode_bits_eq_error_iff, ?packed, ?stored, ?bytes⟩
  case sparse =>
    refine ⟨nonzeroIndices raw, rfl, nonzeroIndices_sorted hshort.le, fun i => ?_⟩
    rw [← Distance.image_nonzeroIndices hshort.le]
    simp
  case packed =>
    intro hmany
    refine ⟨PackedBits.pack raw, encode_bits hmany, PackedBits.pack?_eq raw,
      PackedBits.length_words_pack raw, ⟨UInt32.ofNat raw.length, ?_, ?_⟩,
      fun i => PackedBits.bit_pack hshort, ?_⟩
    · rw [PackedBits.words_pack, List.getLast?_concat]
    · exact UInt32.toNat_ofNat_of_lt' hshort
    · intro k j w hw hj hpast
      exact PackedBits.testBit_padding hw hj hpast
  case stored =>
    intro s v hs h
    refine ⟨byteCount_le hs h, fun v' h' => ?_⟩
    have hiff := stored_eq_iff hshort hshort' hs h h'
    refine ⟨fun heq => (hiff.mp heq).1, fun hlength => ⟨fun heq => (hiff.mp heq).1, ?_⟩⟩
    exact fun hsupport => hiff.mpr ⟨hsupport, fun _ => hlength⟩
  case bytes =>
    intro v
    exact ⟨v.length_bytes, fun v' hform h => Encoded.eq_of_bytes hform h⟩

/-- Two vectors of 34 components that are not zero at their ends only, one with zeros of both signs
and a NaN. They are packed alike. -/
theorem encode_keeps_support_past_a_word :
    let raw : RawVector := 1 :: List.replicate 32 (-0) ++ [Single.invalid]
    let raw' : RawVector := [-1] ++ List.replicate 32 0 ++ [1]
    raw.length < Nat.pow 2 32 ∧ raw'.length < Nat.pow 2 32 ∧
      ∃ b, bitJaccard.encode raw = .ok (.bits b) ∧ bitJaccard.encode raw' = .ok (.bits b) ∧
        b.words.length = 3 ∧ b.bit 33 = true ∧ b.bit 32 = false ∧
        (Encoded.bits b).byteCount ≤ 136 := by
  intro raw raw'
  have hshort : raw.length < Nat.pow 2 32 := by decide
  have hshort' : raw'.length < Nat.pow 2 32 := by decide
  obtain ⟨-, -, hpacked, hstored, -⟩ := encode_keeps_support hshort hshort'
  obtain ⟨b, hencode, -, hlength, -, hbits, -⟩ := hpacked (by decide)
  obtain ⟨hbytes, halike⟩ := hstored .bitJaccard _ (by decide) hencode
  have hencode' : bitJaccard.encode raw' = .ok (.bits (.pack raw')) := encode_bits (by decide)
  have heq := ((halike _ hencode').2 rfl).mpr (by decide)
  have hclear : b.bit 32 = false := by
    rw [← Bool.not_eq_true, hbits]
    decide
  exact ⟨hshort, hshort', b, hencode, heq ▸ hencode', hlength.trans (by decide),
    (hbits 33).mpr (by decide), hclear, hbytes⟩

end Space

end Vicinity
