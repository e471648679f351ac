import Vicinity.Proofs.Encoded
import Vicinity.Proofs.PackedBits

/-!
The positions at which a vector is not zero. The sparse form of a vector lists them in ascending
order and the packed form has their bits set, so both keep of the vector just this set, as long as
its positions can be numbered by words of 32 bits.
-/

namespace Vicinity

/-- There are two zeros, and nothing else is one. -/
theorem Single.isZero_iff (x : Single) : x.isZero = true ↔ x = 0 ∨ x = -0 := by
  have hbits : ∀ y : Single, x = y ↔ x.bits.toNat = y.bits.toNat := by
    intro y
    rw [UInt32.toNat_inj]
    exact ⟨fun h => h ▸ rfl, fun h => by cases x; cases y; cases h; rfl⟩
  have hlt := x.bits.toNat_lt
  have hplus : (0 : Single).bits.toNat = 0 := rfl
  have hminus : (-0 : Single).bits.toNat = 0x80000000 := by decide
  rw [hbits, hbits, hplus, hminus, isZero, beq_iff_eq]
  omega

/-- The positions of the components that are neither of the two zeros; a NaN is none of them. -/
def support (raw : RawVector) : Finset Nat :=
  (Finset.range raw.length).filter fun i => raw[i]?.any fun x => decide (x ≠ 0 ∧ x ≠ -0)

variable {raw : RawVector} {i : Nat}

theorem mem_support : i ∈ support raw ↔ ∃ x, raw[i]? = some x ∧ x.isZero = false := by
  have hzero : ∀ x : Single, x.isZero = false ↔ decide (x ≠ 0 ∧ x ≠ -0) = true := by
    intro x
    rw [← Bool.not_eq_true, Single.isZero_iff, not_or, decide_eq_true_iff]
  simp only [support, Finset.mem_filter, Finset.mem_range, Option.any_eq_true, hzero]
  refine and_iff_right_of_imp ?_
  rintro ⟨x, hx, -⟩
  exact (List.getElem?_eq_some_iff.mp hx).1

theorem lt_of_mem_support (h : i ∈ support raw) : i < raw.length := by
  obtain ⟨x, hx, -⟩ := mem_support.mp h
  exact (List.getElem?_eq_some_iff.mp hx).1

section Sparse

/-- The indices of a vector are numbers of words if it is short enough. -/
theorem mem_nonzeroIndices (h : raw.length ≤ Nat.pow 2 32) {w : UInt32} :
    w ∈ nonzeroIndices raw ↔ w.toNat ∈ support raw := by
  have hpow : Nat.pow 2 32 = 2 ^ 32 := rfl
  rw [mem_support]
  simp only [nonzeroIndices, List.mem_map, List.mem_filter, Prod.exists,
    List.mk_mem_zipIdx_iff_getElem?, Bool.not_eq_true']
  constructor
  · rintro ⟨x, i, ⟨hx, hnonzero⟩, rfl⟩
    have hi := (List.getElem?_eq_some_iff.mp hx).1
    rw [UInt32.toNat_ofNat', Nat.mod_eq_of_lt (by omega)]
    exact ⟨x, hx, hnonzero⟩
  · rintro ⟨x, hx, hnonzero⟩
    exact ⟨x, w.toNat, ⟨hx, hnonzero⟩, UInt32.ofNat_toNat⟩

/-- The indices of a vector ascend. -/
theorem nonzeroIndices_sorted (h : raw.length ≤ Nat.pow 2 32) :
    (nonzeroIndices raw).Pairwise (· < ·) := by
  have hpow : Nat.pow 2 32 = 2 ^ 32 := rfl
  have hplaces : raw.zipIdx.Pairwise fun c d => c.2 < d.2 := by
    rw [← List.pairwise_map (f := Prod.snd), List.zipIdx_map_snd]
    exact List.pairwise_lt_range'
  refine List.pairwise_map.mpr (List.Pairwise.imp_of_mem ?_ (hplaces.filter _))
  rintro ⟨x, i⟩ ⟨y, j⟩ hc hd hij
  have hj := (List.getElem?_eq_some_iff.mp
    (List.mk_mem_zipIdx_iff_getElem?.mp (List.mem_filter.mp hd).1)).1
  rw [UInt32.lt_iff_toNat_lt, UInt32.toNat_ofNat', UInt32.toNat_ofNat',
    Nat.mod_eq_of_lt (by omega), Nat.mod_eq_of_lt (by omega)]
  exact hij

end Sparse

section Packed

theorem testBit_bitsValue (bs : List Bool) (j : Nat) :
    (bitsValue bs).testBit j = bs[j]?.getD false := by
  induction bs generalizing j with
  | nil => simp [bitsValue]
  | cons b bs ih =>
      have hb : b.toNat ≤ 1 := Bool.toNat_le b
      cases j with
      | zero => cases b <;> simp [bitsValue, Nat.testBit_zero, Nat.add_mod]
      | succ j =>
          have hrest : (b.toNat + 2 * bitsValue bs) / 2 = bitsValue bs := by omega
          rw [bitsValue, Nat.testBit_succ, hrest, ih, List.getElem?_cons_succ]

theorem bitsValue_lt (bs : List Bool) : bitsValue bs < 2 ^ bs.length := by
  induction bs with
  | nil => simp [bitsValue]
  | cons b bs ih =>
      have hb : b.toNat ≤ 1 := Bool.toNat_le b
      rw [bitsValue, List.length_cons, Nat.pow_succ]
      omega

/-- Bits that fit in a word are those of the word. -/
theorem testBit_ofNat_bitsValue {bs : List Bool} (h : bs.length ≤ wordBits) (j : Nat) :
    (UInt32.ofNat (bitsValue bs)).toNat.testBit j = bs[j]?.getD false := by
  have hlt : bitsValue bs < 2 ^ 32 :=
    (bitsValue_lt bs).trans_le (Nat.pow_le_pow_right (by omega) h)
  rw [UInt32.toNat_ofNat', Nat.mod_eq_of_lt hlt, testBit_bitsValue]

/-- The bits of a packed vector are set where the vector is not zero. -/
theorem PackedBits.bit_pack (h : raw.length < Nat.pow 2 32) :
    (PackedBits.pack raw).bit i = true ↔ i ∈ support raw := by
  have hplace : i % wordBits < wordBits := Nat.mod_lt _ (by decide)
  have hsplit : wordBits * (i / wordBits) + i % wordBits = i := Nat.div_add_mod i wordBits
  rw [bit_eq, dimension_pack h, mem_support]
  by_cases hi : i < raw.length
  · have hword : i / wordBits < wordCount raw.length := by
      unfold wordCount wordBits
      omega
    simp only [pack, dataWords, List.dropLast_concat, List.getElem?_map,
      List.getElem?_range hword, Option.map_some, Option.getD_some]
    rw [testBit_ofNat_bitsValue (by simp)]
    simp [hi, hplace, List.getElem?_take_of_lt, List.getElem?_drop, hsplit]
  · simp [hi]

/-- Packing keeps the positions at which a vector is not zero. -/
theorem PackedBits.ones_pack (h : raw.length < Nat.pow 2 32) :
    (PackedBits.pack raw).ones = support raw := by
  ext i
  rw [mem_ones, bit_pack h]

end Packed

end Vicinity
