import Vicinity.Distance
import Mathlib.Data.Finset.Card
import Mathlib.Data.Nat.Count

/-!
Packed bits as sets of positions. A word holds the bits of 32 positions, and the bits past the
dimension are masked away, so the words of two bit vectors combined have as many bits set as there
are positions in the intersection or in the union, whatever the words and the dimensions are.
-/

namespace Vicinity

section Words

theorem popCount_eq_count (w : UInt32) :
    popCount w = Nat.count (fun j => w.toNat.testBit j = true) wordBits := by
  simp [popCount, Nat.count]

theorem toNat_one_shiftLeft {live : Nat} (hlive : live < wordBits) :
    ((1 : UInt32) <<< UInt32.ofNat live).toNat = 2 ^ live := by
  have hsmall : live < 32 := hlive
  have hpow : 2 ^ live < 2 ^ 32 := Nat.pow_lt_pow_right (by omega) hsmall
  have hword : live % 2 ^ 32 % 32 = live := by omega
  rw [UInt32.toNat_shiftLeft, UInt32.toNat_ofNat', hword, UInt32.toNat_one, Nat.shiftLeft_eq,
    Nat.one_mul, Nat.mod_eq_of_lt hpow]

theorem one_le_shiftLeft {live : Nat} (hlive : live < wordBits) :
    (1 : UInt32) ≤ (1 : UInt32) <<< UInt32.ofNat live := by
  rw [UInt32.le_iff_toNat_le, toNat_one_shiftLeft hlive]
  exact Nat.one_le_two_pow

/-- A word cut off behind its first bits. -/
theorem toNat_mask (w : UInt32) {live : Nat} (hlive : live < wordBits) :
    (w &&& (((1 : UInt32) <<< UInt32.ofNat live) - 1)).toNat = w.toNat &&& (2 ^ live - 1) := by
  rw [UInt32.toNat_and, UInt32.toNat_sub_of_le _ _ (one_le_shiftLeft hlive),
    toNat_one_shiftLeft hlive]
  rfl

/-- The lowest bit of a shifted word. -/
theorem lowest_shiftRight (w : UInt32) {j : Nat} (hj : j < wordBits) :
    ((w >>> UInt32.ofNat j) &&& 1 == 1) = w.toNat.testBit j := by
  have hsmall : j % 2 ^ 32 % 32 = j := by
    unfold wordBits at hj
    omega
  rw [Bool.eq_iff_iff, beq_iff_eq, ← UInt32.toNat_inj, UInt32.toNat_and, UInt32.toNat_shiftRight,
    UInt32.toNat_ofNat', hsmall, UInt32.toNat_one, Nat.and_one_is_mod, Nat.shiftRight_eq_div_pow,
    Nat.testBit_eq_decide_div_mod_eq, decide_eq_true_iff]

/-- The number of positions that have a property, counted word by word. -/
theorem count_mul (p : Nat → Prop) [DecidablePred p] (width n : Nat) :
    Nat.count p (n * width) =
      ((List.range n).map fun i =>
        Nat.count (fun j => p (i * width + j)) width).foldl (· + ·) 0 := by
  induction n with
  | zero => simp
  | succ n ih => simp [Nat.succ_mul, Nat.count_add, List.range_succ, ih]

end Words

namespace PackedBits

/-- What masking leaves of a word: the bits before the dimension. -/
theorem testBit_masked (b : PackedBits) (i : Nat) {j : Nat} (hj : j < wordBits) :
    (b.maskedWord i).toNat.testBit j =
      (decide (i * wordBits + j < b.dimension) &&
        (b.dataWords[i]?.getD 0).toNat.testBit j) := by
  unfold maskedWord
  by_cases hstart : b.dimension ≤ i * wordBits
  · have hpast : ¬ i * wordBits + j < b.dimension := by omega
    simp [hstart, hpast]
  by_cases hlive : wordBits ≤ b.dimension - i * wordBits
  · have hbefore : i * wordBits + j < b.dimension := by omega
    simp [hstart, hlive, hbefore]
  · have hbefore : j < b.dimension - i * wordBits ↔ i * wordBits + j < b.dimension := by omega
    simp only [hstart, hlive, if_false, toNat_mask _ (Nat.not_le.mp hlive), Nat.testBit_and,
      Nat.testBit_two_pow_sub_one, hbefore]
    exact Bool.and_comm _ _

/-- A bit is set if it stands before the dimension and in a word that is there and has it set. -/
theorem bit_eq (b : PackedBits) (i : Nat) :
    b.bit i = (decide (i < b.dimension) &&
      (b.dataWords[i / wordBits]?.getD 0).toNat.testBit (i % wordBits)) := by
  have hplace : i % wordBits < wordBits := Nat.mod_lt _ (by decide)
  have hsplit : i / wordBits * wordBits + i % wordBits = i := Nat.div_add_mod' i wordBits
  rw [bit, lowest_shiftRight _ hplace, testBit_masked b _ hplace, hsplit, ← Bool.and_assoc,
    Bool.and_self]

/-- The bits of a masked word are those of the vector at its positions. -/
theorem testBit_maskedWord (b : PackedBits) (i : Nat) {j : Nat} (hj : j < wordBits) :
    (b.maskedWord i).toNat.testBit j = b.bit (i * wordBits + j) := by
  have hword : (i * wordBits + j) / wordBits = i := by
    unfold wordBits at *
    omega
  have hplace : (i * wordBits + j) % wordBits = j := by
    unfold wordBits at *
    omega
  rw [testBit_masked b i hj, bit_eq, hword, hplace]

/-- The positions whose bits are set. -/
def ones (b : PackedBits) : Finset Nat := (Finset.range b.dimension).filter fun i => b.bit i = true

variable {a b : PackedBits} {i : Nat}

theorem lt_dimension_of_bit (h : b.bit i = true) : i < b.dimension := by
  rw [bit_eq] at h
  exact of_decide_eq_true (Bool.and_eq_true_iff.mp h).1

@[simp] theorem mem_ones : i ∈ b.ones ↔ b.bit i = true := by
  rw [ones, Finset.mem_filter, Finset.mem_range]
  exact and_iff_right_of_imp lt_dimension_of_bit

/-- A bit that is set stands in one of the words. -/
theorem lt_of_bit (h : b.bit i = true) : i < b.dataWords.length * wordBits := by
  by_contra hpast
  have hmissing : b.dataWords.length ≤ i / wordBits := by
    unfold wordBits at *
    omega
  simp [bit_eq, List.getElem?_eq_none hmissing] at h

theorem dimension_lt (b : PackedBits) : b.dimension < UInt32.size := by
  unfold dimension
  split
  · exact UInt32.toNat_lt _
  · decide

theorem ones_subset (b : PackedBits) : b.ones ⊆ Finset.range b.dimension :=
  Finset.filter_subset _ _

/-- Bit vectors of one dimension with the same bits before it, whatever the words hold behind it. -/
structure SameBefore (b b' : PackedBits) : Prop where
  dimension : b'.dimension = b.dimension
  bits : ∀ i < b.dimension, (b'.dataWords[i / wordBits]?.getD 0).toNat.testBit (i % wordBits) =
    (b.dataWords[i / wordBits]?.getD 0).toNat.testBit (i % wordBits)

namespace SameBefore

variable {b b' : PackedBits}

theorem bit_eq (h : b.SameBefore b') (i : Nat) : b'.bit i = b.bit i := by
  rw [PackedBits.bit_eq, PackedBits.bit_eq, h.dimension]
  by_cases hi : i < b.dimension
  · rw [h.bits i hi]
  · simp [hi]

theorem ones_eq (h : b.SameBefore b') : b'.ones = b.ones := by
  ext i
  rw [mem_ones, mem_ones, h.bit_eq i]

end SameBefore

end PackedBits

namespace Distance

/-- Where words are combined bit by bit, the bits set in all of them are the positions at which the
bits of the two vectors combine to a set one. -/
theorem combinedCount_eq_card {combine : UInt32 → UInt32 → UInt32} (both : Bool → Bool → Bool)
    (hcombine : ∀ x y j,
      (combine x y).toNat.testBit j = both (x.toNat.testBit j) (y.toNat.testBit j))
    (hclear : both false false = false) (a b : PackedBits) :
    combinedCount combine a b =
      ((a.ones ∪ b.ones).filter fun i => both (a.bit i) (b.bit i) = true).card := by
  let words := max a.dataWords.length b.dataWords.length
  have hword : ∀ i, popCount (combine (a.maskedWord i) (b.maskedWord i)) =
      Nat.count (fun j => both (a.bit (i * wordBits + j)) (b.bit (i * wordBits + j)) = true)
        wordBits := by
    intro i
    rw [popCount_eq_count]
    refine List.countP_congr fun j hj => ?_
    have hplace : j < wordBits := List.mem_range.mp hj
    simp only [hcombine, PackedBits.testBit_maskedWord _ _ hplace]
  have hall : ∀ i, both (a.bit i) (b.bit i) = true → i ∈ a.ones ∪ b.ones := by
    intro i hi
    rw [Finset.mem_union, PackedBits.mem_ones, PackedBits.mem_ones]
    by_contra hnone
    simp only [not_or, Bool.not_eq_true] at hnone
    simp [hnone.1, hnone.2, hclear] at hi
  have hplaces : ∀ i ∈ a.ones ∪ b.ones, i < words * wordBits := by
    intro i hi
    rcases Finset.mem_union.mp hi with hi | hi
    · exact (PackedBits.lt_of_bit (PackedBits.mem_ones.mp hi)).trans_le
        (Nat.mul_le_mul_right _ (Nat.le_max_left _ _))
    · exact (PackedBits.lt_of_bit (PackedBits.mem_ones.mp hi)).trans_le
        (Nat.mul_le_mul_right _ (Nat.le_max_right _ _))
  calc combinedCount combine a b
      = Nat.count (fun i => both (a.bit i) (b.bit i) = true) (words * wordBits) := by
        rw [count_mul, combinedCount]
        simp only [hword, words]
    _ = ((Finset.range (words * wordBits)).filter fun i => both (a.bit i) (b.bit i) = true).card :=
        Nat.count_eq_card_filter_range _ _
    _ = ((a.ones ∪ b.ones).filter fun i => both (a.bit i) (b.bit i) = true).card := by
        congr 1
        ext i
        rw [Finset.mem_filter, Finset.mem_filter, Finset.mem_range]
        exact and_congr_left fun hi => ⟨fun _ => hall i hi, hplaces i⟩

/-- The words of two bit vectors have as many bits in common as there are positions set in both. -/
theorem combinedCount_and (a b : PackedBits) :
    combinedCount (· &&& ·) a b = (a.ones ∩ b.ones).card := by
  rw [combinedCount_eq_card (· && ·) (fun x y j => by simp) rfl]
  congr 1
  ext i
  simp only [Finset.mem_filter, Finset.mem_union, Finset.mem_inter, PackedBits.mem_ones,
    Bool.and_eq_true]
  tauto

/-- One of two bit vectors has a bit set at as many positions as there are in the union. -/
theorem combinedCount_or (a b : PackedBits) :
    combinedCount (· ||| ·) a b = (a.ones ∪ b.ones).card := by
  rw [combinedCount_eq_card (· || ·) (fun x y j => by simp) rfl]
  congr 1
  ext i
  simp only [Finset.mem_filter, Finset.mem_union, PackedBits.mem_ones, Bool.or_eq_true]
  tauto

/-- Two bit vectors are compared by the positions at which their bits are set. -/
theorem bitJaccard_eq (a b : PackedBits) :
    bitJaccard a b = jaccard (a.ones ∩ b.ones).card (a.ones ∪ b.ones).card := by
  rw [bitJaccard, combinedCount_and, combinedCount_or]

end Distance

namespace PackedBits

/-- The words of a bit vector have as many bits set before the dimension as there are positions
set. -/
theorem countOnes_eq_card (b : PackedBits) : b.countOnes = b.ones.card := by
  have hcount := Distance.combinedCount_and b b
  rw [Finset.inter_self] at hcount
  rw [← hcount, countOnes, Distance.combinedCount, Nat.max_self]
  simp only [UInt32.and_self]

end PackedBits

end Vicinity
