import Vicinity.Proofs.CheckedBits
import Vicinity.Proofs.Support

/-!
Packing a vector bit by bit. The words start as zeros; each component that is not zero sets its bit
in the word that holds it, and the last word takes the dimension. Done with checked operations this
never stops, and it comes to the words that are put together from 32 components each.
-/

namespace Vicinity.PackedBits

/-- Sets the bit of a position in the word that holds it. -/
def setBit? (words : List UInt32) (i : Nat) : Option (List UInt32) := do
  let word ← words[i / wordBits]?
  let mask ← Checked.shiftLeft 1 (i % wordBits)
  return words.set (i / wordBits) (word ||| mask)

/-- Sets the bits of the components that are not zero, from the first component on. -/
def setBits? (words : List UInt32) (raw : RawVector) : Option (List UInt32) :=
  raw.zipIdx.foldlM (fun words c => if c.1.isZero then some words else setBit? words c.2) words

def pack? (raw : RawVector) : Option PackedBits := do
  let words ← setBits? (List.replicate (wordCount raw.length + 1) 0) raw
  return ⟨words.set (wordCount raw.length) (UInt32.ofNat raw.length)⟩

/-- The word that holds the bits of the components from `wordBits * k` on. -/
def wordAt (raw : RawVector) (k : Nat) : UInt32 :=
  UInt32.ofNat (bitsValue (((raw.drop (wordBits * k)).take wordBits).map fun x => !x.isZero))

theorem words_pack (raw : RawVector) :
    (pack raw).words =
      (List.range (wordCount raw.length)).map (wordAt raw) ++ [UInt32.ofNat raw.length] :=
  rfl

theorem testBit_wordAt (raw : RawVector) (k : Nat) {j : Nat} (hj : j < wordBits) :
    (wordAt raw k).toNat.testBit j = decide (wordBits * k + j ∈ support raw) := by
  rw [wordAt, testBit_ofNat_bitsValue (by simp), Bool.eq_iff_iff, decide_eq_true_iff, mem_support]
  simp only [List.getElem?_map, List.getElem?_take_of_lt hj, List.getElem?_drop]
  cases raw[wordBits * k + j]? <;> simp

/-- Words are equal if their bits are. -/
theorem eq_of_testBit {v w : UInt32} (h : ∀ j < wordBits, v.toNat.testBit j = w.toNat.testBit j) :
    v = w := by
  rw [← UInt32.toNat_inj]
  refine Nat.eq_of_testBit_eq fun j => ?_
  by_cases hj : j < wordBits
  · exact h j hj
  · have hsize : (2 : Nat) ^ 32 ≤ 2 ^ j := Nat.pow_le_pow_right (by decide) (Nat.not_lt.mp hj)
    rw [Nat.testBit_lt_two_pow (v.toNat_lt.trans_le hsize),
      Nat.testBit_lt_two_pow (w.toNat_lt.trans_le hsize)]

/-- Past the last component there are no bits. -/
theorem wordAt_nil (k : Nat) : wordAt [] k = 0 := by
  simp [wordAt, bitsValue]

section Snoc

variable (front : RawVector) (x : Single)

theorem mem_support_snoc (i : Nat) :
    i ∈ support (front ++ [x]) ↔
      i ∈ support front ∨ (i = front.length ∧ x.isZero = false) := by
  simp only [mem_support]
  rcases Nat.lt_trichotomy i front.length with hlt | rfl | hgt
  · simp [List.getElem?_append_left hlt, hlt.ne]
  · simp
  · have hnone : (front ++ [x])[i]? = none := by
      rw [List.getElem?_eq_none_iff, List.length_append, List.length_singleton]
      exact hgt
    simp [hnone, hgt.ne', hgt.le]

/-- A component that is zero changes no word. -/
theorem wordAt_snoc_zero (hx : x.isZero = true) (k : Nat) :
    wordAt (front ++ [x]) k = wordAt front k := by
  refine eq_of_testBit fun j hj => ?_
  rw [testBit_wordAt _ k hj, testBit_wordAt _ k hj]
  simp [mem_support_snoc, hx]

/-- A component that is not zero sets its bit in the word that holds it, and changes no other. -/
theorem wordAt_snoc_nonzero (hx : x.isZero = false) (k : Nat) :
    wordAt (front ++ [x]) k =
      if front.length / wordBits = k then
        wordAt front k ||| ((1 : UInt32) <<< UInt32.ofNat (front.length % wordBits))
      else wordAt front k := by
  have hplace : front.length % wordBits < wordBits := Nat.mod_lt _ (by decide)
  refine eq_of_testBit fun j hj => ?_
  have hhere : wordBits * k + j = front.length ↔
      front.length / wordBits = k ∧ front.length % wordBits = j := by
    unfold wordBits at *
    omega
  split
  · rename_i hk
    rw [UInt32.toNat_or, Nat.testBit_or, toNat_one_shiftLeft hplace, Nat.testBit_two_pow,
      testBit_wordAt _ k hj, testBit_wordAt _ k hj]
    simp [mem_support_snoc, hx, hhere, hk]
  · rename_i hk
    rw [testBit_wordAt _ k hj, testBit_wordAt _ k hj]
    simp [mem_support_snoc, hx, hhere, hk]

end Snoc

/-- After the components of a vector the words hold their bits. -/
theorem setBits?_eq {count : Nat} (raw : RawVector) (h : raw.length ≤ wordBits * count) :
    setBits? (List.replicate count 0) raw = some ((List.range count).map (wordAt raw)) := by
  -- The loop goes on from what it has done so far, so the induction adds components at the end.
  induction raw using List.reverseRecOn with
  | nil =>
      have hzero : wordAt [] = fun _ => 0 := funext wordAt_nil
      simp [setBits?, hzero]
  | append_singleton front x ih =>
      rw [List.length_append, List.length_singleton] at h
      have hword : front.length / wordBits < count := by
        unfold wordBits at *
        omega
      have hplace : front.length % wordBits < wordBits := Nat.mod_lt _ (by decide)
      have hfront := ih (by omega)
      rw [setBits?] at hfront
      rw [setBits?, List.zipIdx_append, List.foldlM_append, hfront]
      simp only [Option.bind_eq_bind, Option.bind_some, Nat.zero_add, List.zipIdx_singleton,
        List.foldlM_cons, List.foldlM_nil]
      cases hx : x.isZero with
      | true => simp [wordAt_snoc_zero front x hx]
      | false =>
          have hmask : Checked.shiftLeft 1 (front.length % wordBits) =
              some ((1 : UInt32) <<< UInt32.ofNat (front.length % wordBits)) := by
            rw [Checked.shiftLeft, if_pos hplace]
          have hold : ((List.range count).map (wordAt front))[front.length / wordBits]? =
              some (wordAt front (front.length / wordBits)) := by
            rw [List.getElem?_map, List.getElem?_range hword, Option.map_some]
          simp only [setBit?, hold, hmask, Option.bind_eq_bind, Option.bind_some, if_false,
            Bool.false_eq_true, Option.pure_def, Option.some.injEq]
          refine List.ext_getElem (by simp) fun k hk hk' => ?_
          rw [List.getElem_set]
          simp only [List.getElem_map, List.getElem_range, wordAt_snoc_nonzero front x hx]
          split
          · rename_i hhere
            rw [hhere]
          · rfl

/-- Setting the bits one after the other gives the packed vector, and no index or shift amount on
the way is out of range. -/
theorem pack?_eq (raw : RawVector) : pack? raw = some (pack raw) := by
  have henough : raw.length ≤ wordBits * (wordCount raw.length + 1) := by
    unfold wordCount wordBits
    omega
  rw [pack?, setBits?_eq raw henough, Option.bind_eq_bind, Option.bind_some, List.range_succ,
    List.map_append, List.set_append_right _ _ (by simp), List.length_map, List.length_range,
    Nat.sub_self]
  rfl

end Vicinity.PackedBits
