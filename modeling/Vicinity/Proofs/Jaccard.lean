import Vicinity.Proofs.Support

/-!
The Jaccard distance in its two spaces. One compares ascending lists of indices by walking through
both at once, the other one counts bits word by word. Both count the positions at which both vectors
are not zero, and those at which one of them is not, so they give the same distance.
-/

namespace Vicinity

namespace Distance

theorem notMem_toFinset_of_lt {a : UInt32} {bs : List UInt32} (h : ∀ b ∈ bs, a < b) :
    a ∉ bs.toFinset := by
  intro hmem
  exact UInt32.lt_irrefl a (h a (List.mem_toFinset.mp hmem))

/-- A walk through two ascending lists meets all indices that they have in common. -/
theorem commonCount_eq_card {as bs : List UInt32} (has : as.Pairwise (· < ·))
    (hbs : bs.Pairwise (· < ·)) : commonCount as bs = (as.toFinset ∩ bs.toFinset).card := by
  fun_induction commonCount as bs with
  | case1 bs => simp
  | case2 as => simp
  | case3 a as b bs hab ih =>
      obtain ⟨hb, -⟩ := List.pairwise_cons.mp hbs
      obtain ⟨-, hrest⟩ := List.pairwise_cons.mp has
      have hall : ∀ c ∈ b :: bs, a < c := by
        intro c hc
        rcases List.mem_cons.mp hc with rfl | hc
        · exact hab
        · exact UInt32.lt_trans hab (hb c hc)
      rw [ih hrest hbs, List.toFinset_cons (l := as),
        Finset.insert_inter_of_notMem (notMem_toFinset_of_lt hall)]
  | case4 a as b bs _ hba ih =>
      obtain ⟨ha, -⟩ := List.pairwise_cons.mp has
      obtain ⟨-, hrest⟩ := List.pairwise_cons.mp hbs
      have hall : ∀ c ∈ a :: as, b < c := by
        intro c hc
        rcases List.mem_cons.mp hc with rfl | hc
        · exact hba
        · exact UInt32.lt_trans hba (ha c hc)
      rw [ih has hrest, List.toFinset_cons (l := bs),
        Finset.inter_insert_of_notMem (notMem_toFinset_of_lt hall)]
  | case5 a as b bs hab hba ih =>
      obtain ⟨ha, hrestA⟩ := List.pairwise_cons.mp has
      obtain ⟨-, hrestB⟩ := List.pairwise_cons.mp hbs
      obtain rfl : a = b := UInt32.le_antisymm (UInt32.not_lt.mp hba) (UInt32.not_lt.mp hab)
      rw [ih hrestA hrestB, List.toFinset_cons, List.toFinset_cons,
        ← Finset.insert_inter_distrib, Finset.card_insert_of_notMem]
      exact fun hmem => notMem_toFinset_of_lt ha (Finset.mem_inter.mp hmem).1

variable {a b : RawVector}

/-- The indices of a vector are the numbers of the positions at which it is not zero. -/
theorem image_nonzeroIndices (h : a.length ≤ Nat.pow 2 32) :
    (nonzeroIndices a).toFinset.image UInt32.toNat = support a := by
  have hpow : Nat.pow 2 32 = 2 ^ 32 := rfl
  ext i
  simp only [Finset.mem_image, List.mem_toFinset, mem_nonzeroIndices h]
  constructor
  · rintro ⟨w, hw, rfl⟩
    exact hw
  · intro hi
    have hlt := lt_of_mem_support hi
    have hword : (UInt32.ofNat i).toNat = i := by
      rw [UInt32.toNat_ofNat', Nat.mod_eq_of_lt (by omega)]
    exact ⟨UInt32.ofNat i, hword.symm ▸ hi, hword⟩

theorem toNat_injective : Function.Injective UInt32.toNat := fun _ _ => UInt32.toNat_inj.mp

theorem length_nonzeroIndices (h : a.length ≤ Nat.pow 2 32) :
    (nonzeroIndices a).length = (support a).card := by
  have hdistinct : (nonzeroIndices a).Pairwise (· ≠ ·) :=
    (nonzeroIndices_sorted h).imp fun hlt => UInt32.ne_of_lt hlt
  rw [← image_nonzeroIndices h, Finset.card_image_of_injective _ toNat_injective,
    List.toFinset_card_of_nodup hdistinct]

/-- The indices common to two vectors. -/
theorem commonCount_nonzeroIndices (ha : a.length ≤ Nat.pow 2 32) (hb : b.length ≤ Nat.pow 2 32) :
    commonCount (nonzeroIndices a) (nonzeroIndices b) = (support a ∩ support b).card := by
  rw [commonCount_eq_card (nonzeroIndices_sorted ha) (nonzeroIndices_sorted hb),
    ← image_nonzeroIndices ha, ← image_nonzeroIndices hb,
    ← Finset.image_inter _ _ toNat_injective, Finset.card_image_of_injective _ toNat_injective]

end Distance

/-- For vectors that both spaces can number, the two Jaccard spaces find the same distance, and the
counts behind it are in both those of the positions at which both vectors are not zero and at which
one of them is not. -/
theorem Space.jaccard_spaces_agree {a b : RawVector} (ha : 2 ≤ a.length) (hb : 2 ≤ b.length)
    (hshortA : a.length < Nat.pow 2 32) (hshortB : b.length < Nat.pow 2 32) :
    ∃ as bs packedA packedB,
      Space.sparseJaccard.encode a = .ok (.sparse as) ∧
      Space.sparseJaccard.encode b = .ok (.sparse bs) ∧
      Space.bitJaccard.encode a = .ok (.bits packedA) ∧
      Space.bitJaccard.encode b = .ok (.bits packedB) ∧
      Distance.commonCount as bs = (support a ∩ support b).card ∧
      as.length + bs.length - Distance.commonCount as bs = (support a ∪ support b).card ∧
      Distance.combinedCount (· &&& ·) packedA packedB = (support a ∩ support b).card ∧
      Distance.combinedCount (· ||| ·) packedA packedB = (support a ∪ support b).card ∧
      Space.bitJaccard.distance (.bits packedA) (.bits packedB) =
        Space.sparseJaccard.distance (.sparse as) (.sparse bs) ∧
      Space.sparseJaccard.distance (.sparse as) (.sparse bs) =
        Distance.jaccard (support a ∩ support b).card (support a ∪ support b).card := by
  have hcommon := Distance.commonCount_nonzeroIndices hshortA.le hshortB.le
  have hunion : (nonzeroIndices a).length + (nonzeroIndices b).length -
      Distance.commonCount (nonzeroIndices a) (nonzeroIndices b) =
        (support a ∪ support b).card := by
    rw [hcommon, Distance.length_nonzeroIndices hshortA.le,
      Distance.length_nonzeroIndices hshortB.le, Finset.card_union]
  have hboth := Distance.combinedCount_and (PackedBits.pack a) (PackedBits.pack b)
  have heither := Distance.combinedCount_or (PackedBits.pack a) (PackedBits.pack b)
  rw [PackedBits.ones_pack hshortA, PackedBits.ones_pack hshortB] at hboth heither
  have hsparse : Space.sparseJaccard.distance (.sparse (nonzeroIndices a))
      (.sparse (nonzeroIndices b)) =
        Distance.jaccard (support a ∩ support b).card (support a ∪ support b).card := by
    rw [distance, Distance.sparseJaccard, hunion, hcommon]
  have hpacked : Space.bitJaccard.distance (.bits (.pack a)) (.bits (.pack b)) =
      Distance.jaccard (support a ∩ support b).card (support a ∪ support b).card := by
    rw [distance, Distance.bitJaccard, hboth, heither]
  exact ⟨nonzeroIndices a, nonzeroIndices b, .pack a, .pack b, rfl, rfl, encode_bits ha,
    encode_bits hb, hcommon, hunion, hboth, heither, hpacked.trans hsparse.symm, hsparse⟩

/-- A vector that goes on behind its first word, where it ends with a NaN, and a shorter one. -/
theorem Space.jaccard_spaces_agree_past_a_word :
    ∃ as bs packedA packedB,
      Space.sparseJaccard.encode (1 :: List.replicate 32 (-0) ++ [Single.invalid]) =
        .ok (.sparse as) ∧
      Space.sparseJaccard.encode [1, 1] = .ok (.sparse bs) ∧
      Space.bitJaccard.encode (1 :: List.replicate 32 (-0) ++ [Single.invalid]) =
        .ok (.bits packedA) ∧
      Space.bitJaccard.encode [1, 1] = .ok (.bits packedB) ∧
      Space.bitJaccard.distance (.bits packedA) (.bits packedB) =
        Space.sparseJaccard.distance (.sparse as) (.sparse bs) ∧
      Space.sparseJaccard.distance (.sparse as) (.sparse bs) = Distance.jaccard 1 3 := by
  obtain ⟨as, bs, packedA, packedB, hsa, hsb, hpa, hpb, -, -, -, -, hagree, hshare⟩ :=
    Space.jaccard_spaces_agree (a := 1 :: List.replicate 32 (-0) ++ [Single.invalid])
      (b := [1, 1]) (by decide) (by decide) (by decide) (by decide)
  exact ⟨as, bs, packedA, packedB, hsa, hsb, hpa, hpb, hagree, hshare.trans (by decide)⟩

end Vicinity
