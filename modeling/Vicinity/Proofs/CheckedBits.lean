import Vicinity.Proofs.PackedBits

/-!
Packed bits on a machine that checks every operation: it stops where a shift amount is not below the
width of a word, where a slice ends past a list, where a difference would be negative and where a
sum does not fit in a word. Whatever words a bit vector holds, the machine never stops, and it comes
to the same results. What counts of the words are the bits before the dimension.
-/

namespace Vicinity

/-! Checked operations -/

namespace Checked

def shiftLeft (w : UInt32) (amount : Nat) : Option UInt32 :=
  if amount < wordBits then some (w <<< UInt32.ofNat amount) else none

def shiftRight (w : UInt32) (amount : Nat) : Option UInt32 :=
  if amount < wordBits then some (w >>> UInt32.ofNat amount) else none

def subWord (a b : UInt32) : Option UInt32 := if b ≤ a then some (a - b) else none

def subSize (a b : Nat) : Option Nat := if b ≤ a then some (a - b) else none

def addWord (a b : UInt32) : Option UInt32 :=
  if a.toNat + b.toNat < UInt32.size then some (a + b) else none

/-- The front of a list, up to an end that must not be past it. -/
def slice (l : List UInt32) (stop : Nat) : Option (List UInt32) :=
  if stop ≤ l.length then some (l.take stop) else none

/-- The number of bits set in a word, as a word. -/
def bitCount (w : UInt32) : UInt32 := UInt32.ofNat (popCount w)

end Checked

/-! Checked bit vectors -/

namespace PackedBits

def dataWords? (b : PackedBits) : Option (List UInt32) :=
  Checked.slice b.words (b.words.length - 1)

def maskedWord? (b : PackedBits) (index : Nat) : Option UInt32 := do
  let words ← b.dataWords?
  let word := words[index]?.getD 0
  let start := index * wordBits
  if b.dimension ≤ start then return 0
  else
    let live ← Checked.subSize b.dimension start
    if wordBits ≤ live then return word
    else
      let beyond ← Checked.shiftLeft 1 live
      let mask ← Checked.subWord beyond 1
      return word &&& mask

def bit? (b : PackedBits) (index : Nat) : Option Bool :=
  if index < b.dimension then do
    let word ← b.maskedWord? (index / wordBits)
    let shifted ← Checked.shiftRight word (index % wordBits)
    return (shifted &&& 1) == 1
  else some false

def countOnes? (b : PackedBits) : Option UInt32 := do
  let words ← b.dataWords?
  (List.range words.length).foldlM (fun sum i => do
    let word ← b.maskedWord? i
    Checked.addWord sum (Checked.bitCount word)) 0

end PackedBits

namespace Distance

/-- The bits that two vectors have in common and those that one of them has, counted in one walk. -/
def counts? (a b : PackedBits) : Option (UInt32 × UInt32) := do
  let left ← a.dataWords?
  let right ← b.dataWords?
  (List.range (max left.length right.length)).foldlM (fun sums i => do
    let x ← a.maskedWord? i
    let y ← b.maskedWord? i
    let common ← Checked.addWord sums.1 (Checked.bitCount (x &&& y))
    let union ← Checked.addWord sums.2 (Checked.bitCount (x ||| y))
    return (common, union)) (0, 0)

def bitJaccard? (a b : PackedBits) : Option Single := do
  let sums ← counts? a b
  return jaccard sums.1.toNat sums.2.toNat

end Distance

/-! Sums that fit -/

namespace Checked

/-- What the first words of a sequence sum up to, without a limit. -/
def total (f : Nat → UInt32) (n : Nat) : Nat :=
  ((List.range n).map fun i => (f i).toNat).foldl (· + ·) 0

theorem total_succ (f : Nat → UInt32) (n : Nat) : total f (n + 1) = total f n + (f n).toNat := by
  simp [total, List.range_succ]

theorem total_mono (f : Nat → UInt32) : Monotone (total f) := by
  apply monotone_nat_of_le_succ
  intro n
  rw [total_succ]
  exact Nat.le_add_right _ _

variable {f g : Nat → UInt32} {n i : Nat}

/-- Where a whole sum fits in a word, the sum so far takes the next word without overflow. -/
theorem addWord_total (hfits : total f n < UInt32.size) (hi : i < n) :
    addWord (UInt32.ofNat (total f i)) (f i) = some (UInt32.ofNat (total f (i + 1))) := by
  have hnext : total f (i + 1) < UInt32.size := (total_mono f hi).trans_lt hfits
  have hnow : (UInt32.ofNat (total f i)).toNat = total f i :=
    UInt32.toNat_ofNat_of_lt' ((total_mono f (Nat.le_succ i)).trans_lt hnext)
  rw [total_succ] at hnext
  rw [addWord, hnow, if_pos hnext, total_succ, UInt32.ofNat_add, UInt32.ofNat_toNat]

/-- A loop whose every step gives the next of its values ends with the last of them. -/
theorem foldlM_range {σ : Type} {step : σ → Nat → Option σ} (value : Nat → σ)
    (hstep : ∀ i < n, step (value i) i = some (value (i + 1))) :
    (List.range n).foldlM step (value 0) = some (value n) := by
  induction n with
  | zero => rfl
  | succ n ih =>
      have hbefore : ∀ i < n, step (value i) i = some (value (i + 1)) :=
        fun i hi => hstep i (Nat.lt_succ_of_lt hi)
      rw [List.range_succ, List.foldlM_append, ih hbefore, Option.bind_eq_bind, Option.bind_some,
        List.foldlM_cons, hstep n (Nat.lt_succ_self n)]
      rfl

theorem foldlM_addWord (hf : total f n < UInt32.size) :
    (List.range n).foldlM (fun sum i => addWord sum (f i)) 0 =
      some (UInt32.ofNat (total f n)) := by
  apply foldlM_range fun i => UInt32.ofNat (total f i)
  intro i hi
  exact addWord_total hf hi

theorem foldlM_addWords (hf : total f n < UInt32.size) (hg : total g n < UInt32.size) :
    (List.range n).foldlM (fun (sums : UInt32 × UInt32) i => do
      let first ← addWord sums.1 (f i)
      let second ← addWord sums.2 (g i)
      return (first, second)) (0, 0) =
        some (UInt32.ofNat (total f n), UInt32.ofNat (total g n)) := by
  apply foldlM_range fun i => (UInt32.ofNat (total f i), UInt32.ofNat (total g i))
  intro i hi
  rw [addWord_total hf hi, addWord_total hg hi]
  rfl

theorem toNat_bitCount (w : UInt32) : (bitCount w).toNat = popCount w := by
  have hle : popCount w ≤ wordBits := by
    rw [popCount_eq_count]
    exact Nat.count_le _
  unfold wordBits at hle
  exact UInt32.toNat_ofNat_of_lt' (hle.trans_lt (by decide))

end Checked

namespace PackedBits

/-- All positions that are set in one of two vectors lie before the greater dimension. -/
theorem ones_union_card_lt (a b : PackedBits) : (a.ones ∪ b.ones).card < UInt32.size := by
  have hsub : a.ones ∪ b.ones ⊆ Finset.range (max a.dimension b.dimension) := by
    apply Finset.union_subset
    · exact a.ones_subset.trans (Finset.range_subset_range.mpr (Nat.le_max_left _ _))
    · exact b.ones_subset.trans (Finset.range_subset_range.mpr (Nat.le_max_right _ _))
  calc
    (a.ones ∪ b.ones).card ≤ (Finset.range (max a.dimension b.dimension)).card :=
      Finset.card_le_card hsub
    _ = max a.dimension b.dimension := Finset.card_range _
    _ < UInt32.size := Nat.max_lt.mpr ⟨a.dimension_lt, b.dimension_lt⟩

theorem ones_inter_card_lt (a b : PackedBits) : (a.ones ∩ b.ones).card < UInt32.size :=
  (Finset.card_le_card Finset.inter_subset_union).trans_lt (ones_union_card_lt a b)

theorem countOnes_lt (b : PackedBits) : b.countOnes < UInt32.size := by
  have hlt := ones_union_card_lt b b
  rwa [Finset.union_self, ← countOnes_eq_card] at hlt

theorem dataWords?_eq (b : PackedBits) : b.dataWords? = some b.dataWords := by
  rw [dataWords?, Checked.slice, if_pos (Nat.sub_le _ _), dataWords, List.dropLast_eq_take]

theorem maskedWord?_eq (b : PackedBits) (index : Nat) :
    b.maskedWord? index = some (b.maskedWord index) := by
  unfold maskedWord? maskedWord
  simp only [dataWords?_eq, Option.bind_eq_bind, Option.bind_some, Checked.subSize]
  split
  · rfl
  · rename_i hstart
    rw [if_pos (Nat.le_of_not_le hstart), Option.bind_some]
    split
    · rfl
    · rename_i hlive
      have hshort := Nat.not_le.mp hlive
      rw [Checked.shiftLeft, if_pos hshort, Option.bind_some, Checked.subWord,
        if_pos (one_le_shiftLeft hshort), Option.bind_some]
      rfl

theorem bit?_eq (b : PackedBits) (index : Nat) : b.bit? index = some (b.bit index) := by
  have hplace : index % wordBits < wordBits := Nat.mod_lt _ (by decide)
  unfold bit? bit
  by_cases hbefore : index < b.dimension
  · simp [hbefore, maskedWord?_eq, Checked.shiftRight, hplace]
  · simp [hbefore]

/-- The sum of the bits of the masked words fits in a word, because the dimension does. -/
theorem countOnes?_eq (b : PackedBits) : b.countOnes? = some (UInt32.ofNat b.countOnes) := by
  let f (i : Nat) : UInt32 := Checked.bitCount (b.maskedWord i)
  have htotal : Checked.total f b.dataWords.length = b.countOnes := by
    simp only [f, Checked.total, Checked.toNat_bitCount, countOnes]
  have hfits : Checked.total f b.dataWords.length < UInt32.size := htotal.trans_lt b.countOnes_lt
  rw [← htotal, ← Checked.foldlM_addWord hfits]
  simp only [countOnes?, dataWords?_eq, maskedWord?_eq, Option.bind_eq_bind, Option.bind_some, f]

end PackedBits

namespace Distance

/-- Both sums of the walk fit in a word: all positions counted lie before the greater dimension. -/
theorem counts?_eq (a b : PackedBits) :
    counts? a b = some (UInt32.ofNat (a.ones ∩ b.ones).card,
      UInt32.ofNat (a.ones ∪ b.ones).card) := by
  let words := max a.dataWords.length b.dataWords.length
  let f (i : Nat) : UInt32 := Checked.bitCount (a.maskedWord i &&& b.maskedWord i)
  let g (i : Nat) : UInt32 := Checked.bitCount (a.maskedWord i ||| b.maskedWord i)
  have hboth : Checked.total f words = (a.ones ∩ b.ones).card := by
    rw [← combinedCount_and]
    simp only [f, words, Checked.total, Checked.toNat_bitCount, combinedCount]
  have heither : Checked.total g words = (a.ones ∪ b.ones).card := by
    rw [← combinedCount_or]
    simp only [g, words, Checked.total, Checked.toNat_bitCount, combinedCount]
  have hcommon : Checked.total f words < UInt32.size := hboth.trans_lt (a.ones_inter_card_lt b)
  have hunion : Checked.total g words < UInt32.size := heither.trans_lt (a.ones_union_card_lt b)
  rw [← hboth, ← heither, ← Checked.foldlM_addWords hcommon hunion]
  simp only [counts?, PackedBits.dataWords?_eq, PackedBits.maskedWord?_eq, Option.bind_eq_bind,
    Option.bind_some, f, g, words]

theorem bitJaccard?_eq (a b : PackedBits) : bitJaccard? a b = some (bitJaccard a b) := by
  rw [bitJaccard?, counts?_eq, Option.bind_eq_bind, Option.bind_some,
    UInt32.toNat_ofNat_of_lt' (a.ones_inter_card_lt b),
    UInt32.toNat_ofNat_of_lt' (a.ones_union_card_lt b), bitJaccard_eq]
  rfl

end Distance

namespace PackedBits

/-- The bits that are set are those before the dimension that a word which is there has set. -/
theorem bit_eq_true_iff (b : PackedBits) (i : Nat) :
    b.bit i = true ↔ i < b.dimension ∧
      ∃ w, b.dataWords[i / wordBits]? = some w ∧ w.toNat.testBit (i % wordBits) = true := by
  rw [bit_eq, Bool.and_eq_true, decide_eq_true_iff]
  apply and_congr_right
  intro _
  cases b.dataWords[i / wordBits]? with
  | none => simp
  | some w => simp

/-- What stands at or past the dimension changes nothing. -/
theorem SameBefore.measures_eq {a a' b b' : PackedBits} (ha : a.SameBefore a')
    (hb : b.SameBefore b') :
    a'.countOnes = a.countOnes ∧ Distance.bitJaccard a' b' = Distance.bitJaccard a b := by
  constructor
  · rw [countOnes_eq_card, countOnes_eq_card, ha.ones_eq]
  · rw [Distance.bitJaccard_eq, Distance.bitJaccard_eq, ha.ones_eq, hb.ones_eq]

/-- Whatever two lists of words hold, their bits are those that stand before the dimension in a word
that is there; counting and comparing go by the positions of these bits alone, and what stands in
the words at or past the dimension changes nothing; and no shift amount, slice or sum on the way is
out of range. -/
theorem padding_ignored (a b : PackedBits) :
    (∀ i, (i ∈ a.ones ↔ a.bit i = true) ∧ (a.bit i = true ↔ i < a.dimension ∧
      ∃ w, a.dataWords[i / wordBits]? = some w ∧ w.toNat.testBit (i % wordBits) = true)) ∧
    a.countOnes = a.ones.card ∧
    Distance.combinedCount (· &&& ·) a b = (a.ones ∩ b.ones).card ∧
    Distance.combinedCount (· ||| ·) a b = (a.ones ∪ b.ones).card ∧
    Distance.bitJaccard a b = Distance.jaccard (a.ones ∩ b.ones).card (a.ones ∪ b.ones).card ∧
    (∀ a' b' : PackedBits, a.SameBefore a' → b.SameBefore b' → (∀ i, a'.bit i = a.bit i) ∧
      a'.countOnes = a.countOnes ∧ Distance.bitJaccard a' b' = Distance.bitJaccard a b) ∧
    (∀ i, a.maskedWord? i = some (a.maskedWord i)) ∧
    (∀ i, a.bit? i = some (a.bit i)) ∧
    (∃ sum, a.countOnes? = some sum ∧ sum.toNat = a.countOnes) ∧
    (∃ common union, Distance.counts? a b = some (common, union) ∧
      common.toNat = (a.ones ∩ b.ones).card ∧ union.toNat = (a.ones ∪ b.ones).card) ∧
    Distance.bitJaccard? a b = some (Distance.bitJaccard a b) := by
  refine ⟨?bits, a.countOnes_eq_card, Distance.combinedCount_and a b,
    Distance.combinedCount_or a b, Distance.bitJaccard_eq a b, ?padding, a.maskedWord?_eq,
    a.bit?_eq, ?sum, ?sums, Distance.bitJaccard?_eq a b⟩
  case bits =>
    intro i
    exact ⟨mem_ones, a.bit_eq_true_iff i⟩
  case padding =>
    intro a' b' ha hb
    exact ⟨ha.bit_eq, ha.measures_eq hb⟩
  case sum =>
    refine ⟨_, a.countOnes?_eq, ?_⟩
    exact UInt32.toNat_ofNat_of_lt' a.countOnes_lt
  case sums =>
    refine ⟨_, _, Distance.counts?_eq a b, ?_, ?_⟩
    · exact UInt32.toNat_ofNat_of_lt' (a.ones_inter_card_lt b)
    · exact UInt32.toNat_ofNat_of_lt' (a.ones_union_card_lt b)

/-- Five bits, with and without set bits behind them, compare in the same way with 40 bits of which
the words hold 32. -/
theorem padding_ignored_fiveBits :
    SameBefore ⟨[0x1F, 5]⟩ ⟨[0xFFFFFFFF, 7, 5]⟩ ∧
      PackedBits.countOnes ⟨[0xFFFFFFFF, 7, 5]⟩ = 5 ∧
      Distance.bitJaccard ⟨[0xFFFFFFFF, 7, 5]⟩ ⟨[0xFF, 40]⟩ =
        Distance.bitJaccard ⟨[0x1F, 5]⟩ ⟨[0xFF, 40]⟩ := by
  have hsame : SameBefore ⟨[0x1F, 5]⟩ ⟨[0xFFFFFFFF, 7, 5]⟩ := ⟨rfl, by decide⟩
  have hself : SameBefore ⟨[0xFF, 40]⟩ ⟨[0xFF, 40]⟩ := ⟨rfl, fun _ _ => rfl⟩
  obtain ⟨-, -, -, -, -, hpadding, -⟩ := padding_ignored ⟨[0x1F, 5]⟩ ⟨[0xFF, 40]⟩
  obtain ⟨-, hcount, hdistance⟩ := hpadding _ _ hsame hself
  exact ⟨hsame, hcount.trans (by decide), hdistance⟩

end PackedBits

end Vicinity
