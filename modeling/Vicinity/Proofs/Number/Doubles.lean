import Mathlib
import Vicinity.Json.Number
import Vicinity.Proofs.Number.Rounding

/-!
Arithmetic on doubles as rounding of the exact result. A result of normal size is nearest to the
exact one among the doubles, so it is at most `2 ^ -53` of it away, and it is the exact one where
that is a double.
-/

namespace Vicinity.Number

open Float.Model (UnpackedFloat totalExponent)
open Float.Model.UnpackedFloat

/-- Whether a number is what an exact one may be rounded to in double precision. -/
structure Rounded (exact result : ℚ) : Prop where
  close : |result - exact| ≤ exact / 2 ^ 53
  same : ∀ (n : Nat) (e : Int), n < 2 ^ 53 → exact = n * 2 ^ e → result = exact

section Mantissa

/-- What a mantissa with its two residual bits says about a number. -/
def Represents (em : ExtendedMantissa) (x : ℚ) : Prop :=
  match em.roundBit, em.stickyBit with
  | false, false => x = em.mantissa
  | false, true => (em.mantissa : ℚ) < x ∧ x < em.mantissa + 1 / 2
  | true, false => x = em.mantissa + 1 / 2
  | true, true => (em.mantissa : ℚ) + 1 / 2 < x ∧ x < em.mantissa + 1

variable {em : ExtendedMantissa} {x : ℚ}

theorem Represents.exact (m : Nat) :
    Represents (.ofMantissaAndAccuracy m .exact) m := rfl

/-- The accuracy of a quotient is where its remainder stands. -/
theorem Represents.quotient {num den : Nat} (hden : 0 < den) :
    Represents (.ofMantissaAndAccuracy (num / den) (accuracyOfFraction (num % den) den))
      (num / den) := by
  have hden' : (0 : ℚ) < den := by exact_mod_cast hden
  have hrest : num % den < den := Nat.mod_lt num hden
  have hsplit : (num : ℚ) / den = (num / den : Nat) + (num % den : Nat) / den := by
    rw [div_eq_iff hden'.ne', add_mul, div_mul_cancel₀ _ hden'.ne']
    exact_mod_cast (Nat.div_add_mod' num den).symm
  have htop : ((num % den : Nat) : ℚ) / den < 1 := by
    rw [div_lt_one hden']
    exact_mod_cast hrest
  rw [hsplit]
  unfold accuracyOfFraction
  by_cases hzero : num % den = 0
  · rw [if_pos hzero, hzero]
    simp [Represents, ExtendedMantissa.ofMantissaAndAccuracy]
  · rw [if_neg hzero]
    have hbottom : (0 : ℚ) < (num % den : Nat) / den := by
      apply div_pos _ hden'
      exact_mod_cast Nat.pos_of_ne_zero hzero
    have hhalf : ((num % den : Nat) : ℚ) / den < 1 / 2 ↔ 2 * (num % den) < den := by
      rw [div_lt_div_iff₀ hden' (by norm_num), one_mul, mul_comm]
      exact_mod_cast Iff.rfl
    have hhalf' : (1 : ℚ) / 2 < (num % den : Nat) / den ↔ den < 2 * (num % den) := by
      rw [div_lt_div_iff₀ (by norm_num) hden', one_mul, mul_comm (_ : ℚ) 2]
      exact_mod_cast Iff.rfl
    rcases hcompare : compare (2 * (num % den)) den with _ | _ | _ <;>
      simp only [Represents, ExtendedMantissa.ofMantissaAndAccuracy]
    · have := hhalf.mpr (Nat.compare_eq_lt.mp hcompare)
      exact ⟨by linarith, by linarith⟩
    · have heq := Nat.compare_eq_eq.mp hcompare
      have hle := not_lt.mp (mt hhalf.mp heq.not_lt)
      have hge := not_lt.mp (mt hhalf'.mp heq.symm.not_lt)
      linarith
    · have := hhalf'.mpr (Nat.compare_eq_gt.mp hcompare)
      exact ⟨by linarith, by linarith⟩

theorem Represents.shiftRightOne (h : Represents em x) : Represents em.shiftRightOne (x / 2) := by
  obtain ⟨m, r, s⟩ := em
  have hm : ((m % 2 : Nat) : ℚ) + 2 * (m / 2 : Nat) = m := by exact_mod_cast Nat.mod_add_div m 2
  rcases Nat.mod_two_eq_zero_or_one m with hr | hr <;> rw [hr] at hm <;> push_cast at hm <;>
    cases r <;> cases s <;> simp only [Represents, ExtendedMantissa.shiftRightOne, hr] at h ⊢
  all_goals first
    | (show (_ : ℚ) = _; linarith)
    | exact ⟨by linarith [h.1, h.2], by linarith [h.1, h.2]⟩
    | exact ⟨by linarith, by linarith⟩

theorem Represents.shiftRight (h : Represents em x) (n : Nat) :
    Represents (em >>> n) (x / 2 ^ n) := by
  change Represents (n.repeat ExtendedMantissa.shiftRightOne em) _
  induction n with
  | zero => simpa [Nat.repeat] using h
  | succ n ih =>
      rw [Nat.repeat, pow_succ, div_mul_eq_div_div]
      exact ih.shiftRightOne

/-- The rounded mantissa is nearest. -/
theorem Represents.rounded (h : Represents em x) :
    em.mantissa ≤ em.roundedMantissa ∧ em.roundedMantissa ≤ em.mantissa + 1 ∧
    |(em.roundedMantissa : ℚ) - x| ≤ 1 / 2 := by
  obtain ⟨m, r, s⟩ := em
  have heven : m % 2 = 0 ∨ m % 2 = 1 := Nat.mod_two_eq_zero_or_one m
  cases r <;> cases s <;> simp only [Represents] at h <;>
    simp only [ExtendedMantissa.roundedMantissa, ExtendedMantissa.accuracy,
      Accuracy.roundToNearestEven]
  · refine ⟨by omega, by omega, ?_⟩
    rw [h, sub_self, abs_zero]
    norm_num
  · refine ⟨by omega, by omega, ?_⟩
    rw [abs_le]
    constructor <;> linarith [h.1, h.2]
  · refine ⟨by omega, by omega, ?_⟩
    rw [abs_le]
    rcases heven with heven | heven <;> rw [heven] <;> push_cast <;> constructor <;> linarith
  · refine ⟨by omega, by omega, ?_⟩
    rw [abs_le]
    push_cast
    constructor <;> linarith [h.1, h.2]

theorem Represents.floor (h : Represents em x) : (em.mantissa : ℚ) ≤ x ∧ x < em.mantissa + 1 := by
  obtain ⟨m, r, s⟩ := em
  cases r <;> cases s <;> simp only [Represents] at h ⊢
  all_goals constructor <;> linarith

end Mantissa

section Round

variable {m : Nat} {e : Int} {y : ℚ}

/-- What is nearest in units of which the exact number has at least `2 ^ 52` is what it may be
rounded to. -/
theorem Rounded.of_units {exact : ℚ} {t e : Int} {m : Nat} (ht : t ≤ e)
    (hunits : 2 ^ 52 * 2 ^ t ≤ exact) (hclose : |m * 2 ^ e - exact| ≤ 2 ^ t / 2) :
    Rounded exact (m * 2 ^ e) where
  close := by
    rw [le_div_iff₀ (by norm_num)]
    linarith
  same := by
    intro n j hn rfl
    have htpos := two_zpow_pos t
    have hjpos := two_zpow_pos j
    -- A number of at most 53 bits that has that many units consists of whole units.
    have htj : t ≤ j := by
      have hn' : (n : ℚ) < 2 ^ 53 := by exact_mod_cast hn
      have hlt : (2 : ℚ) ^ (t + 52) < 2 ^ (j + 53) := by
        rw [zpow_add₀ (by norm_num), zpow_add₀ (by norm_num)]
        have := mul_lt_mul_of_pos_right hn' hjpos
        norm_num at hunits this ⊢
        linarith
      have := (zpow_lt_zpow_iff_right₀ (show (1 : ℚ) < 2 by norm_num)).mp hlt
      omega
    obtain ⟨a, rfl⟩ := Int.le.dest ht
    obtain ⟨b, rfl⟩ := Int.le.dest htj
    rw [zpow_add₀ (by norm_num), zpow_add₀ (by norm_num), zpow_natCast, zpow_natCast] at hclose ⊢
    have hfactor : (m * (2 ^ t * 2 ^ a) - n * (2 ^ t * 2 ^ b) : ℚ) =
        ((m * 2 ^ a - n * 2 ^ b : Int) : ℚ) * 2 ^ t := by
      push_cast
      ring
    rw [hfactor, abs_mul, abs_of_pos htpos, div_eq_mul_inv, mul_comm (2 ^ t : ℚ),
      mul_le_mul_iff_left₀ htpos] at hclose
    have hzero : (m * 2 ^ a - n * 2 ^ b : Int) = 0 := by
      have hlt : |((m * 2 ^ a - n * 2 ^ b : Int) : ℚ)| < 1 := hclose.trans_lt (by norm_num)
      exact Int.abs_lt_one_iff.mp (by exact_mod_cast hlt)
    rw [hzero, Int.cast_zero, zero_mul] at hfactor
    exact sub_eq_zero.mp hfactor

theorem targetExponent_eq (m : Nat) (e : Int) :
    Float.Model.Format.binary64.targetExponent (totalExponent m e) =
      max (e + m.log2 - 52) (-1074) := by
  simp only [Float.Model.Format.targetExponent, totalExponent, Float.Model.Format.mantissaBits,
    Float.Model.Format.minExponent]
  norm_num
  omega

theorem shiftToTargetExponent_eq (hlog : 52 ≤ m.log2) (he : -1074 ≤ e) (acc : Accuracy) :
    shiftToTargetExponent .binary64 m e acc =
      (ExtendedMantissa.ofMantissaAndAccuracy m acc >>> (m.log2 - 52),
        e + (m.log2 - 52 : Nat)) := by
  have htarget : Float.Model.Format.binary64.targetExponent (totalExponent m e) =
      e + (m.log2 - 52 : Nat) := by
    rw [targetExponent_eq]
    omega
  have hamount : (e + (m.log2 - 52 : Nat) - e).toNat = m.log2 - 52 := by omega
  rw [shiftToTargetExponent, htarget, shiftToExponent, hamount]

theorem mantissa_of (m : Nat) (acc : Accuracy) :
    (ExtendedMantissa.ofMantissaAndAccuracy m acc).mantissa = m := by
  rcases acc with _ | (_ | _ | _) <;> rfl

/-- A mantissa of 53 bits needs no second rounding, and one past them only loses a zero. -/
theorem carry_spec {r : Nat} (hlow : 2 ^ 52 ≤ r) (hhigh : r ≤ 2 ^ 53) (he : -1074 ≤ e)
    {em : ExtendedMantissa} {e' : Int}
    (hshift : shiftToTargetExponent .binary64 r e .exact = (em, e')) :
    2 ^ 52 ≤ em.mantissa ∧ em.mantissa < 2 ^ 53 ∧ e ≤ e' ∧
      (em.mantissa * 2 ^ e' : ℚ) = r * 2 ^ e := by
  have hlog : 52 ≤ r.log2 := (Nat.le_log2 (by omega)).mpr hlow
  rw [shiftToTargetExponent_eq hlog he] at hshift
  rcases Nat.eq_or_lt_of_le hhigh with rfl | hlt
  · rw [Nat.log2_two_pow] at hshift
    obtain ⟨rfl, rfl⟩ := Prod.mk.inj hshift
    refine ⟨by decide, by decide, by omega, ?_⟩
    change ((2 ^ 53 / 2 : Nat) : ℚ) * 2 ^ (e + 1) = _
    rw [zpow_add_one₀ (by norm_num)]
    norm_num
    ring
  · have hlog' : r.log2 < 53 := (Nat.log2_lt (by omega)).mpr hlt
    rw [show r.log2 - 52 = 0 by omega] at hshift
    obtain ⟨rfl, rfl⟩ := Prod.mk.inj hshift
    refine ⟨hlow, hlt, by omega, ?_⟩
    rw [Nat.cast_zero, add_zero]
    rfl

/-- Rounding a number of normal size. -/
theorem roundWithAccuracy_eq (sign : Sign) {acc : Accuracy}
    (hy : Represents (.ofMantissaAndAccuracy m acc) y) (hm : 2 ^ 52 ≤ m) (he : -1074 ≤ e) :
    ∃ m' e' hpos, roundWithAccuracy .binary64 sign m e acc = .finite sign m' e' hpos ∧
      2 ^ 52 ≤ m' ∧ m' < 2 ^ 53 ∧ e ≤ e' ∧ Rounded (y * 2 ^ e) (m' * 2 ^ e') := by
  have hlog : 52 ≤ m.log2 := (Nat.le_log2 (by omega)).mpr hm
  obtain ⟨s, hs⟩ : ∃ s, m.log2 = 52 + s := ⟨m.log2 - 52, by omega⟩
  have hspos : (0 : ℚ) < 2 ^ s := by positivity
  have hshift := hy.shiftRight s
  obtain ⟨hfloor, hceil⟩ := hshift.floor
  obtain ⟨hlow, hhigh, hclose⟩ := hshift.rounded
  rw [div_lt_iff₀ hspos] at hceil
  rw [le_div_iff₀ hspos] at hfloor
  have hym := hy.floor
  rw [mantissa_of] at hym
  have hbottom : (2 : ℚ) ^ 52 * 2 ^ s ≤ m := by
    rw [← pow_add, ← hs]
    exact_mod_cast Nat.log2_self_le (by omega)
  have htop : (m : ℚ) + 1 ≤ 2 ^ 53 * 2 ^ s := by
    rw [← pow_add, show 53 + s = m.log2 + 1 by omega]
    exact_mod_cast Nat.lt_log2_self (n := m)
  generalize hem : ExtendedMantissa.ofMantissaAndAccuracy m acc >>> s = em at *
  have hmantissa : 2 ^ 52 ≤ em.mantissa ∧ em.mantissa < 2 ^ 53 := by
    constructor
    · have : (2 : ℚ) ^ 52 < em.mantissa + 1 :=
        lt_of_mul_lt_mul_right (by linarith) hspos.le
      have : 2 ^ 52 < em.mantissa + 1 := by exact_mod_cast this
      omega
    · have : (em.mantissa : ℚ) < 2 ^ 53 := lt_of_mul_lt_mul_right (by linarith) hspos.le
      exact_mod_cast this
  rcases hcarry : shiftToTargetExponent .binary64 em.roundedMantissa (e + s) .exact with ⟨em', e'⟩
  obtain ⟨hlow', hhigh', hle, hvalue⟩ :=
    carry_spec (hmantissa.1.trans hlow) (by omega) (by omega) hcarry
  have hresult : roundWithAccuracy .binary64 sign m e acc =
      .finite sign em'.mantissa e' (by omega) := by
    unfold roundWithAccuracy
    rw [shiftToTargetExponent_eq hlog he, hs, Nat.add_sub_cancel_left, hem]
    simp only [hcarry]
    rw [dif_neg (by omega)]
  refine ⟨em'.mantissa, e', by omega, hresult, hlow', hhigh', by omega, ?_⟩
  rw [hvalue]
  have hunit : (2 : ℚ) ^ (e + s) = 2 ^ s * 2 ^ e := by
    rw [zpow_add₀ (by norm_num), zpow_natCast, mul_comm]
  have hepos := two_zpow_pos e
  apply Rounded.of_units le_rfl
  · rw [hunit, ← mul_assoc]
    exact mul_le_mul_of_nonneg_right (hbottom.trans hym.1) hepos.le
  · have hdiff : (em.roundedMantissa * 2 ^ (e + s) - y * 2 ^ e : ℚ) =
        (em.roundedMantissa - y / 2 ^ s) * 2 ^ (e + s) := by
      rw [hunit, sub_mul, ← mul_assoc (y / 2 ^ s), div_mul_cancel₀ _ hspos.ne']
    have hupos := two_zpow_pos (e + s)
    have := mul_le_mul_of_nonneg_right hclose hupos.le
    rw [hdiff, abs_mul, abs_of_pos hupos]
    linarith

end Round

section Parts

/-- The double `mantissa * 2 ^ exponent` with a sign. -/
def ofParts (sign : Sign) (mantissa : Nat) (exponent : Int) (hpos : 0 < mantissa) : Float :=
  .ofModel (.pack (.finite sign mantissa exponent hpos))

/-- Whether a mantissa and an exponent are those of a double of normal size. -/
structure IsNormal (m : Nat) (e : Int) : Prop where
  low : 2 ^ 52 ≤ m
  high : m < 2 ^ 53
  least : -1074 ≤ e
  most : e ≤ 971

variable {sign : Sign} {m : Nat} {e : Int}

theorem IsNormal.positive (h : IsNormal m e) : 0 < m := by
  have := h.low
  omega

theorem IsNormal.log2_eq (h : IsNormal m e) : m.log2 = 52 :=
  (Nat.log2_eq_iff h.positive.ne').mpr ⟨h.low, h.high⟩

/-- The fields of the bits of a double of normal size. -/
theorem pack_normal (h : IsNormal m e) (hpos : 0 < m) :
    pack .binary64 (.finite sign m e hpos) =
      packComponents .binary64 sign (BitVec.ofNat 11 (e + 1075).toNat) (BitVec.ofNat 52 m) := by
  have hlog := h.log2_eq
  obtain ⟨hlow, hhigh, hleast, hmost⟩ := h
  have hbias : (e + ((2 ^ (11 - 1) - 1 : Nat) : Int) + (52 : Nat)).toNat = (e + 1075).toNat := by
    norm_num
    omega
  have hfits : ¬ 2 ^ 11 ≤ (e + 1075).toNat + 1 := by omega
  unfold pack
  simp only [Float.Model.Format.exponentBias, Float.Model.Format.mantissaBits, hlog, hbias]
  rw [if_neg hfits, if_pos trivial]

theorem unpack_ofParts (h : IsNormal m e) (hpos : 0 < m) :
    (ofParts sign m e hpos).toModel.unpack = .finite sign m e hpos := by
  change unpack .binary64 (pack .binary64 (.finite sign m e hpos)) = _
  rw [pack_normal h]
  obtain ⟨hlow, hhigh, hleast, hmost⟩ := h
  have hbits : (BitVec.ofNat 11 (e + 1075).toNat).toNat = (e + 1075).toNat := by
    rw [BitVec.toNat_ofNat, Nat.mod_eq_of_lt (by omega)]
  have hnotTop : BitVec.ofNat 11 (e + 1075).toNat ≠ -1#_ := by
    intro htop
    have := congrArg BitVec.toNat htop
    rw [hbits] at this
    have : (e + 1075).toNat = 2047 := this
    omega
  have hnotZero : BitVec.ofNat 11 (e + 1075).toNat ≠ 0#_ := by
    intro hzero
    have := congrArg BitVec.toNat hzero
    rw [hbits] at this
    have : (e + 1075).toNat = 0 := this
    omega
  have hmantissa : (1#1 ++ BitVec.ofNat 52 m).toNat = m := by
    rw [BitVec.toNat_append, ← Nat.shiftLeft_add_eq_or_of_lt (BitVec.isLt _), BitVec.toNat_ofNat]
    change 2 ^ 52 + m % 2 ^ 52 = m
    omega
  unfold UnpackedFloat.unpack
  simp only [unpackMantissa_packComponents, unpackExponent_packComponents,
    unpackSign_packComponents, Sign.ofBitVec_toBitVec]
  rw [if_neg hnotTop, if_neg hnotZero]
  congr 1
  rw [hbits]
  simp only [Float.Model.Format.exponentBias]
  norm_num
  omega

theorem decode_double (bits : Nat) :
    double.decode bits =
      if bits / 2 ^ 52 % 2 ^ 11 = 2 ^ 11 - 1 then
        if bits % 2 ^ 52 = 0 then .infinite (bits / 2 ^ 52 / 2 ^ 11 % 2 == 1) else .nan
      else if bits / 2 ^ 52 % 2 ^ 11 = 0 then
        .finite (bits / 2 ^ 52 / 2 ^ 11 % 2 == 1) (bits % 2 ^ 52) double.minExponent
      else .finite (bits / 2 ^ 52 / 2 ^ 11 % 2 == 1) (bits % 2 ^ 52 + 2 ^ 52)
        (double.minExponent + (bits / 2 ^ 52 % 2 ^ 11 - 1 : Nat)) := rfl

theorem ofDouble_ofParts (h : IsNormal m e) (hpos : 0 < m) :
    ofDouble (ofParts sign m e hpos) = .finite (sign == .negative) m e := by
  change double.decode (pack .binary64 (.finite sign m e hpos)).toNat = _
  rw [pack_normal h]
  obtain ⟨hlow, hhigh, hleast, hmost⟩ := h
  have hbits : (packComponents .binary64 sign (BitVec.ofNat 11 (e + 1075).toNat)
      (BitVec.ofNat 52 m)).toNat =
        (sign.toBitVec.toNat * 2 ^ 11 + (e + 1075).toNat) * 2 ^ 52 + m % 2 ^ 52 := by
    rw [packComponents, BitVec.toNat_append, BitVec.toNat_append,
      ← Nat.shiftLeft_add_eq_or_of_lt (BitVec.isLt _),
      ← Nat.shiftLeft_add_eq_or_of_lt (BitVec.isLt _), BitVec.toNat_ofNat, BitVec.toNat_ofNat,
      Nat.shiftLeft_eq, Nat.shiftLeft_eq,
      Nat.mod_eq_of_lt (show (e + 1075).toNat < 2 ^ 11 by omega)]
  have hleastExponent : double.minExponent = -1074 := by decide
  have hsign : sign.toBitVec.toNat < 2 := BitVec.isLt _
  rw [hbits, decode_double, if_neg (by omega), if_neg (by omega), hleastExponent]
  congr 1
  · rw [show ((sign.toBitVec.toNat * 2 ^ 11 + (e + 1075).toNat) * 2 ^ 52 + m % 2 ^ 52) / 2 ^ 52 /
      2 ^ 11 % 2 = sign.toBitVec.toNat by omega]
    cases sign <;> rfl
  · omega
  · omega

end Parts

section Arithmetic

/-- Whether a double is the positive number of normal size that has the given value. -/
def Stands (x : Float) (value : ℚ) : Prop :=
  ∃ m e hpos, IsNormal m e ∧ x = ofParts .positive m e hpos ∧ value = m * 2 ^ e

variable {x y : Float} {a b : ℚ}

/-- The exponent of a number of normal size is bounded by the powers of two next to it. -/
theorem IsNormal.exponent_lt {m : Nat} {e k : Int} (hm : 2 ^ 52 ≤ m) (h : (m * 2 ^ e : ℚ) < 2 ^ k) :
    e + 52 < k := by
  apply (zpow_lt_zpow_iff_right₀ (show (1 : ℚ) < 2 by norm_num)).mp
  refine lt_of_le_of_lt ?_ h
  rw [zpow_add₀ (by norm_num), mul_comm]
  exact mul_le_mul_of_nonneg_right (by exact_mod_cast hm) (two_zpow_pos e).le

theorem IsNormal.lt_exponent {m : Nat} {e k : Int} (hm : m < 2 ^ 53) (h : (2 : ℚ) ^ k ≤ m * 2 ^ e) :
    k < e + 53 := by
  apply (zpow_lt_zpow_iff_right₀ (show (1 : ℚ) < 2 by norm_num)).mp
  refine lt_of_le_of_lt h ?_
  rw [zpow_add₀ (by norm_num), mul_comm]
  exact mul_lt_mul_of_pos_left (by exact_mod_cast hm) (two_zpow_pos e)

/-- What rounding gives stands for what it may be rounded to, unless it is too large. -/
theorem stands_round {m : Nat} {e : Int} {acc : Accuracy} {v : ℚ}
    (hv : Represents (.ofMantissaAndAccuracy m acc) v) (hm : 2 ^ 52 ≤ m) (he : -1074 ≤ e)
    (hmost : v * 2 ^ e < 2 ^ (1000 : Int)) : ∃ r,
    Stands (.ofModel (.pack (roundWithAccuracy .binary64 .positive m e acc))) r ∧
    Rounded (v * 2 ^ e) r := by
  obtain ⟨m', e', hpos, hround, hlow, hhigh, hle, hrounded⟩ :=
    roundWithAccuracy_eq .positive hv hm he
  refine ⟨m' * 2 ^ e', ⟨m', e', hpos, ⟨hlow, hhigh, by omega, ?_⟩, by rw [hround]; rfl, rfl⟩,
    hrounded⟩
  have hexact : (0 : ℚ) ≤ v * 2 ^ e :=
    mul_nonneg (le_trans (Nat.cast_nonneg _) hv.floor.1) (two_zpow_pos e).le
  have hbound : (m' * 2 ^ e' : ℚ) < 2 ^ (1001 : Int) := by
    have hclose := (abs_le.mp hrounded.close).2
    have hself := div_le_self hexact (show (1 : ℚ) ≤ 2 ^ 53 by norm_num)
    calc (m' * 2 ^ e' : ℚ) ≤ v * 2 ^ e * 2 := by linarith
      _ < 2 ^ (1000 : Int) * 2 := mul_lt_mul_of_pos_right hmost two_pos
      _ = 2 ^ (1001 : Int) := by rw [← zpow_add_one₀ (by norm_num)]; rfl
  have := IsNormal.exponent_lt hlow hbound
  omega

theorem Stands.mul (hx : Stands x a) (hy : Stands y b) (ha : 1 ≤ a) (hb : 1 ≤ b)
    (hmost : a * b < 2 ^ (1000 : Int)) : ∃ r, Stands (x * y) r ∧ Rounded (a * b) r := by
  obtain ⟨m, e, hpos, hnormal, rfl, rfl⟩ := hx
  obtain ⟨m', e', hpos', hnormal', rfl, rfl⟩ := hy
  have he := IsNormal.lt_exponent (k := 0) hnormal.high (by simpa using ha)
  have he' := IsNormal.lt_exponent (k := 0) hnormal'.high (by simpa using hb)
  have hproduct : ofParts .positive m e hpos * ofParts .positive m' e' hpos' =
      .ofModel (.pack (roundWithAccuracy .binary64 .positive (m * m') (e + e') .exact)) := by
    change Float.ofModel (.pack (UnpackedFloat.mul .binary64
      (ofParts .positive m e hpos).toModel.unpack
      (ofParts .positive m' e' hpos').toModel.unpack)) = _
    rw [unpack_ofParts hnormal, unpack_ofParts hnormal']
    rfl
  have hexact : ((m * m' : Nat) : ℚ) * 2 ^ (e + e') = m * 2 ^ e * (m' * 2 ^ e') := by
    rw [zpow_add₀ (by norm_num)]
    push_cast
    ring
  rw [hproduct, ← hexact]
  rw [← hexact] at hmost
  exact stands_round (Represents.exact _)
    (hnormal.low.trans (Nat.le_mul_of_pos_right m hpos')) (by omega) hmost

theorem divCore_eq {m m' : Nat} {e e' : Int} (hnormal : IsNormal m e) (hnormal' : IsNormal m' e')
    (hleast : -1021 ≤ e - e') :
    divCore .binary64 m e m' e' =
      (m * 2 ^ 53 / m', e - e' - 53, accuracyOfFraction (m * 2 ^ 53 % m') m') := by
  have htarget : min (e - e') (Float.Model.Format.binary64.targetExponent
      (totalExponent m e - totalExponent m' e')) = e - e' - 53 := by
    simp only [Float.Model.Format.targetExponent, totalExponent, hnormal.log2_eq, hnormal'.log2_eq,
      Float.Model.Format.mantissaBits, Float.Model.Format.minExponent]
    norm_num
    omega
  have hamount : (e - e' - (e - e' - 53)).toNat = 53 := by omega
  simp only [divCore, htarget, hamount, Nat.shiftLeft_eq]

theorem Stands.div (hx : Stands x a) (hy : Stands y b) (ha : 1 ≤ a) (hb : 1 ≤ b)
    (hmost : a < 2 ^ (500 : Int)) (hmost' : b < 2 ^ (500 : Int)) :
    ∃ r, Stands (x / y) r ∧ Rounded (a / b) r := by
  obtain ⟨m, e, hpos, hnormal, rfl, rfl⟩ := hx
  obtain ⟨m', e', hpos', hnormal', rfl, rfl⟩ := hy
  have he := IsNormal.lt_exponent (k := 0) hnormal.high (by simpa using ha)
  have he' := IsNormal.exponent_lt hnormal'.low hmost'
  have hquotient : ofParts .positive m e hpos / ofParts .positive m' e' hpos' =
      .ofModel (.pack (roundWithAccuracy .binary64 .positive (m * 2 ^ 53 / m') (e - e' - 53)
        (accuracyOfFraction (m * 2 ^ 53 % m') m'))) := by
    change Float.ofModel (.pack (UnpackedFloat.div .binary64
      (ofParts .positive m e hpos).toModel.unpack
      (ofParts .positive m' e' hpos').toModel.unpack)) = _
    rw [unpack_ofParts hnormal, unpack_ofParts hnormal', UnpackedFloat.div,
      divCore_eq hnormal hnormal' (by omega)]
    rfl
  have hexact : ((m * 2 ^ 53 : Nat) : ℚ) / m' * 2 ^ (e - e' - 53) =
      m * 2 ^ e / (m' * 2 ^ e') := by
    rw [zpow_sub₀ (by norm_num), zpow_sub₀ (by norm_num)]
    have hm' : (m' : ℚ) ≠ 0 := by exact_mod_cast hpos'.ne'
    have := (two_zpow_pos e').ne'
    push_cast
    field_simp
  have hlow : 2 ^ 52 ≤ m * 2 ^ 53 / m' := by
    rw [Nat.le_div_iff_mul_le hpos']
    have := hnormal.low
    have := hnormal'.high
    omega
  rw [hquotient, ← hexact]
  apply stands_round (Represents.quotient hpos') hlow (by omega)
  rw [hexact]
  refine lt_of_le_of_lt (div_le_self (by linarith) hb) (hmost.trans ?_)
  exact zpow_lt_zpow_right₀ (by norm_num) (by norm_num)

theorem stands_toFloat {n : Nat} (hpos : 0 < n) (hn : n < 2 ^ 53) :
    Stands n.toUInt64.toFloat n := by
  have hlog : n.log2 < 53 := (Nat.log2_lt hpos.ne').mpr hn
  have hword : n.toUInt64.toNat = n :=
    UInt64.toNat_ofNat_of_lt (hn.trans (by decide))
  have hcompare : compare (n : Int) 0 = .gt := Int.compare_eq_gt.mpr (by omega)
  have htarget : Float.Model.Format.binary64.targetExponent (totalExponent n 0) =
      (n.log2 : Int) - 52 := by
    rw [targetExponent_eq]
    omega
  have hamount : (0 - ((n.log2 : Int) - 52)).toNat = 52 - n.log2 := by omega
  have hexponent : (0 : Int) - (52 - n.log2 : Nat) = (n.log2 : Int) - 52 := by omega
  have hround : n.toUInt64.toFloat = .ofModel (.pack (roundWithAccuracy .binary64 .positive
      (n * 2 ^ (52 - n.log2)) ((n.log2 : Int) - 52) .exact)) := by
    change Float.ofModel (.pack
      (UnpackedFloat.normalize .binary64 (n.toUInt64.toNat : Int) 0 .positive)) = _
    rw [hword, UnpackedFloat.normalize, hcompare]
    simp only [Int.toNat_natCast, UnpackedFloat.round, htarget, decreaseExponent, hamount,
      hexponent, Nat.shiftLeft_eq]
  have hexact : ((n * 2 ^ (52 - n.log2) : Nat) : ℚ) * 2 ^ ((n.log2 : Int) - 52) = n := by
    have hunit : (2 : ℚ) ^ (52 - n.log2) * 2 ^ ((n.log2 : Int) - 52) = 1 := by
      rw [← zpow_natCast, ← zpow_add₀ (by norm_num), Nat.cast_sub (by omega)]
      norm_num
    push_cast
    rw [mul_assoc, hunit, mul_one]
  have hlow : 2 ^ 52 ≤ n * 2 ^ (52 - n.log2) := by
    have := Nat.mul_le_mul_right (2 ^ (52 - n.log2)) (Nat.log2_self_le hpos.ne')
    rwa [← pow_add, Nat.add_sub_cancel' (by omega)] at this
  obtain ⟨r, hstands, hrounded⟩ := stands_round (e := (n.log2 : Int) - 52)
    (Represents.exact (n * 2 ^ (52 - n.log2))) hlow (by omega) (by
      rw [hexact]
      refine lt_trans (b := 2 ^ (53 : Int)) (by exact_mod_cast hn) ?_
      exact zpow_lt_zpow_right₀ (by norm_num) (by norm_num))
  rw [hexact] at hrounded
  obtain rfl := hrounded.same n 0 hn (by simp)
  rwa [hround]

theorem Stands.isInf (hx : Stands x a) : x.isInf = false := by
  obtain ⟨m, e, hpos, hnormal, rfl, rfl⟩ := hx
  change ((ofParts .positive m e hpos).toModel.unpack).isInf = false
  rw [unpack_ofParts hnormal]
  rfl

/-- A number of normal size, with either sign, is what it stands for. -/
theorem Stands.ofDouble (hx : Stands x a) (negative : Bool) : ∃ (m : Nat) (e : Int), a = m * 2 ^ e ∧
    ofDouble (if negative then -x else x) = .finite negative m e := by
  obtain ⟨m, e, hpos, hnormal, rfl, rfl⟩ := hx
  refine ⟨m, e, rfl, ?_⟩
  cases negative with
  | false => exact ofDouble_ofParts hnormal hpos
  | true =>
      have hneg : -ofParts .positive m e hpos = ofParts .negative m e hpos := by
        change Float.ofModel (.pack (ofParts .positive m e hpos).toModel.unpack.neg) = _
        rw [unpack_ofParts hnormal]
        rfl
      rw [if_pos rfl, hneg]
      exact ofDouble_ofParts hnormal hpos

end Arithmetic

section PowerOfTen

/-- Mantissa and exponent of the double nearest to a power of ten. -/
def powerParts (n : Nat) : Nat × Int :=
  match double.nearestDecimal false 1 n with
  | .finite _ mantissa exponent => (mantissa, exponent)
  | _ => (0, 0)

/-- Whether `m * 2 ^ e` is as near to `10 ^ n` as a double of normal size has to be. -/
def NearPower (n m : Nat) (e : Int) : Prop :=
  2 ^ 52 * 2 ^ e.toNat ≤ 10 ^ n * 2 ^ (-e).toNat ∧
  2 * ((m * 2 ^ e.toNat : Int) - 10 ^ n * 2 ^ (-e).toNat).natAbs ≤ 2 ^ e.toNat

instance (n m : Nat) (e : Int) : Decidable (NearPower n m e) := inferInstanceAs (Decidable (_ ∧ _))

instance (m : Nat) (e : Int) : Decidable (IsNormal m e) :=
  decidable_of_iff (2 ^ 52 ≤ m ∧ m < 2 ^ 53 ∧ -1074 ≤ e ∧ e ≤ 971)
    ⟨fun ⟨h₁, h₂, h₃, h₄⟩ => ⟨h₁, h₂, h₃, h₄⟩, fun ⟨h₁, h₂, h₃, h₄⟩ => ⟨h₁, h₂, h₃, h₄⟩⟩

theorem powerParts_spec : ∀ n < 60, IsNormal (powerParts n).1 (powerParts n).2 ∧
    NearPower n (powerParts n).1 (powerParts n).2 ∧ ∃ hpos : 0 < (powerParts n).1,
      Json.powerOfTen n = ofParts .positive (powerParts n).1 (powerParts n).2 hpos := by
  decide +kernel

/-- A power of ten in double precision is what the power may be rounded to. -/
theorem stands_powerOfTen {n : Nat} (hn : n < 60) :
    ∃ p, Stands (Json.powerOfTen n) p ∧ Rounded (10 ^ n) p := by
  obtain ⟨hnormal, ⟨hunits, hclose⟩, hpos, hparts⟩ := powerParts_spec n hn
  generalize (powerParts n).1 = m at *
  generalize (powerParts n).2 = e at *
  refine ⟨m * 2 ^ e, ⟨m, e, hpos, hnormal, hparts, rfl⟩, Rounded.of_units le_rfl ?_ ?_⟩
  · have hcast : (2 ^ 52 * 2 ^ e.toNat : ℚ) ≤ 10 ^ n * 2 ^ (-e).toNat := by exact_mod_cast hunits
    rwa [zpow_eq_div, ← mul_div_assoc, div_le_iff₀ (by positivity)]
  · have hcast : 2 * |(m * 2 ^ e.toNat - 10 ^ n * 2 ^ (-e).toNat : ℚ)| ≤ 2 ^ e.toNat := by
      have : ((2 * ((m * 2 ^ e.toNat : Int) - 10 ^ n * 2 ^ (-e).toNat).natAbs : Nat) : ℚ) ≤
          (2 ^ e.toNat : Nat) := by exact_mod_cast hclose
      simpa using this
    have hscale : (m * 2 ^ e - 10 ^ n : ℚ) =
        (m * 2 ^ e.toNat - 10 ^ n * 2 ^ (-e).toNat) / 2 ^ (-e).toNat := by
      rw [zpow_eq_div, sub_div, mul_div_assoc, mul_div_cancel_right₀ _ (by positivity)]
    rw [hscale, zpow_eq_div, abs_div, abs_of_pos (show (0 : ℚ) < 2 ^ (-e).toNat by positivity),
      div_div, mul_comm (2 ^ (-e).toNat : ℚ), ← div_div]
    apply div_le_div_of_nonneg_right _ (by positivity)
    linarith

end PowerOfTen

end Vicinity.Number
