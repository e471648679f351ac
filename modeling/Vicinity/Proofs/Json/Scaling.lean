import Vicinity.Proofs.Number.Doubles

/-!
A word scaled by a power of ten in double precision. The power and the result are rounded once each,
so the result is at most `2 ^ -51` of itself away from the exact one.
-/

namespace Vicinity.Json

open Vicinity.Number

variable {exact result p w : ℚ}

/-- Whether a number is close to an exact one, and equal to it if the power of ten is exact and the
number is a double. -/
structure Scaled (exact : ℚ) (power : Int) (result : ℚ) : Prop where
  close : |result - exact| ≤ exact / 2 ^ 51
  same : -22 ≤ power → power ≤ 22 → ∀ (n : Nat) (e : Int), n < 2 ^ 53 → exact = n * 2 ^ e →
    result = exact

/-- The powers of ten that are doubles. -/
theorem power_exact {n : Nat} (hn : n ≤ 22) (hp : Rounded (10 ^ n) p) : p = 10 ^ n := by
  apply hp.same (5 ^ n) n
  · exact (Nat.pow_le_pow_right (by norm_num) hn).trans_lt (by norm_num)
  · rw [zpow_natCast]
    push_cast
    rw [← mul_pow]
    norm_num

theorem one_le_power {n : Nat} (hp : Rounded (10 ^ n) p) : 1 ≤ p := by
  rcases n.eq_zero_or_pos with rfl | hn
  · rw [power_exact (by norm_num) hp]
    norm_num
  · have hten : (10 : ℚ) ≤ 10 ^ n := le_self_pow₀ (by norm_num) hn.ne'
    have := (abs_le.mp hp.close).1
    norm_num at this
    linarith

/-- A product with a rounded power of ten. -/
theorem scaled_mul {n : Nat} (hw : 0 ≤ w) (hp : Rounded (10 ^ n) p) (hr : Rounded (w * p) result) :
    Scaled (w * 10 ^ (n : Int)) n result where
  close := by
    have hpower := abs_le.mp hp.close
    have hresult := abs_le.mp hr.close
    have hlow := mul_le_mul_of_nonneg_left hpower.1 hw
    have hhigh := mul_le_mul_of_nonneg_left hpower.2 hw
    have hten : (0 : ℚ) ≤ w * 10 ^ n := by positivity
    rw [zpow_natCast, abs_le]
    norm_num at hresult hlow hhigh ⊢
    constructor <;> linarith
  same := by
    intro _ hn m e hm hexact
    rw [zpow_natCast] at hexact ⊢
    rw [power_exact (by omega) hp] at hr
    exact hr.same m e hm hexact

/-- A quotient by a rounded power of ten. -/
theorem scaled_div {n : Nat} (hw : 0 ≤ w) (hp : Rounded (10 ^ n) p) (hr : Rounded (w / p) result) :
    Scaled (w * 10 ^ (-(n : Int))) (-n) result where
  close := by
    have hten : (0 : ℚ) < 10 ^ n := by positivity
    have hone := one_le_power hp
    have hp' : 0 < p := by linarith
    have hquotient : 0 ≤ w / p := div_nonneg hw hp'.le
    rw [zpow_neg, zpow_natCast, ← div_eq_mul_inv]
    have hpower : |w / 10 ^ n - w / p| ≤ w / p / 2 ^ 53 := by
      have hdiff : w / 10 ^ n - w / p = w / p * (p - 10 ^ n) / 10 ^ n := by
        field_simp
      rw [hdiff, abs_div, abs_mul, abs_of_nonneg hquotient, abs_of_pos hten, div_le_iff₀ hten]
      have := mul_le_mul_of_nonneg_left hp.close hquotient
      linarith
    have hpower' := abs_le.mp hpower
    have hresult := abs_le.mp hr.close
    rw [abs_le]
    norm_num at hresult hpower' ⊢
    constructor <;> linarith
  same := by
    intro hn _ m e hm hexact
    rw [zpow_neg, zpow_natCast, ← div_eq_mul_inv] at hexact ⊢
    rw [power_exact (by omega) hp] at hr
    exact hr.same m e hm hexact

theorem power_lt {n : Nat} (hn : n < 60) (hp : Rounded (10 ^ n) p) : p < 2 ^ (241 : Int) := by
  have hclose := (abs_le.mp hp.close).2
  have hself := div_le_self (show (0 : ℚ) ≤ 10 ^ n by positivity)
    (show (1 : ℚ) ≤ 2 ^ 53 by norm_num)
  have hten : (10 : ℚ) ^ n < 2 ^ 240 := by
    calc (10 : ℚ) ^ n ≤ 16 ^ n := by gcongr; norm_num
      _ < 16 ^ 60 := pow_lt_pow_right₀ (by norm_num) hn
      _ = 2 ^ 240 := by rw [show (16 : ℚ) = 2 ^ 4 by norm_num, ← pow_mul]
  rw [show (2 : ℚ) ^ (241 : Int) = 2 ^ 240 * 2 by rw [← pow_succ]; rfl]
  linarith

/-- Scaling a word gives a double that stands for a number close to the exact one. -/
theorem scaleBy_spec {word : Nat} {power : Int} (hpos : 0 < word) (hword : word < 2 ^ 53)
    (hleast : -60 < power) (hmost : power < 60) : ∃ x r,
    scaleBy 8 word.toUInt64.toFloat power = some x ∧ Stands x r ∧
    Scaled (word * 10 ^ power) power r := by
  have hone : (1 : ℚ) ≤ word := by exact_mod_cast hpos
  have htop : (word : ℚ) < 2 ^ (53 : Int) := by exact_mod_cast hword
  have hstands := stands_toFloat hpos hword
  obtain ⟨p, hpstands, hp⟩ := stands_powerOfTen (n := power.natAbs) (by omega)
  have hpone := one_le_power hp
  have hptop := power_lt (by omega) hp
  have hmore : ∀ {k j : Int}, k < j → (2 : ℚ) ^ k < 2 ^ j :=
    fun h => zpow_lt_zpow_right₀ (by norm_num) h
  rw [scaleBy, if_pos (by omega)]
  split
  · rename_i hsign
    have hproduct : (word : ℚ) * p < 2 ^ (1000 : Int) := by
      calc (word : ℚ) * p < 2 ^ (53 : Int) * 2 ^ (241 : Int) :=
            mul_lt_mul htop hptop.le (by linarith) (two_zpow_pos _).le
        _ = 2 ^ (294 : Int) := by rw [← zpow_add₀ (by norm_num)]; rfl
        _ < 2 ^ (1000 : Int) := hmore (by norm_num)
    obtain ⟨r, hr, hrounded⟩ := hstands.mul hpstands hone hpone hproduct
    refine ⟨_, r, ?_, hr, ?_⟩
    · dsimp only
      rw [hr.isInf]
      rfl
    · have := scaled_mul (by linarith) hp hrounded
      rwa [Int.natAbs_of_nonneg hsign] at this
  · rename_i hsign
    obtain ⟨r, hr, hrounded⟩ := hstands.div hpstands hone hpone
      (htop.trans (hmore (by norm_num))) (hptop.trans (hmore (by norm_num)))
    refine ⟨_, r, rfl, hr, ?_⟩
    have := scaled_div (by linarith) hp hrounded
    rwa [show -(power.natAbs : Int) = power by omega] at this

end Vicinity.Json
