import Mathlib.Algebra.Order.Field.Power
import Mathlib.Data.Nat.Cast.Order.Field
import Mathlib.Tactic.FieldSimp
import Mathlib.Tactic.Linarith
import Mathlib.Tactic.Positivity
import Mathlib.Tactic.Ring
import Vicinity.Number.Decimal

/-!
Ratios of natural numbers as rationals: scaling them by a power, the binary logarithm, and rounding
to the nearest natural number.
-/

namespace Vicinity.Number

section Ratio

/-- Numerator and denominator of `num / den` divided by `base ^ e`. -/
def divPower (base num den : Nat) (e : Int) : Nat × Nat :=
  if 0 ≤ e then (num, den * base ^ e.toNat) else (num * base ^ (-e).toNat, den)

variable {base num den : Nat}

theorem divPower_pos (hbase : 0 < base) (hden : 0 < den) (num : Nat) (e : Int) :
    0 < (divPower base num den e).2 := by
  unfold divPower
  split
  · exact Nat.mul_pos hden (Nat.pow_pos hbase)
  · exact hden

theorem divPower_div (base num den : Nat) (e : Int) :
    ((divPower base num den e).1 : ℚ) / (divPower base num den e).2 = num / den / base ^ e := by
  obtain ⟨n, rfl | rfl⟩ := e.eq_nat_or_neg
  · simp [divPower, div_div]
  · rcases n.eq_zero_or_pos with rfl | hn
    · simp [divPower]
    · rw [divPower, if_neg (by omega)]
      simp [zpow_neg, mul_div_right_comm]

theorem shiftRatio_pos (hden : 0 < den) (num : Nat) (e : Int) : 0 < (shiftRatio num den e).2 :=
  divPower_pos (by decide) hden num e

theorem shiftRatio_div (num den : Nat) (e : Int) :
    ((shiftRatio num den e).1 : ℚ) / (shiftRatio num den e).2 = num / den / 2 ^ e :=
  divPower_div 2 num den e

theorem scaleRatio_pos (hden : 0 < den) (num : Nat) (e : Int) : 0 < (scaleRatio num den e).2 :=
  divPower_pos (by decide) hden num e

theorem scaleRatio_div (num den : Nat) (e : Int) :
    ((scaleRatio num den e).1 : ℚ) / (scaleRatio num den e).2 = num / den / 10 ^ e :=
  divPower_div 10 num den e

end Ratio

section Nearest

variable {num den q : Nat}

theorem roundHalfEven_eq_of_nat (hden : 0 < den)
    (hlow : 2 * (q * den) < 2 * num + den ∨ q % 2 = 0 ∧ 2 * (q * den) = 2 * num + den)
    (hhigh : 2 * num < 2 * (q * den) + den ∨ q % 2 = 0 ∧ 2 * num = 2 * (q * den) + den) :
    roundHalfEven num den = q := by
  have hsplit := Nat.div_add_mod' num den
  have hrest := Nat.mod_lt num hden
  have hge : num / den ≤ q := by
    by_contra hcon
    have := Nat.mul_le_mul_right den (Nat.lt_of_not_le hcon)
    rw [Nat.succ_mul] at this
    omega
  have hle : q ≤ num / den + 1 := by
    by_contra hcon
    have := Nat.mul_le_mul_right den (Nat.lt_of_not_le hcon)
    rw [Nat.succ_mul, Nat.succ_mul] at this
    omega
  unfold roundHalfEven
  dsimp only
  rcases Nat.eq_or_lt_of_le hge with rfl | hlt
  · split
    · rfl
    · split <;> omega
  · obtain rfl : q = num / den + 1 := by omega
    rw [Nat.add_one_mul (num / den)] at hlow hhigh
    split
    · omega
    · split <;> omega

/-- What is within one half of a natural number is rounded to it, from a tie only if it is even. -/
theorem roundHalfEven_eq (hden : 0 < den)
    (hlow : (q : ℚ) - 1 / 2 < num / den ∨ q % 2 = 0 ∧ (q : ℚ) - 1 / 2 = num / den)
    (hhigh : (num : ℚ) / den < q + 1 / 2 ∨ q % 2 = 0 ∧ (num : ℚ) / den = q + 1 / 2) :
    roundHalfEven num den = q := by
  have hden' : (0 : ℚ) < den := by exact_mod_cast hden
  rw [lt_div_iff₀ hden', eq_div_iff hden'.ne'] at hlow
  rw [div_lt_iff₀ hden', div_eq_iff hden'.ne'] at hhigh
  refine roundHalfEven_eq_of_nat hden (hlow.imp (fun h => ?_) (And.imp_right fun h => ?_))
    (hhigh.imp (fun h => ?_) (And.imp_right fun h => ?_))
  · have : (2 * (q * den) : ℚ) < 2 * num + den := by linarith
    exact_mod_cast this
  · have : (2 * (q * den) : ℚ) = 2 * num + den := by linarith
    exact_mod_cast this
  · have : (2 * num : ℚ) < 2 * (q * den) + den := by linarith
    exact_mod_cast this
  · have : (2 * num : ℚ) = 2 * (q * den) + den := by linarith
    exact_mod_cast this

theorem div_le_ratio (num den : Nat) : ((num / den : Nat) : ℚ) ≤ num / den :=
  Nat.cast_div_le

theorem ratio_lt_succ (hden : 0 < den) (num : Nat) :
    (num : ℚ) / den < (num / den : Nat) + 1 := by
  have hden' : (0 : ℚ) < den := by exact_mod_cast hden
  rw [div_lt_iff₀ hden']
  have := Nat.lt_mul_div_succ num hden
  rw [Nat.mul_comm] at this
  exact_mod_cast this

/-- Rounding goes to one of the two neighbours, and to none that is further away than the other. -/
theorem roundHalfEven_cases (hden : 0 < den) (num : Nat) :
    roundHalfEven num den = num / den ∧ (num : ℚ) / den ≤ (num / den : Nat) + 1 / 2 ∨
    roundHalfEven num den = num / den + 1 ∧ ((num / den : Nat) : ℚ) + 1 / 2 ≤ num / den := by
  have hden' : (0 : ℚ) < den := by exact_mod_cast hden
  have hsplit : ((num / den : Nat) : ℚ) * den + (num % den : Nat) = num := by
    exact_mod_cast Nat.div_add_mod' num den
  have hlow (h : 2 * (num % den) ≤ den) : (num : ℚ) / den ≤ (num / den : Nat) + 1 / 2 := by
    have : (2 * (num % den : Nat) : ℚ) ≤ den := by exact_mod_cast h
    rw [div_le_iff₀ hden']
    linarith
  have hhigh (h : den ≤ 2 * (num % den)) : ((num / den : Nat) : ℚ) + 1 / 2 ≤ num / den := by
    have : (den : ℚ) ≤ 2 * (num % den : Nat) := by exact_mod_cast h
    rw [le_div_iff₀ hden']
    linarith
  unfold roundHalfEven
  dsimp only
  split
  · exact .inl ⟨rfl, hlow (by omega)⟩
  · split
    · exact .inr ⟨rfl, hhigh (by omega)⟩
    · rcases Nat.mod_two_eq_zero_or_one (num / den) with h | h
      · exact .inl ⟨by rw [h]; rfl, hlow (by omega)⟩
      · exact .inr ⟨by rw [h], hhigh (by omega)⟩

end Nearest

section Logarithm

variable {num den : Nat}

theorem two_zpow_pos (e : Int) : (0 : ℚ) < 2 ^ e := zpow_pos (by norm_num) e

theorem ten_zpow_pos (e : Int) : (0 : ℚ) < 10 ^ e := zpow_pos (by norm_num) e

/-- A power as a quotient of natural powers, one of which is one. -/
theorem zpow_eq_div (base : ℚ) (e : Int) : base ^ e = base ^ e.toNat / base ^ (-e).toNat := by
  obtain ⟨n, rfl | rfl⟩ := e.eq_nat_or_neg
  · simp
  · simp [zpow_neg]

theorem floorLog2_spec (hnum : 0 < num) (hden : 0 < den) :
    (2 : ℚ) ^ floorLog2 num den ≤ num / den ∧ (num : ℚ) / den < 2 ^ (floorLog2 num den + 1) := by
  have hden' : (0 : ℚ) < den := by exact_mod_cast hden
  have hnumLow : (2 : ℚ) ^ (num.log2 : Int) ≤ num := by
    exact_mod_cast Nat.log2_self_le hnum.ne'
  have hnumHigh : (num : ℚ) < 2 ^ ((num.log2 : Int) + 1) := by
    exact_mod_cast Nat.lt_log2_self (n := num)
  have hdenLow : (2 : ℚ) ^ (den.log2 : Int) ≤ den := by
    exact_mod_cast Nat.log2_self_le hden.ne'
  have hdenHigh : (den : ℚ) < 2 ^ ((den.log2 : Int) + 1) := by
    exact_mod_cast Nat.lt_log2_self (n := den)
  have hpos := shiftRatio_pos hden num ((num.log2 : Int) - den.log2)
  have hpos' : (0 : ℚ) < (shiftRatio num den ((num.log2 : Int) - den.log2)).2 := by
    exact_mod_cast hpos
  have hratio := shiftRatio_div num den ((num.log2 : Int) - den.log2)
  have hsub : (2 : ℚ) ^ ((num.log2 : Int) - den.log2) * 2 ^ (den.log2 : Int) =
      2 ^ (num.log2 : Int) := by
    rw [← zpow_add₀ (by norm_num)]
    congr 1
    omega
  have hbounds : (2 : ℚ) ^ ((num.log2 : Int) - den.log2 - 1) ≤ num / den ∧
      (num : ℚ) / den < 2 ^ ((num.log2 : Int) - den.log2 + 1) := by
    rw [le_div_iff₀ hden', div_lt_iff₀ hden', zpow_sub_one₀ (by norm_num),
      zpow_add_one₀ (by norm_num)]
    rw [zpow_add_one₀ (by norm_num)] at hnumHigh hdenHigh
    have := two_zpow_pos ((num.log2 : Int) - den.log2)
    constructor <;> nlinarith
  unfold floorLog2
  dsimp only
  split
  · rename_i hle
    refine ⟨?_, hbounds.2⟩
    have hone : (1 : ℚ) ≤ num / den / 2 ^ ((num.log2 : Int) - den.log2) := by
      rw [← hratio, one_le_div hpos']
      exact_mod_cast hle
    exact (one_le_div (two_zpow_pos _)).mp hone
  · rename_i hlt
    refine ⟨hbounds.1, ?_⟩
    have hone : (num : ℚ) / den / 2 ^ ((num.log2 : Int) - den.log2) < 1 := by
      rw [← hratio, div_lt_one hpos']
      exact_mod_cast Nat.lt_of_not_le hlt
    rw [sub_add_cancel]
    exact (div_lt_one (two_zpow_pos _)).mp hone

end Logarithm

end Vicinity.Number
