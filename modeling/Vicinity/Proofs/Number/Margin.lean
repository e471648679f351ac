import Vicinity.Proofs.Number.Midpoints
import Vicinity.Proofs.Number.Shortest

/-!
How far the decimal number for a single stays away from the ends of the interval of the numbers that
round to the single. It is at an end itself, or more than `2 ^ -51` of itself away from it; so a
number that is closer to it rounds to the single as well. There are two exceptions.
-/

namespace Vicinity.Number

variable {mantissa digits n : Nat} {exponent power : Int} {y : ℚ}

/-- The numbers between which the only case of a decimal number too close to a midpoint lies. -/
def Crowded (mantissa : Nat) (exponent : Int) : Prop :=
  exponent = -107 ∧ (mantissa = 11420669 ∨ mantissa = 11420670)

instance (mantissa : Nat) (exponent : Int) : Decidable (Crowded mantissa exponent) :=
  inferInstanceAs (Decidable (_ ∧ _))

/-- A decimal number that is close to an end of the interval is that end, and its power of ten is
small. -/
theorem Names.end_of_near (hholds : single.Holds mantissa exponent)
    (h : Names mantissa exponent digits power) (hwide : ¬ single.Narrow mantissa exponent)
    (hcrowded : ¬ Crowded mantissa exponent) (hn : n = 2 * mantissa + 1 ∨ n + 1 = 2 * mantissa)
    (hnear : |(digits * 10 ^ power - n * 2 ^ (exponent - 1) : ℚ)| ≤ digits * 10 ^ power / 2 ^ 51) :
    (digits * 10 ^ power : ℚ) = n * 2 ^ (exponent - 1) ∧ -12 ≤ power ∧ power ≤ 12 := by
  have hleast := hholds.least
  have hmost := hholds.most
  rw [single_minExponent] at hleast
  rw [single_maxExponent] at hmost
  have hunit := two_zpow_pos exponent
  have hhalf : (2 : ℚ) ^ (exponent - 1) = 2 ^ exponent / 2 := by
    rw [zpow_sub_one₀ (by norm_num), div_eq_mul_inv]
  have htop : (mantissa : ℚ) + 1 ≤ 2 ^ 24 := by exact_mod_cast hholds.below
  have hhigh := h.contained.bounds.2
  rw [Format.roundingInterval_high] at hhigh
  have hclose := abs_le.mp (h.near hwide)
  have hsum := abs_le.mp hnear
  have hbound : (digits * 10 ^ power : ℚ) ≤ 2 ^ 24 * 2 ^ exponent := by
    refine hhigh.trans (mul_le_mul_of_nonneg_right ?_ hunit.le)
    linarith
  have hapart : (2 : ℚ) ^ exponent / 2 ≤ 10 ^ power / 2 + digits * 10 ^ power / 2 ^ 51 := by
    rw [hhalf] at hsum
    rcases hn with rfl | hn
    · push_cast at hsum
      linarith
    · have hn' : (n : ℚ) = 2 * mantissa - 1 := by
        rw [eq_sub_iff_add_eq]
        exact_mod_cast hn
      rw [hn'] at hsum
      linarith
  have hcases := midpoint_cases hleast hmost h.positive (by omega)
    (by rw [hhalf]; norm_num at hbound hapart ⊢; linarith)
    (by rw [hhalf]; norm_num at hbound ⊢; linarith) hnear
  refine hcases.resolve_right fun hexceptional => hcrowded ?_
  obtain ⟨rfl, rfl, rfl⟩ := hexceptional
  exact ⟨rfl, by omega⟩

/-- What is close to the decimal number for a single rounds to the single, if it is the decimal
number itself where this is an end of the interval. -/
theorem Names.contains_of_close (hholds : single.Holds mantissa exponent)
    (h : Names mantissa exponent digits power) (hwide : ¬ single.Narrow mantissa exponent)
    (hcrowded : ¬ Crowded mantissa exponent)
    (hclose : |y - digits * 10 ^ power| ≤ digits * 10 ^ power / 2 ^ 51)
    (hsame : -12 ≤ power → power ≤ 12 → ∀ (n : Nat) (e : Int), n < 2 ^ 53 →
      (digits * 10 ^ power : ℚ) = n * 2 ^ e → y = digits * 10 ^ power) :
    (single.roundingInterval mantissa exponent).Contains y := by
  by_cases hmoved : y = digits * 10 ^ power
  · rw [hmoved]
    exact h.contained
  have hpositive := hholds.positive
  have hbelow : mantissa < 2 ^ 24 := hholds.below
  have hhalf : (2 : ℚ) ^ exponent = 2 * 2 ^ (exponent - 1) := by
    rw [← zpow_one_add₀ (by norm_num)]
    congr 1
    omega
  have hbounds := h.contained.bounds
  have hspread := abs_le.mp hclose
  -- No end of the interval is near, since the number would then be that end.
  have hfar : ∀ n : Nat, n = 2 * mantissa + 1 ∨ n + 1 = 2 * mantissa →
      ¬ |(digits * 10 ^ power - n * 2 ^ (exponent - 1) : ℚ)| ≤ digits * 10 ^ power / 2 ^ 51 := by
    intro n hn hnear
    obtain ⟨hend, hleast, hmost⟩ := h.end_of_near hholds hwide hcrowded hn hnear
    exact hmoved (hsame hleast hmost n (exponent - 1) (by omega) hend)
  have hlow := hfar (2 * mantissa - 1) (by omega)
  have hhigh := hfar (2 * mantissa + 1) (by omega)
  unfold Interval.Contains
  rw [Format.roundingInterval_low single exponent hpositive, Format.roundingInterval_high,
    if_neg hwide, hhalf] at hbounds ⊢
  rw [Nat.cast_sub (by omega)] at hlow
  push_cast at hlow hhigh
  refine ⟨.inl ?_, .inl ?_⟩
  · by_contra hcon
    refine hlow (abs_le.mpr ⟨?_, ?_⟩) <;> linarith
  · by_contra hcon
    refine hhigh (abs_le.mpr ⟨?_, ?_⟩) <;> linarith

section Narrow

/-- Whether a decimal number is more than `2 ^ -51` of itself away from the ends of an interval it
lies in. -/
def Interval.Apart (i : Interval) (d : Decimal) : Prop :=
  let ratio := scaleRatio d.digits 1 (-d.exponent)
  2 ^ 51 * i.low * ratio.2 < (2 ^ 51 - 1) * ratio.1 * i.den ∧
    (2 ^ 51 + 1) * ratio.1 * i.den < 2 ^ 51 * i.high * ratio.2

instance (i : Interval) (d : Decimal) : Decidable (i.Apart d) := inferInstanceAs (Decidable (_ ∧ _))

theorem Interval.Apart.contains {i : Interval} {d : Decimal} (hden : 0 < i.den) (h : i.Apart d)
    (hclose : |y - d.digits * 10 ^ d.exponent| ≤ d.digits * 10 ^ d.exponent / 2 ^ 51) :
    i.Contains y := by
  obtain ⟨hlow, hhigh⟩ := h
  have hratio := scaleRatio_div d.digits 1 (-d.exponent)
  have hscale : (0 : ℚ) < (scaleRatio d.digits 1 (-d.exponent)).2 := by
    exact_mod_cast scaleRatio_pos Nat.one_pos d.digits (-d.exponent)
  have hden' : (0 : ℚ) < i.den := by exact_mod_cast hden
  rw [Nat.cast_one, div_one, zpow_neg, div_inv_eq_mul, div_eq_iff hscale.ne'] at hratio
  have hlow' : (2 ^ 51 * i.low * (scaleRatio d.digits 1 (-d.exponent)).2 : ℚ) <
      (2 ^ 51 - 1) * (scaleRatio d.digits 1 (-d.exponent)).1 * i.den := by
    have : ((2 ^ 51 - 1 : Nat) : ℚ) = 2 ^ 51 - 1 := by norm_num
    rw [← this]
    exact_mod_cast hlow
  have hhigh' : ((2 ^ 51 + 1) * (scaleRatio d.digits 1 (-d.exponent)).1 * i.den : ℚ) <
      2 ^ 51 * i.high * (scaleRatio d.digits 1 (-d.exponent)).2 := by exact_mod_cast hhigh
  rw [hratio] at hlow' hhigh'
  have hspread := abs_le.mp hclose
  generalize (d.digits * 10 ^ d.exponent : ℚ) = x at *
  constructor
  · left
    rw [div_lt_iff₀ hden']
    have hcancel : (2 ^ 51 * i.low : ℚ) < (2 ^ 51 - 1) * x * i.den :=
      lt_of_mul_lt_mul_right (by linarith) hscale.le
    have := mul_le_mul_of_nonneg_right hspread.1 hden'.le
    linarith
  · left
    rw [lt_div_iff₀ hden']
    have hcancel : ((2 ^ 51 + 1) * x * i.den : ℚ) < 2 ^ 51 * i.high :=
      lt_of_mul_lt_mul_right (by linarith) hscale.le
    have := mul_le_mul_of_nonneg_right hspread.2 hden'.le
    linarith

/-- The decimal numbers for the powers of two are not near an end of their intervals. -/
theorem apart_powers : ∀ i < 253, (single.roundingInterval (2 ^ 23) ((i : Nat) - 148)).Apart
    (single.shortest (2 ^ 23) ((i : Nat) - 148)) := by
  decide +kernel

theorem apart_of_narrow (hholds : single.Holds mantissa exponent)
    (hnarrow : single.Narrow mantissa exponent) :
    (single.roundingInterval mantissa exponent).Apart (single.shortest mantissa exponent) := by
  obtain ⟨rfl, hleast⟩ := hnarrow
  have hmost := hholds.most
  rw [single_minExponent] at hleast
  rw [single_maxExponent] at hmost
  have := apart_powers (exponent + 148).toNat (by omega)
  rwa [show (((exponent + 148).toNat : Int) - 148) = exponent by omega] at this

end Narrow

end Vicinity.Number
