import Vicinity.Proofs.Number.Rounding

/-!
The numbers that round to a number of a binary format: an interval around it that ends half a unit
in the last place away from it, or a quarter below it where the numbers below stand closer.
-/

namespace Vicinity.Number

/-- Whether a number lies in an interval. -/
def Interval.Contains (i : Interval) (y : ℚ) : Prop :=
  ((i.low : ℚ) / i.den < y ∨ i.closed ∧ (i.low : ℚ) / i.den = y) ∧
  (y < i.high / i.den ∨ i.closed ∧ y = i.high / i.den)

theorem Interval.Contains.bounds {i : Interval} {y : ℚ} (h : i.Contains y) :
    (i.low : ℚ) / i.den ≤ y ∧ y ≤ i.high / i.den :=
  ⟨h.1.elim le_of_lt fun h => h.2.le, h.2.elim le_of_lt fun h => h.2.le⟩

namespace Format

variable {f : Format} {mantissa : Nat} {exponent : Int}

/-- Whether a positive number `mantissa * 2 ^ exponent` is one of the format, given by the least
exponent that its mantissa allows. -/
structure Holds (f : Format) (mantissa : Nat) (exponent : Int) : Prop where
  positive : 0 < mantissa
  below : mantissa < 2 ^ f.precision
  least : f.minExponent ≤ exponent
  most : exponent ≤ f.maxExponent
  normal : 2 ^ (f.precision - 1) ≤ mantissa ∨ exponent = f.minExponent

/-- Whether the numbers below a number stand closer than those above it. -/
def Narrow (f : Format) (mantissa : Nat) (exponent : Int) : Prop :=
  mantissa = 2 ^ (f.precision - 1) ∧ f.minExponent < exponent

instance (f : Format) (mantissa : Nat) (exponent : Int) : Decidable (f.Narrow mantissa exponent) :=
  inferInstanceAs (Decidable (_ ∧ _))

section Interval

variable (f mantissa exponent)

theorem roundingInterval_pos : 0 < (f.roundingInterval mantissa exponent).den := by
  unfold roundingInterval
  dsimp only
  split
  · decide
  · exact Nat.pow_pos (by decide)

/-- The bounds of a rounding interval count quarters of a unit in the last place. -/
theorem quarter_units (n : Nat) :
    ((n * (if 2 ≤ exponent then Nat.pow 2 (exponent - 2).toNat else 1) : Nat) : ℚ) /
      (f.roundingInterval mantissa exponent).den = n / 4 * 2 ^ exponent := by
  have hunit : (2 : ℚ) ^ exponent = 4 * 2 ^ (exponent - 2) := by
    rw [zpow_sub₀ (by norm_num)]
    norm_num
    ring
  unfold roundingInterval
  dsimp only
  rw [hunit, ← mul_assoc, div_mul_cancel₀ _ (by norm_num)]
  split
  · rename_i hexponent
    obtain ⟨m, rfl⟩ : ∃ m : Nat, exponent = m + 2 := ⟨(exponent - 2).toNat, by omega⟩
    simp [Nat.pow_eq]
  · rename_i hexponent
    obtain ⟨m, rfl⟩ : ∃ m : Nat, exponent = 2 - m := ⟨(2 - exponent).toNat, by omega⟩
    simp [Nat.pow_eq, zpow_neg, div_eq_mul_inv]

theorem roundingInterval_value :
    ((f.roundingInterval mantissa exponent).value : ℚ) /
      (f.roundingInterval mantissa exponent).den = mantissa * 2 ^ exponent := by
  have h := quarter_units f mantissa exponent (4 * mantissa)
  have hunits : ((4 * mantissa : Nat) : ℚ) / 4 = mantissa := by
    push_cast
    ring
  rwa [hunits] at h

theorem roundingInterval_high :
    ((f.roundingInterval mantissa exponent).high : ℚ) /
      (f.roundingInterval mantissa exponent).den = (mantissa + 1 / 2) * 2 ^ exponent := by
  have h := quarter_units f mantissa exponent (4 * mantissa + 2)
  have hunits : ((4 * mantissa + 2 : Nat) : ℚ) / 4 = mantissa + 1 / 2 := by
    push_cast
    ring
  rwa [hunits] at h

variable {mantissa}

theorem roundingInterval_low (hpos : 0 < mantissa) :
    ((f.roundingInterval mantissa exponent).low : ℚ) /
      (f.roundingInterval mantissa exponent).den =
      (mantissa - if f.Narrow mantissa exponent then 1 / 4 else 1 / 2) * 2 ^ exponent := by
  have h := quarter_units f mantissa exponent
    (4 * mantissa - if f.Narrow mantissa exponent then 1 else 2)
  have hunits : ((4 * mantissa - if f.Narrow mantissa exponent then 1 else 2 : Nat) : ℚ) / 4 =
      mantissa - if f.Narrow mantissa exponent then 1 / 4 else 1 / 2 := by
    split
    · rw [Nat.cast_sub (by omega)]
      push_cast
      ring
    · rw [Nat.cast_sub (by omega)]
      push_cast
      ring
  rw [hunits] at h
  exact h

end Interval

section Nearest

variable {num den q : Nat}

theorem round_shiftRatio (hden : 0 < den)
    (hlow : ((q : ℚ) - 1 / 2) * 2 ^ exponent < num / den ∨
      q % 2 = 0 ∧ ((q : ℚ) - 1 / 2) * 2 ^ exponent = num / den)
    (hhigh : (num : ℚ) / den < (q + 1 / 2) * 2 ^ exponent ∨
      q % 2 = 0 ∧ (num : ℚ) / den = (q + 1 / 2) * 2 ^ exponent) :
    roundHalfEven (shiftRatio num den exponent).1 (shiftRatio num den exponent).2 = q := by
  have hpos := two_zpow_pos exponent
  apply roundHalfEven_eq (shiftRatio_pos hden num exponent)
  · rwa [shiftRatio_div, lt_div_iff₀ hpos, eq_div_iff hpos.ne']
  · rwa [shiftRatio_div, div_lt_iff₀ hpos, div_eq_iff hpos.ne']

/-- Rounding to a mantissa of the format, or to one past the greatest. -/
theorem nearest_of_round (negative : Bool) (hnum : num ≠ 0)
    (hexponent : max f.minExponent (floorLog2 num den - (f.precision - 1 : Nat)) = exponent)
    (hround : roundHalfEven (shiftRatio num den exponent).1 (shiftRatio num den exponent).2 = q) :
    f.nearest negative num den =
      if q = 2 ^ f.precision then
        if f.maxExponent < exponent + 1 then .infinite negative
        else .finite negative (2 ^ (f.precision - 1)) (exponent + 1)
      else if f.maxExponent < exponent then .infinite negative
      else .finite negative q exponent := by
  unfold nearest
  rw [if_neg hnum]
  simp only [hexponent, hround, Nat.pow_eq]
  split <;> rfl

/-- What is not below the powers of two that a number's mantissa starts from is rounded in units of
its last place. -/
theorem nearest_of_normal (hholds : f.Holds mantissa exponent) (negative : Bool) (hden : 0 < den)
    (hlow : ((mantissa : ℚ) - 1 / 2) * 2 ^ exponent < num / den ∨
      mantissa % 2 = 0 ∧ ((mantissa : ℚ) - 1 / 2) * 2 ^ exponent = num / den)
    (hhigh : (num : ℚ) / den < (mantissa + 1 / 2) * 2 ^ exponent ∨
      mantissa % 2 = 0 ∧ (num : ℚ) / den = (mantissa + 1 / 2) * 2 ^ exponent)
    (hnormal : (2 : ℚ) ^ (f.precision - 1) * 2 ^ exponent ≤ num / den ∨ exponent = f.minExponent) :
    f.nearest negative num den = .finite negative mantissa exponent := by
  obtain ⟨hpositive, hbelow, hleast, hmost, -⟩ := hholds
  obtain ⟨k, hk⟩ : ∃ k, f.precision = k + 1 := Nat.exists_eq_succ_of_ne_zero fun h => by
    rw [h] at hbelow
    omega
  have hpos := two_zpow_pos exponent
  have hone : (1 : ℚ) ≤ mantissa := by exact_mod_cast hpositive
  have hratio : (0 : ℚ) < num / den :=
    lt_of_lt_of_le (mul_pos (by linarith) hpos) (hlow.elim le_of_lt fun h => h.2.le)
  have hnum : num ≠ 0 := by
    rintro rfl
    simp at hratio
  have hbelow' : (mantissa : ℚ) + 1 ≤ 2 ^ (k + 1) := by
    rw [← hk]
    exact_mod_cast hbelow
  have htop : (num : ℚ) / den < 2 ^ (exponent + (k + 1 : Nat)) := by
    rw [zpow_add₀ (by norm_num), zpow_natCast]
    have := hhigh.elim le_of_lt fun h => h.2.le
    nlinarith
  obtain ⟨hfloor, hceil⟩ := floorLog2_spec (Nat.pos_of_ne_zero hnum) hden
  have hupper : floorLog2 num den < exponent + (k + 1 : Nat) :=
    (zpow_lt_zpow_iff_right₀ (by norm_num)).mp (hfloor.trans_lt htop)
  have hexponent : max f.minExponent (floorLog2 num den - (f.precision - 1 : Nat)) = exponent := by
    rw [hk] at hnormal ⊢
    rcases hnormal with hnormal | hleast
    · have hbottom : (2 : ℚ) ^ (exponent + k) ≤ num / den := by
        rwa [zpow_add₀ (by norm_num), zpow_natCast, mul_comm]
      have hlower : exponent + k < floorLog2 num den + 1 :=
        (zpow_lt_zpow_iff_right₀ (by norm_num)).mp (hbottom.trans_lt hceil)
      omega
    · omega
  rw [nearest_of_round negative hnum hexponent (round_shiftRatio hden hlow hhigh),
    if_neg hbelow.ne, if_neg (by omega)]

/-- What is just below a power of two is rounded to it in the finer units of the numbers below. -/
theorem nearest_of_narrow (hholds : f.Holds (2 ^ (f.precision - 1)) exponent) (negative : Bool)
    (hden : 0 < den)
    (hlow : ((2 : ℚ) ^ (f.precision - 1) - 1 / 4) * 2 ^ exponent ≤ num / den)
    (hhigh : (num : ℚ) / den < 2 ^ (f.precision - 1) * 2 ^ exponent)
    (hleast : f.minExponent < exponent) :
    f.nearest negative num den = .finite negative (2 ^ (f.precision - 1)) exponent := by
  have hmost := hholds.most
  have hbelow := hholds.below
  obtain ⟨k, hk⟩ : ∃ k, f.precision = k + 1 := Nat.exists_eq_succ_of_ne_zero fun h => by
    rw [h] at hbelow
    omega
  rw [hk, Nat.add_one_sub_one] at hlow hhigh ⊢
  have hpos := two_zpow_pos (exponent - 1)
  have hunit : (2 : ℚ) ^ exponent = 2 * 2 ^ (exponent - 1) := by
    rw [← zpow_one_add₀ (by norm_num)]
    congr 1
    omega
  have hone : (1 : ℚ) ≤ 2 ^ k := one_le_pow₀ (by norm_num)
  rw [hunit] at hlow hhigh
  have hratio : (0 : ℚ) < num / den := lt_of_lt_of_le (by nlinarith) hlow
  have hnum : num ≠ 0 := by
    rintro rfl
    simp at hratio
  obtain ⟨hfloor, hceil⟩ := floorLog2_spec (Nat.pos_of_ne_zero hnum) hden
  have hupper : floorLog2 num den < exponent + k := by
    apply (zpow_lt_zpow_iff_right₀ (show (1 : ℚ) < 2 by norm_num)).mp
    rw [zpow_add₀ (by norm_num), zpow_natCast, hunit, mul_comm]
    exact hfloor.trans_lt hhigh
  have hlower : exponent - 1 + k < floorLog2 num den + 1 := by
    apply (zpow_lt_zpow_iff_right₀ (show (1 : ℚ) < 2 by norm_num)).mp
    rw [zpow_add₀ (by norm_num), zpow_natCast]
    refine lt_of_le_of_lt ?_ hceil
    nlinarith
  have hexponent : max f.minExponent (floorLog2 num den - (f.precision - 1 : Nat)) =
      exponent - 1 := by
    rw [hk]
    omega
  have hround : roundHalfEven (shiftRatio num den (exponent - 1)).1
      (shiftRatio num den (exponent - 1)).2 = 2 ^ (k + 1) := by
    have heven : 2 ^ (k + 1) % 2 = 0 := by rw [Nat.pow_succ, Nat.mul_mod_left]
    have hcast : ((2 ^ (k + 1) : Nat) : ℚ) = 2 * 2 ^ k := by
      push_cast
      ring
    apply round_shiftRatio hden
    · rw [hcast, and_iff_right heven]
      exact lt_or_eq_of_le (by linarith)
    · rw [hcast]
      exact .inl (by nlinarith)
  rw [nearest_of_round negative hnum hexponent hround, hk, if_pos rfl, sub_add_cancel,
    if_neg (by omega), Nat.add_one_sub_one]

/-- All that lies in the interval around a number is rounded to it. -/
theorem nearest_of_contains (hholds : f.Holds mantissa exponent) (negative : Bool)
    (hden : 0 < den) (h : (f.roundingInterval mantissa exponent).Contains (num / den)) :
    f.nearest negative num den = .finite negative mantissa exponent := by
  obtain ⟨hlow, hhigh⟩ := h
  have hpos := two_zpow_pos exponent
  rw [roundingInterval_low f exponent hholds.positive] at hlow
  rw [roundingInterval_high] at hhigh
  have hclosed : (f.roundingInterval mantissa exponent).closed = decide (mantissa % 2 = 0) := rfl
  rw [hclosed, decide_eq_true_eq] at hlow hhigh
  by_cases hnormal : (2 : ℚ) ^ (f.precision - 1) * 2 ^ exponent ≤ num / den ∨
    exponent = f.minExponent
  · refine nearest_of_normal hholds negative hden ?_ hhigh hnormal
    by_cases hnarrow : f.Narrow mantissa exponent
    · rw [if_pos hnarrow] at hlow
      have := hlow.elim le_of_lt fun h => h.2.le
      exact .inl (by nlinarith)
    · rwa [if_neg hnarrow] at hlow
  -- What is below a power of two is rounded in finer units, up to it.
  · obtain ⟨hbelow, hexponent⟩ := not_or.mp hnormal
    rw [not_le] at hbelow
    have hmantissa : 2 ^ (f.precision - 1) ≤ mantissa := hholds.normal.resolve_right hexponent
    have hnarrow : f.Narrow mantissa exponent := by
      refine ⟨?_, by have := hholds.least; omega⟩
      by_contra hne
      rw [if_neg fun h => hne h.1] at hlow
      have hnext : (2 : ℚ) ^ (f.precision - 1) + 1 ≤ mantissa := by
        exact_mod_cast Nat.lt_of_le_of_ne hmantissa (Ne.symm hne)
      have := hlow.elim le_of_lt fun h => h.2.le
      nlinarith
    rw [if_pos hnarrow] at hlow
    have hlow' := hlow.elim le_of_lt fun h => h.2.le
    obtain ⟨rfl, hleast⟩ := hnarrow
    push_cast at hlow'
    exact nearest_of_narrow hholds negative hden hlow' hbelow hleast

/-- A number of another format is rounded to the one in whose interval it lies. -/
theorem convert_of_contains (hholds : f.Holds mantissa exponent) (negative : Bool) {m : Nat}
    {e : Int} (h : (f.roundingInterval mantissa exponent).Contains (m * 2 ^ e)) :
    f.convert (.finite negative m e) = .finite negative mantissa exponent := by
  rw [convert]
  by_cases he : 0 ≤ e
  · rw [if_pos he]
    obtain ⟨k, rfl⟩ := Int.eq_ofNat_of_zero_le he
    apply nearest_of_contains hholds negative Nat.one_pos
    simpa using h
  · rw [if_neg he]
    obtain ⟨k, rfl⟩ : ∃ k : Nat, e = -k := ⟨(-e).toNat, by omega⟩
    apply nearest_of_contains hholds negative (Nat.pow_pos (by decide))
    simpa [zpow_neg, div_eq_mul_inv] using h

end Nearest

end Format

section Single

theorem single_minExponent : single.minExponent = -149 := by decide

theorem single_maxExponent : single.maxExponent = 104 := by decide

theorem decode_single (bits : Nat) :
    single.decode bits =
      if bits / 8388608 % 256 = 255 then
        if bits % 8388608 = 0 then .infinite (bits / 8388608 / 256 % 2 == 1) else .nan
      else if bits / 8388608 % 256 = 0 then
        .finite (bits / 8388608 / 256 % 2 == 1) (bits % 8388608) single.minExponent
      else .finite (bits / 8388608 / 256 % 2 == 1) (bits % 8388608 + 8388608)
        (single.minExponent + (bits / 8388608 % 256 - 1 : Nat)) := rfl

theorem encode_single (negative : Bool) (mantissa : Nat) (exponent : Int) :
    single.encode (.finite negative mantissa exponent) =
      (if negative then 2147483648 else 0) +
      if mantissa < 8388608 then mantissa
      else (exponent - single.minExponent + 1).toNat * 8388608 + (mantissa - 8388608) := by
  unfold Format.encode
  dsimp only
  split <;> rename_i h
  · rw [if_pos (show mantissa < 8388608 from h)]
    rfl
  · rw [if_neg (show ¬ mantissa < 8388608 from h)]
    rfl

/-- The bits of a finite single give a sign and a number of the format, or a zero, from which they
come back. -/
theorem exists_decode_single {bits : Nat} (hbits : bits < 2 ^ 32)
    (hfinite : bits % 0x80000000 < 0x7F800000) : ∃ negative mantissa exponent,
    single.decode bits = .finite negative mantissa exponent ∧
    (mantissa = 0 ∨ single.Holds mantissa exponent) ∧
    single.encode (.finite negative mantissa exponent) = bits := by
  have hsign : (if (bits / 8388608 / 256 % 2 == 1) = true then 2147483648 else 0) =
      bits / 2147483648 * 2147483648 := by
    simp only [beq_iff_eq]
    split <;> omega
  rw [decode_single, if_neg (by omega)]
  split
  · refine ⟨_, _, _, rfl, ?_, ?_⟩
    · by_cases hzero : bits % 8388608 = 0
      · exact .inl hzero
      · exact .inr ⟨by omega, by simp [single]; omega, le_rfl, by decide, .inr rfl⟩
    · rw [encode_single, hsign, if_pos (by omega)]
      omega
  · refine ⟨_, _, _, rfl, .inr ⟨by omega, ?_, ?_, ?_, ?_⟩, ?_⟩
    · simp [single]
      omega
    · omega
    · rw [single_minExponent, single_maxExponent]
      omega
    · simp [single]
    · rw [encode_single, hsign, if_neg (by omega)]
      omega

end Single

end Vicinity.Number
