import Vicinity.Proofs.Number.Nearest

/-!
The shortest decimal number that names a single. It lies in the rounding interval, it has at most
nine digits, and where the interval is symmetric no number of its grid is nearer.
-/

namespace Vicinity.Number

section Logarithm

variable {num den : Nat}

theorem lowerLog10_spec (hden : 0 < den) (fuel : Nat) {guess : Int}
    (hhigh : (num : ℚ) / den < 10 ^ (guess + 1)) (hlow : (10 : ℚ) ^ (guess - fuel) ≤ num / den) :
    (10 : ℚ) ^ lowerLog10 num den fuel guess ≤ num / den ∧
    (num : ℚ) / den < 10 ^ (lowerLog10 num den fuel guess + 1) := by
  induction fuel generalizing guess with
  | zero => exact ⟨by simpa [lowerLog10] using hlow, hhigh⟩
  | succ fuel ih =>
      have hpos : (0 : ℚ) < (scaleRatio num den guess).2 := by
        exact_mod_cast scaleRatio_pos hden num guess
      have hratio := scaleRatio_div num den guess
      rw [lowerLog10]
      dsimp only
      split
      · rename_i hle
        have hone : (1 : ℚ) ≤ num / den / 10 ^ guess := by
          rw [← hratio, one_le_div hpos]
          exact_mod_cast hle
        exact ⟨(one_le_div (ten_zpow_pos _)).mp hone, hhigh⟩
      · rename_i hlt
        have hone : (num : ℚ) / den / 10 ^ guess < 1 := by
          rw [← hratio, div_lt_one hpos]
          exact_mod_cast Nat.lt_of_not_le hlt
        apply ih
        · rw [sub_add_cancel]
          exact (div_lt_one (ten_zpow_pos _)).mp hone
        · rw [show guess - 1 - fuel = guess - (fuel + 1 : Nat) by omega]
          exact hlow

/-- Whether the powers of ten around a guess are those around the powers of two. -/
def GuessFits (b : Int) : Prop :=
  2 ^ (b + 1).toNat * 10 ^ (-(b * 30103 / 100000 + 3 + 1)).toNat ≤
    10 ^ (b * 30103 / 100000 + 3 + 1).toNat * 2 ^ (-(b + 1)).toNat ∧
  10 ^ (b * 30103 / 100000 + 3 - 8).toNat * 2 ^ (-b).toNat ≤
    2 ^ b.toNat * 10 ^ (-(b * 30103 / 100000 + 3 - 8)).toNat

instance (b : Int) : Decidable (GuessFits b) := inferInstanceAs (Decidable (_ ∧ _))

theorem guessFits : ∀ i < 400, GuessFits ((i : Nat) - 200) := by decide +kernel

theorem floorLog10_spec (hnum : 0 < num) (hden : 0 < den)
    (hleast : -200 ≤ floorLog2 num den) (hmost : floorLog2 num den < 200) :
    (10 : ℚ) ^ floorLog10 num den ≤ num / den ∧
    (num : ℚ) / den < 10 ^ (floorLog10 num den + 1) := by
  obtain ⟨hfloor, hceil⟩ := floorLog2_spec hnum hden
  obtain ⟨i, hi⟩ : ∃ i : Nat, floorLog2 num den = i - 200 :=
    ⟨(floorLog2 num den + 200).toNat, by omega⟩
  obtain ⟨hupper, hlower⟩ := guessFits i (by omega)
  rw [← hi] at hupper hlower
  apply lowerLog10_spec hden
  · refine hceil.trans_le ?_
    rw [zpow_eq_div 2, zpow_eq_div 10, div_le_div_iff₀ (by positivity) (by positivity)]
    exact_mod_cast hupper
  · refine le_trans ?_ hfloor
    rw [zpow_eq_div 2, zpow_eq_div 10, div_le_div_iff₀ (by positivity) (by positivity)]
    exact_mod_cast hlower

end Logarithm

section Pick

variable {i : Interval} {digits : Nat} {exponent : Int}

theorem has_iff (hden : 0 < i.den) (digits : Nat) (exponent : Int) :
    i.has digits exponent = true ↔ i.Contains (digits * 10 ^ exponent) := by
  have hden' : (0 : ℚ) < i.den := by exact_mod_cast hden
  have hunit : (0 : ℚ) < 10 ^ (-exponent).toNat := by positivity
  have hscale : (if 0 ≤ exponent then Nat.pow 10 exponent.toNat else 1) = 10 ^ exponent.toNat := by
    split
    · rfl
    · rw [Int.toNat_of_nonpos (by omega), Nat.pow_zero]
  have hunit' : (if 0 ≤ exponent then 1 else Nat.pow 10 (-exponent).toNat) =
      10 ^ (-exponent).toNat := by
    split
    · rw [Int.toNat_of_nonpos (by omega), Nat.pow_zero]
    · rfl
  have hlt (n : Nat) : n * 10 ^ (-exponent).toNat < digits * 10 ^ exponent.toNat * i.den ↔
      (n : ℚ) / i.den < digits * 10 ^ exponent := by
    rw [zpow_eq_div, div_lt_iff₀ hden', ← mul_div_assoc, div_mul_eq_mul_div, lt_div_iff₀ hunit]
    exact_mod_cast Iff.rfl
  have hgt (n : Nat) : digits * 10 ^ exponent.toNat * i.den < n * 10 ^ (-exponent).toNat ↔
      (digits * 10 ^ exponent : ℚ) < n / i.den := by
    rw [zpow_eq_div, lt_div_iff₀ hden', ← mul_div_assoc, div_mul_eq_mul_div, div_lt_iff₀ hunit]
    exact_mod_cast Iff.rfl
  have heq (n : Nat) : n * 10 ^ (-exponent).toNat = digits * 10 ^ exponent.toNat * i.den ↔
      (n : ℚ) / i.den = digits * 10 ^ exponent := by
    rw [zpow_eq_div, div_eq_iff hden'.ne', ← mul_div_assoc, div_mul_eq_mul_div,
      eq_div_iff hunit.ne']
    exact_mod_cast Iff.rfl
  unfold Interval.has Interval.Contains
  simp only [hscale, hunit', Bool.and_eq_true, Bool.or_eq_true, decide_eq_true_eq, beq_iff_eq,
    hlt, hgt, heq, eq_comm (a := digits * 10 ^ exponent.toNat * i.den),
    eq_comm (a := (digits * 10 ^ exponent : ℚ))]

/-- The points of a grid around the value of an interval. -/
theorem grid_bounds (hden : 0 < i.den) {n d : Nat}
    (hratio : scaleRatio i.value i.den exponent = (n, d)) :
    0 < d ∧ ((n : ℚ) / d) * 10 ^ exponent = i.value / i.den ∧
    ((n / d : Nat) : ℚ) * 10 ^ exponent ≤ i.value / i.den ∧
    (i.value : ℚ) / i.den < ((n / d : Nat) + 1) * 10 ^ exponent := by
  have hpos := scaleRatio_pos hden i.value exponent
  have hdiv := scaleRatio_div i.value i.den exponent
  have hunit := ten_zpow_pos exponent
  rw [hratio] at hpos hdiv
  refine ⟨hpos, by rw [hdiv, div_mul_cancel₀ _ hunit.ne'], ?_, ?_⟩
  · rw [← le_div_iff₀ hunit, ← hdiv]
    exact div_le_ratio n d
  · rw [← div_lt_iff₀ hunit, ← hdiv]
    exact ratio_lt_succ hpos n

/-- What is picked lies in the interval and is one of the two points of the grid around its value,
of which the nearer one if the interval is symmetric. -/
theorem pick_spec (hden : 0 < i.den) (h : i.pick exponent = some digits) :
    i.Contains (digits * 10 ^ exponent) ∧
    (digits * 10 ^ exponent : ℚ) ≤ i.value / i.den + 10 ^ exponent ∧
    ((i.value : ℚ) / i.den - i.low / i.den = i.high / i.den - i.value / i.den →
      |digits * 10 ^ exponent - (i.value : ℚ) / i.den| ≤ 10 ^ exponent / 2) := by
  have hunit := ten_zpow_pos exponent
  rcases hratio : scaleRatio i.value i.den exponent with ⟨n, d⟩
  obtain ⟨hd, hvalue, hbelow, habove⟩ := grid_bounds hden hratio
  rw [Interval.pick, hratio] at h
  dsimp only at h
  have hup := has_iff hden (n / d + 1) exponent
  have hdown := has_iff hden (n / d) exponent
  push_cast at hup
  have hstep : (((n / d : Nat) : ℚ) + 1) * 10 ^ exponent =
      (n / d : Nat) * 10 ^ exponent + 10 ^ exponent := by ring
  cases hdown' : i.has (n / d) exponent <;> cases hup' : i.has (n / d + 1) exponent <;>
    rw [hdown', hup'] at h
  · exact absurd h (by simp)
  · obtain rfl := Option.some.inj h
    have hcontains := hup.mp hup'
    have hbounds := hcontains.bounds
    -- The point below is at least as far away as the end of the interval.
    have hout : ((n / d : Nat) : ℚ) * 10 ^ exponent ≤ i.low / i.den := by
      by_contra hin
      have := hdown.mpr ⟨.inl (not_le.mp hin), .inl (by linarith)⟩
      rw [hdown'] at this
      exact absurd this (by decide)
    push_cast
    refine ⟨hcontains, by linarith, fun hsymmetric => ?_⟩
    rw [abs_le]
    constructor <;> linarith
  · obtain rfl := Option.some.inj h
    have hcontains := hdown.mp hdown'
    have hbounds := hcontains.bounds
    have hout : (i.high : ℚ) / i.den ≤ ((n / d : Nat) + 1) * 10 ^ exponent := by
      by_contra hin
      have := hup.mpr ⟨.inl (by linarith), .inl (not_le.mp hin)⟩
      rw [hup'] at this
      exact absurd this (by decide)
    refine ⟨hcontains, by linarith, fun hsymmetric => ?_⟩
    rw [abs_le]
    constructor <;> linarith
  · obtain rfl := Option.some.inj h
    rcases roundHalfEven_cases hd n with ⟨hround, hnear⟩ | ⟨hround, hnear⟩
    · have := mul_le_mul_of_nonneg_right hnear hunit.le
      rw [hround]
      refine ⟨hdown.mp hdown', by linarith, fun _ => ?_⟩
      rw [abs_le]
      constructor <;> linarith
    · have := mul_le_mul_of_nonneg_right hnear hunit.le
      rw [hround]
      push_cast
      refine ⟨hup.mp hup', by linarith, fun _ => ?_⟩
      rw [abs_le]
      constructor <;> linarith

/-- The point of the grid below the value is picked, or the one above it, if it lies in the
interval. -/
theorem exists_pick (hden : 0 < i.den)
    (hlow : (i.low : ℚ) / i.den + 10 ^ exponent ≤ i.value / i.den)
    (hhigh : (i.value : ℚ) / i.den < i.high / i.den) : ∃ digits, i.pick exponent = some digits := by
  rcases hratio : scaleRatio i.value i.den exponent with ⟨n, d⟩
  obtain ⟨-, -, hbelow, habove⟩ := grid_bounds hden hratio
  have hdown : i.has (n / d) exponent = true :=
    (has_iff hden _ _).mpr ⟨.inl (by linarith), .inl (by linarith)⟩
  rw [Interval.pick, hratio]
  simp only [hdown]
  cases i.has (n / d + 1) exponent
  · exact ⟨_, rfl⟩
  · exact ⟨_, rfl⟩

end Pick

section Search

variable {i : Interval} {lead : Int}

/-- The search ends at the first grid that has a point in the interval. -/
theorem search_spec {most : Nat} (hpick : ∃ digits, i.pick (lead + 1 - most) = some digits) :
    ∀ (fuel : Nat) {count : Nat}, count ≤ most → most < count + fuel →
    ∃ c digits, c ≤ most ∧ i.pick (lead + 1 - c) = some digits ∧
      i.search lead fuel count = ⟨digits, lead + 1 - c⟩ := by
  intro fuel
  induction fuel with
  | zero => omega
  | succ fuel ih =>
      intro count hle hlt
      rw [Interval.search]
      cases hfirst : i.pick (lead + 1 - count) with
      | some digits => exact ⟨count, digits, hle, hfirst, rfl⟩
      | none =>
          rcases Nat.eq_or_lt_of_le hle with rfl | hmore
          · obtain ⟨digits, hdigits⟩ := hpick
            rw [hfirst] at hdigits
            exact absurd hdigits (by simp)
          · exact ih hmore (by omega)

/-- Only zeros at the end are removed. -/
theorem strip_spec (fuel : Nat) (d : Decimal) : ∃ zeros : Nat,
    d.digits = (d.strip fuel).digits * 10 ^ zeros ∧
      (d.strip fuel).exponent = d.exponent + zeros := by
  induction fuel generalizing d with
  | zero => exact ⟨0, by simp [Decimal.strip]⟩
  | succ fuel ih =>
      rw [Decimal.strip]
      split
      · rename_i hzero
        obtain ⟨zeros, hdigits, hexponent⟩ := ih ⟨d.digits / 10, d.exponent + 1⟩
        refine ⟨zeros + 1, ?_, ?_⟩
        · rw [pow_succ, ← mul_assoc, ← hdigits]
          exact (Nat.div_mul_cancel (Nat.dvd_of_mod_eq_zero hzero.2)).symm
        · rw [hexponent]
          push_cast
          omega
      · exact ⟨0, by simp⟩

end Search

section Single

variable {mantissa : Nat} {exponent : Int}

/-- The powers of two around a number of the format. -/
theorem single_bounds (h : single.Holds mantissa exponent) :
    (2 : ℚ) ^ (-149 : Int) ≤ mantissa * 2 ^ exponent ∧
    (mantissa * 2 ^ exponent : ℚ) < 2 ^ (128 : Int) := by
  obtain ⟨hpositive, hbelow, hleast, hmost, -⟩ := h
  rw [single_minExponent] at hleast
  rw [single_maxExponent] at hmost
  have hone : (1 : ℚ) ≤ mantissa := by exact_mod_cast hpositive
  have htop : (mantissa : ℚ) < 2 ^ (24 : Int) := by exact_mod_cast hbelow
  have hpos := two_zpow_pos exponent
  constructor
  · calc (2 : ℚ) ^ (-149 : Int) ≤ 2 ^ exponent := zpow_le_zpow_right₀ (by norm_num) hleast
      _ ≤ mantissa * 2 ^ exponent := le_mul_of_one_le_left hpos.le hone
  · calc (mantissa * 2 ^ exponent : ℚ) < 2 ^ (24 : Int) * 2 ^ exponent :=
        mul_lt_mul_of_pos_right htop hpos
      _ = 2 ^ (24 + exponent) := by rw [zpow_add₀ (by norm_num)]
      _ ≤ 2 ^ (128 : Int) := zpow_le_zpow_right₀ (by norm_num) (by omega)

/-- The shortest decimal number for a single, before the zeros at its end are removed. -/
structure Names (mantissa : Nat) (exponent : Int) (digits : Nat) (power : Int) : Prop where
  positive : 0 < digits
  short : digits ≤ 10 ^ 9
  contained : (single.roundingInterval mantissa exponent).Contains (digits * 10 ^ power)
  near : ¬ single.Narrow mantissa exponent →
    |(digits * 10 ^ power - mantissa * 2 ^ exponent : ℚ)| ≤ 10 ^ power / 2

/-- A number of at most nine digits is found. -/
theorem exists_pick_nine (h : single.Holds mantissa exponent) {lead : Int}
    (hlead : (10 : ℚ) ^ lead ≤ mantissa * 2 ^ exponent) :
    ∃ digits, (single.roundingInterval mantissa exponent).pick (lead + 1 - (9 : Nat)) =
      some digits := by
  have hpos := two_zpow_pos exponent
  have htop : (mantissa : ℚ) < 2 ^ 24 := by exact_mod_cast h.below
  have hgrid : (10 : ℚ) ^ (lead + 1 - (9 : Nat)) * 10 ^ 8 = 10 ^ lead := by
    rw [← zpow_natCast, ← zpow_add₀ (by norm_num)]
    congr 1
    push_cast
    omega
  apply exists_pick (single.roundingInterval_pos mantissa exponent)
  · rw [Format.roundingInterval_low single exponent h.positive, Format.roundingInterval_value]
    have hfine : (10 : ℚ) ^ (lead + 1 - (9 : Nat)) ≤ 1 / 4 * 2 ^ exponent := by
      norm_num at hgrid ⊢
      nlinarith
    split <;> nlinarith
  · rw [Format.roundingInterval_value, Format.roundingInterval_high]
    linarith

/-- The powers of ten around a number of the format, as they are computed. -/
theorem floorLog10_single (h : single.Holds mantissa exponent) {i : Interval}
    (hi : single.roundingInterval mantissa exponent = i) :
    (10 : ℚ) ^ floorLog10 i.value i.den ≤ mantissa * 2 ^ exponent ∧
    (mantissa * 2 ^ exponent : ℚ) < 10 ^ (floorLog10 i.value i.den + 1) := by
  have hden := single.roundingInterval_pos mantissa exponent
  have hvalue := Format.roundingInterval_value single mantissa exponent
  obtain ⟨hleast, hmost⟩ := single_bounds h
  rw [hi] at hden hvalue
  have hnum : 0 < i.value := by
    rw [Nat.pos_iff_ne_zero]
    intro hzero
    rw [hzero, Nat.cast_zero, zero_div] at hvalue
    rw [← hvalue] at hleast
    exact absurd hleast (not_le.mpr (two_zpow_pos _))
  obtain ⟨hfloor, hceil⟩ := floorLog2_spec hnum hden
  rw [hvalue] at hfloor hceil
  have hlogLow : (-149 : Int) < floorLog2 i.value i.den + 1 :=
    (zpow_lt_zpow_iff_right₀ (by norm_num)).mp (hleast.trans_lt hceil)
  have hlogHigh : floorLog2 i.value i.den < 128 :=
    (zpow_lt_zpow_iff_right₀ (by norm_num)).mp (hfloor.trans_lt hmost)
  rw [← hvalue]
  exact floorLog10_spec hnum hden (by omega) (by omega)

theorem shortest_spec (h : single.Holds mantissa exponent) :
    ∃ digits power, ∃ zeros : Nat, Names mantissa exponent digits power ∧
      digits = (single.shortest mantissa exponent).digits * 10 ^ zeros ∧
      (single.shortest mantissa exponent).exponent = power + zeros := by
  have hone : (1 : ℚ) ≤ mantissa := by exact_mod_cast h.positive
  have hunit := two_zpow_pos exponent
  have hshortest : single.shortest mantissa exponent =
      ((single.roundingInterval mantissa exponent).search
        (floorLog10 (single.roundingInterval mantissa exponent).value
          (single.roundingInterval mantissa exponent).den) 17 1).strip 20 := by
    rw [Format.shortest, if_neg h.positive.ne']
  obtain ⟨hlead, hlead'⟩ := floorLog10_single h rfl
  generalize floorLog10 (single.roundingInterval mantissa exponent).value
    (single.roundingInterval mantissa exponent).den = lead at *
  obtain ⟨c, digits, hc, hpick, hsearch⟩ :=
    search_spec (exists_pick_nine h hlead) 17 (show 1 ≤ 9 by omega) (by omega)
  obtain ⟨hcontains, hnear, hnearest⟩ :=
    pick_spec (single.roundingInterval_pos mantissa exponent) hpick
  obtain ⟨zeros, hdigits, hexponent⟩ := strip_spec 20 ⟨digits, lead + 1 - c⟩
  have hpower := ten_zpow_pos (lead + 1 - c)
  have hlow := hcontains.bounds.1
  rw [Format.roundingInterval_value] at hnear hnearest
  rw [Format.roundingInterval_high] at hnearest
  rw [Format.roundingInterval_low single exponent h.positive] at hlow hnearest
  rw [hshortest, hsearch]
  refine ⟨digits, lead + 1 - c, zeros, ⟨?_, ?_, hcontains, fun hwide => ?_⟩, hdigits, hexponent⟩
  · rw [Nat.pos_iff_ne_zero]
    rintro rfl
    rw [Nat.cast_zero, zero_mul] at hlow
    have : (0 : ℚ) < (mantissa - if single.Narrow mantissa exponent then 1 / 4 else 1 / 2) *
        2 ^ exponent := mul_pos (by split <;> linarith) hunit
    linarith
  · have htop : (10 : ℚ) ^ (lead + 1) = 10 ^ c * 10 ^ (lead + 1 - c) := by
      rw [← zpow_natCast, ← zpow_add₀ (by norm_num)]
      congr 1
      omega
    have hlt : (digits : ℚ) < 10 ^ c + 1 := by
      apply lt_of_mul_lt_mul_right _ hpower.le
      linarith
    have hle : digits ≤ 10 ^ c := by
      have : digits < 10 ^ c + 1 := by exact_mod_cast hlt
      omega
    exact hle.trans (Nat.pow_le_pow_right (by norm_num) hc)
  · rw [if_neg hwide] at hnearest
    exact hnearest (by ring)

/-- A decimal number of few digits between the least and the greatest single has no large power of
ten. -/
theorem power_range {n : Nat} {k : Int} (hpos : 0 < n) (hshort : n ≤ 10 ^ 9)
    (hleast : (2 : ℚ) ^ (-149 : Int) / 2 ≤ n * 10 ^ k)
    (hmost : (n * 10 ^ k : ℚ) ≤ 2 * 2 ^ (128 : Int)) : k.natAbs < 60 := by
  have hn : (1 : ℚ) ≤ n := by exact_mod_cast hpos
  have hn' : (n : ℚ) ≤ 10 ^ 9 := by exact_mod_cast hshort
  have hk := ten_zpow_pos k
  have htop : (10 : ℚ) ^ k < 10 ^ (43 : Int) := by
    calc (10 : ℚ) ^ k ≤ n * 10 ^ k := le_mul_of_one_le_left hk.le hn
      _ ≤ 2 * 2 ^ (128 : Int) := hmost
      _ < 10 ^ (43 : Int) := by norm_num
  have hbottom : (10 : ℚ) ^ (-60 : Int) < 10 ^ k := by
    have hhalf : (2 : ℚ) ^ (-149 : Int) / 2 ≤ 10 ^ k * 10 ^ 9 := by
      calc (2 : ℚ) ^ (-149 : Int) / 2 ≤ n * 10 ^ k := hleast
        _ ≤ 10 ^ 9 * 10 ^ k := mul_le_mul_of_nonneg_right hn' hk.le
        _ = 10 ^ k * 10 ^ 9 := mul_comm _ _
    have hsmall : (10 : ℚ) ^ (-60 : Int) * 10 ^ 9 < 2 ^ (-149 : Int) / 2 := by norm_num
    exact lt_of_mul_lt_mul_right (hsmall.trans_le hhalf) (by norm_num)
  have hlt := (zpow_lt_zpow_iff_right₀ (show (1 : ℚ) < 10 by norm_num)).mp htop
  have hgt := (zpow_lt_zpow_iff_right₀ (show (1 : ℚ) < 10 by norm_num)).mp hbottom
  omega

/-- The shortest decimal number for a single has few digits and no large power of ten. -/
theorem shortest_bounds (h : single.Holds mantissa exponent) :
    0 < (single.shortest mantissa exponent).digits ∧
    (single.shortest mantissa exponent).digits ≤ 10 ^ 9 ∧
    (single.shortest mantissa exponent).exponent.natAbs < 60 := by
  obtain ⟨digits, power, zeros, hnames, hdigits, hexponent⟩ := shortest_spec h
  obtain ⟨hleast, hmost⟩ := single_bounds h
  have hone : (1 : ℚ) ≤ mantissa := by exact_mod_cast h.positive
  have hunit := two_zpow_pos exponent
  have hbounds := hnames.contained.bounds
  rw [Format.roundingInterval_low single exponent h.positive, Format.roundingInterval_high]
    at hbounds
  have hvalue : (digits * 10 ^ power : ℚ) = (single.shortest mantissa exponent).digits *
      10 ^ (single.shortest mantissa exponent).exponent := by
    rw [hdigits, hexponent, zpow_add₀ (by norm_num), zpow_natCast]
    push_cast
    ring
  have hpos : 0 < (single.shortest mantissa exponent).digits :=
    Nat.pos_of_mul_pos_right (hdigits ▸ hnames.positive)
  have hshort : (single.shortest mantissa exponent).digits ≤ 10 ^ 9 :=
    (Nat.le_mul_of_pos_right _ (Nat.pow_pos (by decide))).trans (hdigits ▸ hnames.short)
  rw [hvalue] at hbounds
  refine ⟨hpos, hshort, power_range hpos hshort (le_trans ?_ hbounds.1) (hbounds.2.trans ?_)⟩
  · calc (2 : ℚ) ^ (-149 : Int) / 2 ≤ mantissa * 2 ^ exponent / 2 :=
          div_le_div_of_nonneg_right hleast two_pos.le
      _ ≤ (mantissa - if single.Narrow mantissa exponent then 1 / 4 else 1 / 2) *
          2 ^ exponent := by split <;> nlinarith
  · calc (mantissa + 1 / 2 : ℚ) * 2 ^ exponent ≤ 2 * (mantissa * 2 ^ exponent) := by nlinarith
      _ ≤ 2 * 2 ^ (128 : Int) := by linarith

end Single

end Vicinity.Number
