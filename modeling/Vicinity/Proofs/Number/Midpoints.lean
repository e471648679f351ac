import Mathlib.Tactic.LinearCombination
import Vicinity.Proofs.Number.Rounding

/-!
Short decimal numbers next to a midpoint of two singles. A midpoint is an odd multiple of half a
unit in the last place. For each unit and each power of ten, two fractions around their ratio tell
which multiples of the one come close to a multiple of the other. There is one case in which a
decimal number is less than `2 ^ -51` of itself away from a midpoint without being it.
-/

namespace Vicinity.Number

section Neighbours

/-- Two fractions `p / q` and `p' / q'` on both sides of `a / b`, with how far off they are. All
fractions between the two have a denominator of at least `q + q'`. -/
structure Neighbours (a b p q p' q' left right : Nat) : Prop where
  unimodular : p' * q = p * q' + 1
  below : q * a = p * b + left
  above : p' * b = q' * a + right

variable {a b p q p' q' left right m n most : Nat}

/-- A sum of both neighbours is at least as far off as they are together, since its coefficients
differ in sign: where they have the same sign, the denominator is too great. -/
theorem gap_le {s t : Int} (hpos : 0 < s * q + t * q') (hmost : s * q + t * q' ≤ most)
    (hspread : most < q + q' ∨ left = 0 ∨ right = 0) (hs : s ≠ 0) (ht : t ≠ 0) :
    (left + right : Int) ≤ |(s * left - t * right : Int)| := by
  zify at hspread
  have hq : (0 : Int) ≤ q := Int.natCast_nonneg q
  have hq' : (0 : Int) ≤ q' := Int.natCast_nonneg q'
  have hleft : (0 : Int) ≤ left := Int.natCast_nonneg left
  have hright : (0 : Int) ≤ right := Int.natCast_nonneg right
  rw [le_abs]
  rcases lt_or_gt_of_ne hs with hsneg | hspos <;> rcases lt_or_gt_of_ne ht with htneg | htpos
  · have := mul_nonneg (neg_nonneg.mpr hsneg.le) hq
    have := mul_nonneg (neg_nonneg.mpr htneg.le) hq'
    linarith
  · have := le_mul_of_one_le_left hleft (show (1 : Int) ≤ -s by omega)
    have := le_mul_of_one_le_left hright (show (1 : Int) ≤ t by omega)
    exact .inr (by linarith)
  · have := le_mul_of_one_le_left hleft (show (1 : Int) ≤ s by omega)
    have := le_mul_of_one_le_left hright (show (1 : Int) ≤ -t by omega)
    exact .inl (by linarith)
  · rcases hspread with hspread | hexact | hexact
    · have := le_mul_of_one_le_left hq (show (1 : Int) ≤ s by omega)
      have := le_mul_of_one_le_left hq' (show (1 : Int) ≤ t by omega)
      linarith
    · have := le_mul_of_one_le_left hright (show (1 : Int) ≤ t by omega)
      rw [hexact]
      exact .inr (by linarith)
    · have := le_mul_of_one_le_left hleft (show (1 : Int) ≤ s by omega)
      rw [hexact]
      exact .inl (by linarith)

/-- A multiple of `a` that is close to one of `b` is a multiple of one of the neighbours. -/
theorem Neighbours.eq_of_near (h : Neighbours a b p q p' q' left right) (hpos : 0 < m)
    (hmost : m ≤ most) (hspread : most < q + q' ∨ left = 0 ∨ right = 0)
    (hgap : most * a < 2 ^ 51 * (left + right))
    (hnear : 2 ^ 51 * ((m * a : Int) - n * b).natAbs ≤ m * a) :
    (∃ s, m = s * q ∧ n = s * p) ∨ ∃ t, m = t * q' ∧ n = t * p' := by
  obtain ⟨hunimodular, hbelow, habove⟩ := h
  zify at hunimodular hbelow habove hpos hmost hgap hnear
  -- Every pair of integers is a combination of the two neighbours.
  obtain ⟨s, hs⟩ : ∃ s : Int, s = m * p' - n * q' := ⟨_, rfl⟩
  obtain ⟨t, ht⟩ : ∃ t : Int, t = n * q - m * p := ⟨_, rfl⟩
  have hm : (m : Int) = s * q + t * q' := by
    rw [hs, ht]
    linear_combination (-m : Int) * hunimodular
  have hn : (n : Int) = s * p + t * p' := by
    rw [hs, ht]
    linear_combination (-n : Int) * hunimodular
  have hdiff : (m * a - n * b : Int) = s * left - t * right := by
    rw [hm, hn]
    linear_combination s * hbelow - t * habove
  have hq : (0 : Int) ≤ q := Int.natCast_nonneg q
  have hq' : (0 : Int) ≤ q' := Int.natCast_nonneg q'
  rcases eq_or_ne t 0 with rfl | htne
  · rw [zero_mul, add_zero] at hm hn
    have hspos : 0 < s := pos_of_mul_pos_left (hm ▸ hpos) hq
    lift s to Nat using hspos.le
    exact .inl ⟨s, by exact_mod_cast hm, by exact_mod_cast hn⟩
  rcases eq_or_ne s 0 with rfl | hsne
  · rw [zero_mul, zero_add] at hm hn
    have htpos : 0 < t := pos_of_mul_pos_left (hm ▸ hpos) hq'
    lift t to Nat using htpos.le
    exact .inr ⟨t, by exact_mod_cast hm, by exact_mod_cast hn⟩
  exfalso
  have hfar : (left + right : Int) ≤ |(m * a - n * b : Int)| := by
    rw [hdiff]
    exact gap_le (hm ▸ hpos) (hm ▸ hmost) hspread hsne htne
  have hscaled : (m * a : Int) ≤ most * a :=
    mul_le_mul_of_nonneg_right hmost (Int.natCast_nonneg a)
  linarith

end Neighbours

section Certificate

/-- Two fractions on both sides of a ratio, and how far off they are. -/
structure Bracket where
  p : Nat
  q : Nat
  p' : Nat
  q' : Nat
  left : Nat
  right : Nat

/-- Moves each fraction towards the other as far as the ratio and the greatest denominator allow. -/
def Bracket.narrow (most : Nat) : Nat → Bracket → Bracket
  | 0, f => f
  | fuel + 1, f =>
    let i := min (f.right / f.left) ((most - f.q') / f.q)
    let f := { f with p' := f.p' + i * f.p, q' := f.q' + i * f.q, right := f.right - i * f.left }
    let j := min (f.left / f.right) ((most - f.q) / f.q')
    let f := { f with p := f.p + j * f.p', q := f.q + j * f.q', left := f.left - j * f.right }
    if i = 0 ∧ j = 0 then f else f.narrow most fuel

def bracket (a b most : Nat) : Bracket :=
  Bracket.narrow most 20 ⟨a / b, 1, a / b + 1, 1, a % b, b - a % b⟩

/-- Numerator and denominator of a power of ten in halves of a unit in the last place. -/
def halfUnits (exponent power : Int) : Nat × Nat :=
  (10 ^ power.toNat * 2 ^ (1 - exponent).toNat, 10 ^ (-power).toNat * 2 ^ (exponent - 1).toNat)

/-- The only power of ten and unit for which a decimal number comes too close to a midpoint. -/
def Exceptional (exponent power : Int) (midpoint : Nat) : Prop :=
  exponent = -107 ∧ power = -32 ∧ midpoint = 22841339

instance (exponent power : Int) (midpoint : Nat) :
    Decidable (Exceptional exponent power midpoint) :=
  inferInstanceAs (Decidable (_ ∧ _ ∧ _))

/-- Whether the multiples of a fraction are no midpoints, or not close to the ratio, or equal to it
for a small power of ten. -/
def Harmless (a p q gap : Nat) (power : Int) : Prop :=
  p % 2 = 0 ∨ q * a < 2 ^ 51 * gap ∨ gap = 0 ∧ -12 ≤ power ∧ power ≤ 12

instance (a p q gap : Nat) (power : Int) : Decidable (Harmless a p q gap power) :=
  inferInstanceAs (Decidable (_ ∨ _ ∨ _))

instance (a b p q p' q' left right : Nat) : Decidable (Neighbours a b p q p' q' left right) :=
  decidable_of_iff (p' * q = p * q' + 1 ∧ q * a = p * b + left ∧ p' * b = q' * a + right)
    ⟨fun ⟨h₁, h₂, h₃⟩ => ⟨h₁, h₂, h₃⟩, fun ⟨h₁, h₂, h₃⟩ => ⟨h₁, h₂, h₃⟩⟩

/-- What is checked for a unit and a power of ten: no fraction of a denominator that matters is
both close to their ratio and a midpoint. -/
structure Bracket.Separates (a b most : Nat) (exponent power : Int) (f : Bracket) : Prop where
  neighbours : Neighbours a b f.p f.q f.p' f.q' f.left f.right
  spread : most < f.q + f.q' ∨ f.left = 0 ∨ f.right = 0
  gap : most * a < 2 ^ 51 * (f.left + f.right)
  left : Harmless a f.p f.q f.left power
  right : Harmless a f.p' f.q' f.right power ∨
    Exceptional exponent power f.p' ∧ most < 2 * f.q'

instance (a b most : Nat) (exponent power : Int) (f : Bracket) :
    Decidable (f.Separates a b most exponent power) :=
  decidable_of_iff (Neighbours a b f.p f.q f.p' f.q' f.left f.right ∧
    (most < f.q + f.q' ∨ f.left = 0 ∨ f.right = 0) ∧ most * a < 2 ^ 51 * (f.left + f.right) ∧
    Harmless a f.p f.q f.left power ∧
    (Harmless a f.p' f.q' f.right power ∨ Exceptional exponent power f.p' ∧ most < 2 * f.q'))
    ⟨fun ⟨h₁, h₂, h₃, h₄, h₅⟩ => ⟨h₁, h₂, h₃, h₄, h₅⟩,
      fun ⟨h₁, h₂, h₃, h₄, h₅⟩ => ⟨h₁, h₂, h₃, h₄, h₅⟩⟩

/-- Whether a unit and a power of ten, if they go together at all, pass the check. -/
def Certified (exponent power : Int) : Prop :=
  let (a, b) := halfUnits exponent power
  2 ^ 25 * b ≤ (2 ^ 24 + 1) * a → a ≤ 2 ^ 25 * b →
    (bracket a b (2 ^ 25 * b / a)).Separates a b (2 ^ 25 * b / a) exponent power

instance (exponent power : Int) : Decidable (Certified exponent power) :=
  inferInstanceAs (Decidable (_ → _ → _))

theorem certified : ∀ i < 254, ∀ j < 9,
    Certified ((i : Nat) - 149) (((i : Nat) - 149) * 30103 / 100000 + (j : Nat)) := by
  decide +kernel

/-- A multiple of a harmless fraction is close to the ratio and a midpoint only if it is equal to
the ratio, for a small power of ten. -/
theorem Harmless.resolve {a b p q gap s : Nat} {power : Int} (h : Harmless a p q gap power)
    (hgap : ((q * a : Nat) - (p * b : Nat) : Int).natAbs = gap) (hodd : s * p % 2 = 1)
    (hnear : 2 ^ 51 * (((s * q : Nat) * a : Int) - (s * p : Nat) * b).natAbs ≤ s * q * a) :
    s * q * a = s * p * b ∧ -12 ≤ power ∧ power ≤ 12 := by
  have hs : 0 < s := by
    rw [Nat.pos_iff_ne_zero]
    rintro rfl
    simp at hodd
  have hscaled : (((s * q : Nat) * a : Int) - (s * p : Nat) * b).natAbs = s * gap := by
    rw [← hgap, ← Int.natAbs_natCast s, ← Int.natAbs_mul]
    congr 1
    simp
    ring
  rcases h with heven | hfar | ⟨rfl, hrange⟩
  · rw [Nat.mul_mod, heven] at hodd
    simp at hodd
  · rw [hscaled] at hnear
    have := Nat.mul_lt_mul_of_pos_left hfar hs
    exfalso
    nlinarith
  · refine ⟨?_, hrange⟩
    rw [Nat.mul_zero, Int.natAbs_eq_zero, sub_eq_zero] at hscaled
    exact_mod_cast hscaled

/-- Powers of ten that go with a unit lie in a window. -/
theorem window : ∀ i < 254,
    (2 ^ 24 + 1) * (halfUnits ((i : Nat) - 149) (((i : Nat) - 149) * 30103 / 100000 - 1)).1 <
      2 ^ 25 * (halfUnits ((i : Nat) - 149) (((i : Nat) - 149) * 30103 / 100000 - 1)).2 ∧
    2 ^ 25 * (halfUnits ((i : Nat) - 149) (((i : Nat) - 149) * 30103 / 100000 + 9)).2 <
      (halfUnits ((i : Nat) - 149) (((i : Nat) - 149) * 30103 / 100000 + 9)).1 := by
  decide +kernel

variable {exponent power : Int} {m n : Nat}

theorem halfUnits_pos (exponent power : Int) :
    0 < (halfUnits exponent power).1 ∧ 0 < (halfUnits exponent power).2 := by
  constructor <;> exact Nat.mul_pos (Nat.pow_pos (by decide)) (Nat.pow_pos (by decide))

/-- Multiples of the two parts differ as multiples of half a unit and a power of ten do. -/
theorem halfUnits_sub (exponent power : Int) (x y : Nat) :
    ((x * (halfUnits exponent power).2 : ℚ) - y * (halfUnits exponent power).1) *
        2 ^ (exponent - 1) =
      (x * 2 ^ (exponent - 1) - y * 10 ^ power) * (halfUnits exponent power).2 := by
  have hratio : (10 : ℚ) ^ power * (halfUnits exponent power).2 =
      (halfUnits exponent power).1 * 2 ^ (exponent - 1) := by
    rw [zpow_eq_div 10 power, zpow_eq_div 2 (exponent - 1), halfUnits,
      show -(exponent - 1) = 1 - exponent by omega]
    push_cast
    field_simp
  rw [sub_mul, sub_mul, mul_assoc (y : ℚ), ← hratio]
  ring

theorem halfUnits_le (exponent power : Int) (x y : Nat) :
    x * (halfUnits exponent power).2 ≤ y * (halfUnits exponent power).1 ↔
      (x * 2 ^ (exponent - 1) : ℚ) ≤ y * 10 ^ power := by
  have hb : (0 : ℚ) < (halfUnits exponent power).2 := by
    exact_mod_cast (halfUnits_pos exponent power).2
  have hsub : (y * (halfUnits exponent power).1 - x * (halfUnits exponent power).2 : ℚ) *
      2 ^ (exponent - 1) =
        (y * 10 ^ power - x * 2 ^ (exponent - 1)) * (halfUnits exponent power).2 := by
    linear_combination -halfUnits_sub exponent power x y
  rw [← sub_nonneg (b := (x * 2 ^ (exponent - 1) : ℚ)), ← mul_nonneg_iff_of_pos_right hb, ← hsub,
    mul_nonneg_iff_of_pos_right (two_zpow_pos _), sub_nonneg]
  exact_mod_cast Iff.rfl

theorem halfUnits_ge (exponent power : Int) (x y : Nat) :
    y * (halfUnits exponent power).1 ≤ x * (halfUnits exponent power).2 ↔
      (y * 10 ^ power : ℚ) ≤ x * 2 ^ (exponent - 1) := by
  have hb : (0 : ℚ) < (halfUnits exponent power).2 := by
    exact_mod_cast (halfUnits_pos exponent power).2
  rw [← sub_nonneg (a := (x * 2 ^ (exponent - 1) : ℚ)), ← mul_nonneg_iff_of_pos_right hb,
    ← halfUnits_sub, mul_nonneg_iff_of_pos_right (two_zpow_pos _), sub_nonneg]
  exact_mod_cast Iff.rfl

/-- The powers of ten that are neither much smaller nor much greater than a unit. -/
theorem power_bounds (hleast : -149 ≤ exponent) (hmost : exponent ≤ 104)
    (hlow : (2 ^ 25 * 2 ^ (exponent - 1) : ℚ) ≤ (2 ^ 24 + 1) * 10 ^ power)
    (hhigh : (10 ^ power : ℚ) ≤ 2 ^ 25 * 2 ^ (exponent - 1)) :
    exponent * 30103 / 100000 ≤ power ∧ power < exponent * 30103 / 100000 + 9 := by
  obtain ⟨i, rfl⟩ : ∃ i : Nat, exponent = i - 149 := ⟨(exponent + 149).toNat, by omega⟩
  obtain ⟨hbelow, habove⟩ := window i (by omega)
  constructor
  · by_contra hcon
    have hpower := zpow_le_zpow_right₀ (show (1 : ℚ) ≤ 10 by norm_num)
      (show power ≤ ((i : Nat) - 149 : Int) * 30103 / 100000 - 1 by omega)
    apply hbelow.not_ge
    rw [halfUnits_le]
    push_cast
    linarith
  · by_contra hcon
    have hpower := zpow_le_zpow_right₀ (show (1 : ℚ) ≤ 10 by norm_num) (not_lt.mp hcon)
    apply habove.not_ge
    rw [← Nat.one_mul (halfUnits _ _).1, halfUnits_ge]
    push_cast
    linarith

/-- A multiple of a power of ten is as close to one of half a unit as the parts say. -/
theorem halfUnits_near
    (hnear : |(m * 10 ^ power - n * 2 ^ (exponent - 1) : ℚ)| ≤ m * 10 ^ power / 2 ^ 51) :
    2 ^ 51 * ((m * (halfUnits exponent power).1 : Int) -
      n * (halfUnits exponent power).2).natAbs ≤ m * (halfUnits exponent power).1 := by
  have hunit := two_zpow_pos (exponent - 1)
  have hb : (0 : ℚ) < (halfUnits exponent power).2 := by
    exact_mod_cast (halfUnits_pos exponent power).2
  have hsub := halfUnits_sub exponent power n m
  have hzero := halfUnits_sub exponent power 0 m
  simp only [Nat.cast_zero, zero_mul, zero_sub, neg_mul, neg_inj] at hzero
  have habs := congrArg abs hsub
  rw [abs_mul, abs_mul, abs_of_pos hunit, abs_of_pos hb, abs_sub_comm, abs_sub_comm (n * _ : ℚ)]
    at habs
  rw [le_div_iff₀ (by norm_num)] at hnear
  have hle : 2 ^ 51 * |(m * (halfUnits exponent power).1 - n * (halfUnits exponent power).2 : ℚ)| ≤
      m * (halfUnits exponent power).1 := by
    apply le_of_mul_le_mul_right _ hunit
    rw [hzero, mul_assoc, habs]
    have := mul_le_mul_of_nonneg_right hnear hb.le
    linarith
  have hcast : ((2 ^ 51 * ((m * (halfUnits exponent power).1 : Int) -
      n * (halfUnits exponent power).2).natAbs : Nat) : ℚ) ≤
        (m * (halfUnits exponent power).1 : Nat) := by
    rw [Nat.cast_mul, Nat.cast_natAbs]
    push_cast
    norm_num at hle ⊢
    exact hle
  exact_mod_cast hcast

/-- A decimal number within `2 ^ -51` of itself from a midpoint is that midpoint, and its power of
ten is small; except in one case. -/
theorem midpoint_cases (hleast : -149 ≤ exponent) (hmost : exponent ≤ 104) (hm : 0 < m)
    (hodd : n % 2 = 1) (hlow : (2 ^ 25 * 2 ^ (exponent - 1) : ℚ) ≤ (2 ^ 24 + 1) * 10 ^ power)
    (hhigh : (m * 10 ^ power : ℚ) ≤ 2 ^ 25 * 2 ^ (exponent - 1))
    (hnear : |(m * 10 ^ power - n * 2 ^ (exponent - 1) : ℚ)| ≤ m * 10 ^ power / 2 ^ 51) :
    (m * 10 ^ power : ℚ) = n * 2 ^ (exponent - 1) ∧ -12 ≤ power ∧ power ≤ 12 ∨
    Exceptional exponent power n := by
  have hmone : (1 : ℚ) ≤ m := by exact_mod_cast hm
  have hpow := ten_zpow_pos power
  obtain ⟨hfirst, hlast⟩ := power_bounds hleast hmost hlow (by nlinarith)
  have hcertified : Certified exponent power := by
    have := certified (exponent + 149).toNat (by omega)
      (power - exponent * 30103 / 100000).toNat (by omega)
    rwa [show (((exponent + 149).toNat : Int) - 149) = exponent by omega,
      show exponent * 30103 / 100000 + ((power - exponent * 30103 / 100000).toNat : Int) = power by
        omega] at this
  have hlow' := (halfUnits_le exponent power (2 ^ 25) (2 ^ 24 + 1)).mpr
    (by exact_mod_cast hlow)
  have hhigh' := (halfUnits_ge exponent power (2 ^ 25) m).mpr
    (by exact_mod_cast hhigh)
  have hexact : m * (halfUnits exponent power).1 = n * (halfUnits exponent power).2 →
      (m * 10 ^ power : ℚ) = n * 2 ^ (exponent - 1) := fun heq =>
    le_antisymm ((halfUnits_ge exponent power n m).mp heq.le)
      ((halfUnits_le exponent power n m).mp heq.ge)
  have hnear' : 2 ^ 51 * ((m * (halfUnits exponent power).1 : Int) -
      n * (halfUnits exponent power).2).natAbs ≤ m * (halfUnits exponent power).1 :=
    halfUnits_near hnear
  obtain ⟨ha, hb⟩ := halfUnits_pos exponent power
  rcases hhalf : halfUnits exponent power with ⟨a, b⟩
  simp only [Certified, hhalf] at hcertified hlow' hhigh' hexact hnear' ha hb
  have hmost' : m ≤ 2 ^ 25 * b / a := (Nat.le_div_iff_mul_le ha).mpr hhigh'
  obtain ⟨hneighbours, hspread, hgap, hleft, hright⟩ :=
    hcertified hlow' (le_trans (Nat.le_mul_of_pos_left a hm) hhigh')
  rcases hneighbours.eq_of_near hm hmost' hspread hgap hnear' with ⟨s, rfl, rfl⟩ | ⟨t, rfl, rfl⟩
  · have hgap' := hneighbours.below
    obtain ⟨heq, hrange⟩ := hleft.resolve (by omega) hodd hnear'
    exact .inl ⟨hexact heq, hrange⟩
  · rcases hright with hright | ⟨hexception, hfew⟩
    · have hgap' := hneighbours.above
      obtain ⟨heq, hrange⟩ := hright.resolve (by omega) hodd hnear'
      exact .inl ⟨hexact heq, hrange⟩
    · have hlt : t < 2 := Nat.lt_of_mul_lt_mul_right (hmost'.trans_lt hfew)
      obtain rfl : t = 1 := by
        have := Nat.pos_of_mul_pos_right hm
        omega
      right
      rwa [Nat.one_mul]

end Certificate

end Vicinity.Number
