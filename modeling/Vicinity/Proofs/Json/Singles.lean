import Vicinity.Proofs.Json.Scaling
import Vicinity.Proofs.Number.Margin
import Vicinity.Proofs.Stored

/-!
A single read as it was written. Its text stands for a decimal number between the numbers that round
to it, and the double that the text is read as is close enough to that decimal number to round to
the single again.
-/

namespace Vicinity.Json

open Vicinity.Number

variable {mantissa : Nat} {exponent : Int} {d : Decimal}

/-- A layout keeps the value of a decimal number. -/
theorem written_value (hd : d.digits ≠ 0) (style : Layout) :
    ((written style d).digits * 10 ^ (written style d).exponent : ℚ) =
      d.digits * 10 ^ d.exponent := by
  unfold written padded
  dsimp only
  rw [if_neg hd]
  split
  · split
    · rename_i hsign
      obtain ⟨n, hn⟩ := Int.eq_ofNat_of_zero_le hsign
      rw [hn, Int.toNat_natCast, zpow_natCast]
      push_cast
      rw [pow_succ, zpow_neg_one]
      field_simp
    · rfl
  · rfl

/-- The digits of a single without an exponent are few enough for a double. -/
theorem written_bounds (hd : d.digits ≠ 0) (hshort : d.digits ≤ 10 ^ 9) :
    0 < (written singleLayout d).digits ∧ (written singleLayout d).digits < 2 ^ 53 ∧
    ((written singleLayout d).exponent = d.exponent ∨
      (written singleLayout d).exponent = -1) := by
  have hpos := Nat.pos_of_ne_zero hd
  have hself : 0 < d.digits ∧ d.digits < 2 ^ 53 ∧ (d.exponent = d.exponent ∨ d.exponent = -1) :=
    ⟨hpos, by omega, .inl rfl⟩
  unfold written padded
  dsimp only
  rw [if_neg hd]
  split
  · rename_i hplain
    split
    · rename_i hsign
      have hbelow : d.exponent + ((digitChars d.digits).length - 1 : Nat) < 13 := hplain.2
      have hdigits := lt_pow_length d.digits
      have hplaces : (digitChars d.digits).length + (d.exponent.toNat + 1) ≤ 14 := by
        have := List.length_pos_iff.mpr (digitChars_ne_nil d.digits)
        omega
      refine ⟨Nat.mul_pos hpos (Nat.pow_pos (by decide)), ?_, .inr rfl⟩
      calc d.digits * 10 ^ (d.exponent.toNat + 1)
          < 10 ^ (digitChars d.digits).length * 10 ^ (d.exponent.toNat + 1) :=
            Nat.mul_lt_mul_of_pos_right hdigits (Nat.pow_pos (by decide))
        _ = 10 ^ ((digitChars d.digits).length + (d.exponent.toNat + 1)) := (pow_add _ _ _).symm
        _ ≤ 10 ^ 14 := Nat.pow_le_pow_right (by decide) hplaces
        _ < 2 ^ 53 := by decide
    · exact hself
  · exact hself

/-- The single that the text of a finite number is read as. -/
theorem single?_floatText (negative : Bool) (hd : (single.shortest mantissa exponent).digits ≠ 0)
    (hshort : (single.shortest mantissa exponent).digits ≤ 10 ^ 9)
    (hrange : (single.shortest mantissa exponent).exponent.natAbs < 60) :
    (numberTerm (floatText single singleLayout (.finite negative mantissa exponent))).single? =
      (scaleBy 8 (written singleLayout (single.shortest mantissa exponent)).digits.toUInt64.toFloat
        (written singleLayout (single.shortest mantissa exponent)).exponent).map
        fun x => narrow (if negative then -x else x) := by
  obtain ⟨parts⟩ := render_parts (single.shortest mantissa exponent)
    (show singleLayout.wholeEnding = ['.', '0'] from rfl)
  obtain ⟨-, hword, hpower⟩ := written_bounds hd hshort
  have hread : numberTerm (floatText single singleLayout (.finite negative mantissa exponent)) =
      .number (parts.number negative) := by
    have hform := parts.form negative [] (fun c hc => by simp at hc)
    rw [List.append_nil] at hform
    rw [numberTerm, floatText, hform]
  have hmax : maxWord = 2 ^ 64 - 1 := rfl
  rw [hread, Term.single?, parts.value? negative (by omega) (by omega), Option.map_map]
  rfl

end Vicinity.Json

namespace Vicinity

open Json Number

variable {mantissa : Nat} {exponent : Int}

/-- The decimal number of a single, scaled by a power of ten in double precision, is among the
numbers that round to the single. -/
theorem contains_of_scaled (hholds : single.Holds mantissa exponent)
    (hcrowded : ¬ Crowded mantissa exponent) {power : Int} {r : ℚ}
    (hscaled : Scaled ((single.shortest mantissa exponent).digits *
      10 ^ (single.shortest mantissa exponent).exponent) power r)
    (hpower : power = (single.shortest mantissa exponent).exponent ∨ power = -1) :
    (single.roundingInterval mantissa exponent).Contains r := by
  by_cases hnarrow : single.Narrow mantissa exponent
  · exact (apart_of_narrow hholds hnarrow).contains
      (single.roundingInterval_pos mantissa exponent) hscaled.close
  obtain ⟨digits, grid, zeros, hnames, hsplit, hlead⟩ := shortest_spec hholds
  have hdigits := (shortest_bounds hholds).1
  have hzeros : zeros ≤ 9 := by
    have hle := (Nat.le_mul_of_pos_left (10 ^ zeros) hdigits).trans (hsplit ▸ hnames.short)
    exact (Nat.pow_le_pow_iff_right (by decide)).mp hle
  have hsame : ((single.shortest mantissa exponent).digits *
      10 ^ (single.shortest mantissa exponent).exponent : ℚ) = digits * 10 ^ grid := by
    rw [hsplit, hlead, zpow_add₀ (by norm_num), zpow_natCast]
    push_cast
    ring
  rw [hsame] at hscaled
  exact hnames.contains_of_close hholds hnarrow hcrowded hscaled.close
    fun hleast hmost => hscaled.same (by omega) (by omega)

/-- The text of a number other than zero is read as that number. -/
theorem single?_of_holds (negative : Bool) (hholds : single.Holds mantissa exponent)
    (hcrowded : ¬ Crowded mantissa exponent) :
    (numberTerm (floatText single singleLayout (.finite negative mantissa exponent))).single? =
      some (Binary.finite negative mantissa exponent).toSingle := by
  obtain ⟨hdigits, hshort, hrange⟩ := shortest_bounds hholds
  obtain ⟨hpos, hword, hpower⟩ := written_bounds hdigits.ne' hshort
  obtain ⟨x, r, hscale, hstands, hscaled⟩ := scaleBy_spec hpos hword
    (show -60 < (written singleLayout (single.shortest mantissa exponent)).exponent by omega)
    (by omega)
  rw [written_value hdigits.ne' singleLayout] at hscaled
  have hcontains := contains_of_scaled hholds hcrowded hscaled hpower
  obtain ⟨m, e, rfl, hdouble⟩ := hstands.ofDouble negative
  rw [single?_floatText negative hdigits.ne' hshort hrange, hscale, Option.map_some, narrow,
    hdouble, Format.convert_of_contains hholds negative hcontains]

theorem restored_zero (negative : Bool) (exponent : Int) :
    (Binary.finite negative 0 exponent).toSingle.Restored := by
  have hzero : (Binary.finite negative 0 exponent).toSingle =
      if negative then ⟨0x80000000⟩ else ⟨0⟩ := by
    rw [Binary.toSingle, encode_single]
    cases negative <;> rfl
  rw [hzero]
  cases negative <;> decide +kernel

/-- The numbers next to the exception are read as they were all the same. -/
theorem restored_of_crowded (negative : Bool) (h : Crowded mantissa exponent) :
    (Binary.finite negative mantissa exponent).toSingle.Restored := by
  obtain ⟨rfl, rfl | rfl⟩ := h <;> cases negative <;> decide +kernel

/-- Every finite number is read as it was before it was written. -/
theorem Single.restored {x : Single} (h : x.IsFinite) : x.Restored := by
  obtain ⟨negative, mantissa, exponent, hdecode, hholds, hencode⟩ :=
    exists_decode_single x.bits.toNat_lt h
  have hvalue : ofSingle x = .finite negative mantissa exponent := hdecode
  have hsingle : (Binary.finite negative mantissa exponent).toSingle = x := by
    rw [Binary.toSingle, hencode, UInt32.ofNat_toNat]
  rcases hholds with rfl | hholds
  · exact hsingle ▸ restored_zero negative exponent
  by_cases hcrowded : Crowded mantissa exponent
  · exact hsingle ▸ restored_of_crowded negative hcrowded
  · rw [Restored, Value.term, hvalue, single?_of_holds negative hholds hcrowded, hsingle]

end Vicinity
