import Mathlib.Data.Nat.Digits.Defs
import Mathlib.Tactic.Tauto
import Vicinity.Json.Fields
import Vicinity.Json.Printer
import Vicinity.Proofs.Number.Digits

/-!
Every number that is written can be read: an integer as itself, a floating-point number as a
number of some form. Only a number that is not finite leaves no number behind.
-/

namespace Vicinity.Json

open Vicinity.Number

/-- What may follow a number: nothing that could belong to it. -/
def Delimited (rest : List Char) : Prop :=
  ∀ c, rest.head? = some c → digit? c = none ∧ c ≠ '.' ∧ c ≠ 'e' ∧ c ≠ 'E'

theorem Delimited.noDigit {rest : List Char} (h : Delimited rest) : NoDigit rest :=
  fun c hc => (h c hc).1

/-- A text that is read as the given number, whatever follows it. -/
def NumberForm (cs : List Char) (n : NumberText) : Prop :=
  ∀ rest, Delimited rest → readNumber (cs ++ rest) = some (n, rest)

/-- Digits that can stand before the point. -/
structure WholePart (cs : List Char) : Prop where
  digits : AllDigits cs
  nonempty : cs ≠ []
  canonical : cs = ['0'] ∨ NoLeadingZero cs

theorem wholePart_digitChars (n : Nat) : WholePart (digitChars n) where
  digits := digitChars_allDigits n
  nonempty := digitChars_ne_nil n
  canonical := by
    by_cases hn : n = 0
    · subst hn
      exact Or.inl rfl
    · exact Or.inr (digitChars_noLeadingZero hn)

def fractionText : Option (List Char) → List Char
  | none => []
  | some ds => '.' :: ds

def powerText : Option (Bool × List Char) → List Char
  | none => []
  | some (below, ds) => 'e' :: (if below then '-' else '+') :: ds

section Parts

variable {fraction : Option (List Char)} {power : Option (Bool × List Char)} {rest : List Char}

theorem readPower_text (hpower : ∀ p ∈ power, AllDigits p.2 ∧ p.2 ≠ []) (hrest : Delimited rest) :
    readPower (powerText power ++ rest) =
      some (power.map fun p => (p.1, digitsOf p.2), rest) := by
  cases power with
  | none =>
      cases rest with
      | nil => rfl
      | cons c rest =>
          obtain ⟨_, _, he, hE⟩ := hrest c rfl
          simp [powerText, readPower, he, hE]
  | some p =>
      obtain ⟨below, ds⟩ := p
      obtain ⟨hds, hne⟩ := hpower (below, ds) rfl
      have hspan := spanDigits_digits hds hrest.noDigit
      have hsome := digitsOf_ne_nil hds hne
      cases hdigits : digitsOf ds with
      | nil => exact absurd hdigits hsome
      | cons d more =>
          rw [hdigits] at hspan
          cases below <;> simp [powerText, readPower, hspan, hdigits]

theorem readFraction_text (hfraction : ∀ ds ∈ fraction, AllDigits ds ∧ ds ≠ [])
    (hrest : NoDigit rest) (hpoint : rest.head? ≠ some '.') :
    readFraction (fractionText fraction ++ rest) = some (fraction.map digitsOf, rest) := by
  cases fraction with
  | none =>
      cases rest with
      | nil => rfl
      | cons c rest =>
          have hc : c ≠ '.' := fun h => hpoint (by rw [h]; rfl)
          unfold readFraction fractionText
          split
          · rename_i heq
            exact absurd (List.cons.inj heq).1 hc
          · rfl
  | some ds =>
      obtain ⟨hds, hne⟩ := hfraction ds rfl
      have hspan := spanDigits_digits hds hrest
      have hsome := digitsOf_ne_nil hds hne
      cases hdigits : digitsOf ds with
      | nil => exact absurd hdigits hsome
      | cons d more =>
          rw [hdigits] at hspan
          simp [fractionText, readFraction, hspan, hdigits]

theorem readMagnitude_text (negative : Bool) {whole : List Char} (hwhole : WholePart whole)
    (hfraction : ∀ ds ∈ fraction, AllDigits ds ∧ ds ≠ [])
    (hpower : ∀ p ∈ power, AllDigits p.2 ∧ p.2 ≠ []) (hrest : Delimited rest) :
    readMagnitude negative (whole ++ (fractionText fraction ++ (powerText power ++ rest))) =
      some (⟨negative, digitsOf whole, fraction.map digitsOf,
        power.map fun p => (p.1, digitsOf p.2)⟩, rest) := by
  have hafter : NoDigit (powerText power ++ rest) ∧
      (powerText power ++ rest).head? ≠ some '.' := by
    cases power with
    | none => exact ⟨hrest.noDigit, fun h => (hrest '.' h).2.1 rfl⟩
    | some p =>
        refine ⟨fun c hc => ?_, by simp [powerText]⟩
        rw [← Option.some.inj hc]
        rfl
  have hfront : NoDigit (fractionText fraction ++ (powerText power ++ rest)) := by
    cases fraction with
    | none => exact hafter.1
    | some ds =>
        intro c hc
        rw [← Option.some.inj hc]
        rfl
  have hspan := spanDigits_digits hwhole.digits hfront
  have hread := readFraction_text hfraction hafter.1 hafter.2
  have hend := readPower_text hpower hrest
  have hsome := digitsOf_ne_nil hwhole.digits hwhole.nonempty
  have hzero : ∀ d more, digitsOf whole ≠ 0 :: d :: more := by
    intro d more heq
    rcases hwhole.canonical with rfl | hlead
    · have hdigits : digitsOf ['0'] = [0] := by decide
      simp [hdigits] at heq
    · exact digitsOf_head hlead (by rw [heq]; rfl)
  unfold readMagnitude
  rw [hspan]
  split
  · rename_i heq
    exact absurd (congrArg Prod.fst heq) hsome
  · rename_i heq
    exact absurd (congrArg Prod.fst heq) (hzero _ _)
  · rename_i heq
    obtain ⟨rfl, rfl⟩ := Prod.mk.inj heq
    simp [hread, hend]

/-- A sign, whole digits, a fraction and an exponent make a number. -/
theorem numberForm_text (negative : Bool) {whole : List Char} (hwhole : WholePart whole)
    (hfraction : ∀ ds ∈ fraction, AllDigits ds ∧ ds ≠ [])
    (hpower : ∀ p ∈ power, AllDigits p.2 ∧ p.2 ≠ []) :
    NumberForm ((if negative then ['-'] else []) ++
        (whole ++ (fractionText fraction ++ powerText power)))
      ⟨negative, digitsOf whole, fraction.map digitsOf,
        power.map fun p => (p.1, digitsOf p.2)⟩ := by
  intro rest hrest
  have hread := readMagnitude_text negative hwhole hfraction hpower hrest
  simp only [List.append_assoc]
  cases negative with
  | true => exact hread
  | false =>
      cases hcs : whole with
      | nil => exact absurd hcs hwhole.nonempty
      | cons c cs =>
          have hdigit := hwhole.digits c (by rw [hcs]; exact List.mem_cons_self)
          have hminus : c ≠ '-' := by
            rintro rfl
            exact absurd hdigit (by decide)
          rw [hcs] at hread
          simp only [Bool.false_eq_true, if_false, List.nil_append, List.cons_append] at hread ⊢
          unfold readNumber
          split
          · rename_i heq
            exact absurd (List.cons.inj heq).1 hminus
          · exact hread

end Parts

def integerNumber (i : Int) : NumberText :=
  ⟨decide (i < 0), digitsOf (digitChars i.natAbs), none, none⟩

theorem integerText_form (i : Int) : NumberForm (integerText i).toList (integerNumber i) := by
  have htext : (integerText i).toList = (if decide (i < 0) = true then ['-'] else []) ++
      (digitChars i.natAbs ++ (fractionText none ++ powerText none)) := by
    by_cases hi : i < 0 <;> simp [integerText, hi, fractionText, powerText]
  rw [htext]
  exact numberForm_text (decide (i < 0)) (wholePart_digitChars i.natAbs) (by simp) (by simp)

/-- The power of ten of an exponent as written. -/
def powerValue : Option (Bool × List Char) → Int
  | none => 0
  | some (below, ds) => if below then -(ofDigits (digitsOf ds) : Int) else ofDigits (digitsOf ds)

/-- The parts of a text that stands for `digits * 10 ^ exponent`. -/
structure Parts (cs : List Char) (digits : Nat) (exponent : Int) where
  whole : List Char
  fraction : Option (List Char)
  power : Option (Bool × List Char)
  wholePart : WholePart whole
  fractionDigits : ∀ ds ∈ fraction, AllDigits ds ∧ ds ≠ []
  powerDigits : ∀ p ∈ power, AllDigits p.2 ∧ p.2 ≠ []
  text : cs = whole ++ (fractionText fraction ++ powerText power)
  notWhole : fraction.isSome ∨ power.isSome
  digits_eq : ofDigits (digitsOf (whole ++ fraction.getD [])) = digits
  exponent_eq : powerValue power - (fraction.getD []).length = exponent
  power_le : (powerValue power).natAbs ≤ exponent.natAbs + (digitChars digits).length

theorem zero_allDigits : AllDigits ['0'] := allDigits_zeros 1

theorem WholePart.of_noLeadingZero {cs : List Char} (hdigits : AllDigits cs) (hne : cs ≠ [])
    (h : NoLeadingZero cs) : WholePart cs :=
  ⟨hdigits, hne, Or.inr h⟩

/-- The digits and the power of ten of a decimal number as written without an exponent: a whole
number gets a zero after the point. -/
def padded (d : Decimal) : Decimal :=
  if 0 ≤ d.exponent then ⟨d.digits * 10 ^ (d.exponent.toNat + 1), -1⟩ else d

/-- A decimal number without an exponent has a whole part and a fraction. -/
theorem plain_parts {d : Decimal} (hd : d.digits ≠ 0) :
    Nonempty (Parts (d.plain ['.', '0']) (padded d).digits (padded d).exponent) := by
  have hdigits := digitChars_allDigits d.digits
  have hne := digitChars_ne_nil d.digits
  have hlead := digitChars_noLeadingZero hd
  obtain ⟨c, cs, hcs⟩ := List.exists_cons_of_ne_nil hne
  unfold NoLeadingZero at hlead
  unfold Decimal.plain padded
  dsimp only
  split
  · refine ⟨⟨digitChars d.digits ++ List.replicate d.exponent.toNat '0', some ['0'], none,
      .of_noLeadingZero (hdigits.append (allDigits_zeros _)) (by simp [hne]) ?_,
      fun ds hds => ?_, by simp, by simp [fractionText, powerText], by simp, ?_, by rfl,
      by simp [powerValue]⟩⟩
    · unfold NoLeadingZero
      rw [hcs] at hlead ⊢
      exact hlead
    · rw [← Option.mem_some.mp hds]
      exact ⟨zero_allDigits, by simp⟩
    · rw [Option.getD_some, List.append_assoc, ← List.replicate_succ', digitsOf_append hdigits,
        digitsOf_zeros, ofDigits_append, ofDigits_zeros, ofDigits_digitChars, List.length_replicate,
        add_zero]
  · rename_i hexponent
    split
    · rename_i hplaces
      have hcount : (digitChars d.digits).length - (-d.exponent).toNat ≠ 0 := by omega
      refine ⟨⟨(digitChars d.digits).take ((digitChars d.digits).length - (-d.exponent).toNat),
        some ((digitChars d.digits).drop ((digitChars d.digits).length - (-d.exponent).toNat)),
        none, .of_noLeadingZero (hdigits.sublist (List.take_sublist _ _)) ?_ ?_, fun ds hds => ?_,
        by simp, by simp [fractionText, powerText], by simp, ?_, ?_, by simp [powerValue]⟩⟩
      · simp [hne, hcount]
      · unfold NoLeadingZero
        rwa [List.head?_take, if_neg hcount]
      · rw [← Option.mem_some.mp hds]
        refine ⟨hdigits.sublist (List.drop_sublist _ _), ?_⟩
        rw [ne_eq, List.drop_eq_nil_iff]
        omega
      · rw [Option.getD_some, List.take_append_drop, ofDigits_digitChars]
      · rw [Option.getD_some, List.length_drop, powerValue]
        omega
    · refine ⟨⟨['0'], some (List.replicate ((-d.exponent).toNat - (digitChars d.digits).length)
        '0' ++ digitChars d.digits), none, ⟨zero_allDigits, by simp, Or.inl rfl⟩, fun ds hds => ?_,
        by simp, by simp [fractionText, powerText], by simp, ?_, ?_, by simp [powerValue]⟩⟩
      · rw [← Option.mem_some.mp hds]
        exact ⟨(allDigits_zeros _).append hdigits, by simp [hne]⟩
      · rw [Option.getD_some, List.singleton_append, ← List.cons_append, ← List.replicate_succ,
          digitsOf_append (allDigits_zeros _), digitsOf_zeros, ofDigits_append, ofDigits_zeros,
          ofDigits_digitChars, zero_mul, zero_add]
      · rw [Option.getD_some, List.length_append, List.length_replicate, powerValue]
        omega

/-- A decimal number with an exponent has one digit before the point. -/
theorem scientific_parts {d : Decimal} (hd : d.digits ≠ 0) :
    Nonempty (Parts d.scientific d.digits d.exponent) := by
  have hdigits := digitChars_allDigits d.digits
  have hne := digitChars_ne_nil d.digits
  have hlead := digitChars_noLeadingZero hd
  have hback := ofDigits_digitChars d.digits
  unfold NoLeadingZero at hlead
  obtain ⟨c, cs, hcs⟩ := List.exists_cons_of_ne_nil hne
  rw [hcs] at hdigits hlead hback
  have hwhole : WholePart [c] :=
    .of_noLeadingZero (hdigits.sublist (by simp)) (by simp) hlead
  have hrest : AllDigits cs := hdigits.sublist (List.sublist_cons_self c cs)
  have hlength : (digitChars d.digits).length = cs.length + 1 := by rw [hcs, List.length_cons]
  let power := d.exponent + ((digitChars d.digits).length - 1 : Nat)
  have hpower : powerValue (some (decide (power < 0), digitChars power.natAbs)) = power := by
    rw [powerValue, ofDigits_digitChars]
    by_cases hsign : power < 0
    · rw [decide_eq_true hsign, if_pos rfl]
      omega
    · rw [decide_eq_false hsign, if_neg Bool.false_ne_true]
      omega
  have hfraction : (if cs = [] then none else some cs).getD [] = cs := by
    split
    · rename_i hnil
      rw [hnil]
      rfl
    · rfl
  refine ⟨⟨[c], if cs = [] then none else some cs,
    some (decide (power < 0), digitChars power.natAbs), hwhole, ?_, ?_, ?_, by simp, ?_, ?_, ?_⟩⟩
  · intro ds hds
    by_cases hnil : cs = []
    · simp [hnil] at hds
    · rw [if_neg hnil] at hds
      rw [← Option.mem_some.mp hds]
      exact ⟨hrest, hnil⟩
  · intro p hp
    rw [← Option.mem_some.mp hp]
    exact ⟨digitChars_allDigits _, digitChars_ne_nil _⟩
  · unfold Decimal.scientific
    rw [hcs]
    cases cs with
    | nil => simp [fractionText, powerText, power, hcs]
    | cons b bs => simp [fractionText, powerText, power, hcs]
  · rw [hfraction]
    exact hback
  · rw [hpower, hfraction]
    omega
  · rw [hpower]
    omega

/-- The digits and the power of ten of a decimal number as a layout writes it. -/
def written (style : Layout) (d : Decimal) : Decimal :=
  let power := d.exponent + ((digitChars d.digits).length - 1 : Nat)
  if d.digits = 0 then ⟨0, -1⟩
  else if style.plainFrom ≤ power ∧ power < style.plainBelow then padded d
  else d

theorem render_parts (d : Decimal) {style : Layout} (hstyle : style.wholeEnding = ['.', '0']) :
    Nonempty (Parts (d.render style) (written style d).digits (written style d).exponent) := by
  unfold Decimal.render written
  dsimp only
  split
  · refine ⟨⟨['0'], some ['0'], none, ⟨zero_allDigits, by simp, Or.inl rfl⟩, fun ds hds => ?_,
      by simp, by simp [hstyle, fractionText, powerText], by simp, by decide, by rfl,
      by simp [powerValue]⟩⟩
    rw [← Option.mem_some.mp hds]
    exact ⟨zero_allDigits, by simp⟩
  · rename_i hd
    split
    · rw [hstyle]
      exact plain_parts hd
    · exact scientific_parts hd

section Value

variable {cs : List Char} {digits : Nat} {exponent : Int}

/-- The number that is read from the parts of a text. -/
def Parts.number (parts : Parts cs digits exponent) (negative : Bool) : NumberText :=
  ⟨negative, digitsOf parts.whole, parts.fraction.map digitsOf,
    parts.power.map fun p => (p.1, digitsOf p.2)⟩

theorem Parts.form (parts : Parts cs digits exponent) (negative : Bool) :
    NumberForm ((if negative then ['-'] else []) ++ cs) (parts.number negative) := by
  have hform := numberForm_text negative parts.wholePart parts.fractionDigits parts.powerDigits
  rwa [← parts.text] at hform

/-- Digits of a number that fits in a word are all taken. -/
theorem fillWord_eq {ds : List Nat} {word : Nat}
    (h : word * 10 ^ ds.length + ofDigits ds ≤ maxWord) :
    fillWord ds word = (word * 10 ^ ds.length + ofDigits ds, []) := by
  induction ds generalizing word with
  | nil => simp [fillWord, ofDigits]
  | cons d ds ih =>
      have hstep : word * 10 ^ (d :: ds).length + ofDigits (d :: ds) =
          (10 * word + d) * 10 ^ ds.length + ofDigits ds := by
        rw [← foldl_digits, ← foldl_digits, List.foldl_cons]
      rw [hstep] at h ⊢
      have hscale : 0 < 10 ^ ds.length := Nat.pow_pos (by decide)
      have hfits := Nat.le_mul_of_pos_right (10 * word + d) hscale
      rw [fillWord, if_pos (by omega), ih h]

/-- Where the digits fit in a word, they are scaled by the power of ten at once. -/
theorem Parts.double? (parts : Parts cs digits exponent) (negative : Bool)
    (hdigits : digits ≤ maxWord) (hpower : (powerValue parts.power).natAbs ≤ maxPower) :
    (parts.number negative).double? =
      (scaleBy 8 digits.toUInt64.toFloat exponent).map fun x => if negative then -x else x := by
  obtain ⟨whole, fraction, power, wholePart, fractionDigits, _, _, _, rfl, rfl, _⟩ := parts
  dsimp only at hpower
  have hfraction : (fraction.map digitsOf).getD [] = digitsOf (fraction.getD []) := by
    cases fraction <;> rfl
  have hlength : (digitsOf (fraction.getD [])).length = (fraction.getD []).length := by
    cases hfraction : fraction with
    | none => rfl
    | some ds => exact length_digitsOf (fractionDigits ds hfraction).1
  have hsplit : ofDigits (digitsOf (whole ++ fraction.getD [])) =
      ofDigits (digitsOf whole) * 10 ^ (fraction.getD []).length +
        ofDigits (digitsOf (fraction.getD [])) := by
    rw [digitsOf_append wholePart.digits, ofDigits_append, hlength]
  have hwhole : fillWord (digitsOf whole) 0 = (ofDigits (digitsOf whole), []) := by
    have hscale : 0 < 10 ^ (fraction.getD []).length := Nat.pow_pos (by decide)
    have hle := Nat.le_mul_of_pos_right (ofDigits (digitsOf whole)) hscale
    rw [fillWord_eq (by omega), zero_mul, zero_add]
  have hplaces : fillWord (digitsOf (fraction.getD [])) (ofDigits (digitsOf whole)) =
      (ofDigits (digitsOf (whole ++ fraction.getD [])), []) := by
    rw [fillWord_eq (by rw [hlength]; omega), hlength, hsplit]
  unfold NumberText.double? number
  simp only [hwhole, hfraction, hplaces, List.length_nil, hlength]
  cases power with
  | none => simp [powerValue]
  | some p =>
      obtain ⟨below, ds⟩ := p
      have hlimit : ¬ maxPower < ofDigits (digitsOf ds) := by
        cases below <;> simp [powerValue] at hpower <;> omega
      simp only [Option.map_some, if_neg hlimit]
      congr 2
      cases below <;> simp [powerValue] <;> omega

theorem Parts.value? (parts : Parts cs digits exponent) (negative : Bool)
    (hdigits : digits ≤ maxWord) (hexponent : exponent.natAbs ≤ 10 ^ 9) :
    (parts.number negative).value? = (scaleBy 8 digits.toUInt64.toFloat exponent).map fun x =>
      .float (if negative then -x else x) := by
  have hpower : (powerValue parts.power).natAbs ≤ maxPower := by
    have hle := parts.power_le
    have hshort : (digitChars digits).length ≤ 20 :=
      Nat.toDigits_length 10 digits 20 (by decide) (by
        have : maxWord < 10 ^ 20 := by decide
        omega)
    have hmax : maxPower = 2 ^ 31 - 1 := rfl
    omega
  have hnotWhole : (parts.number negative).fraction.isSome ∨
      (parts.number negative).power.isSome := by
    simpa [number] using parts.notWhole
  rw [NumberText.value?, if_pos (by tauto), parts.double? negative hdigits hpower, Option.map_map]
  rfl

end Value

/-- A finite floating-point number is written as a number. -/
theorem floatText_form (f : Format) {style : Layout} (hstyle : style.wholeEnding = ['.', '0'])
    (negative : Bool) (mantissa : Nat) (exponent : Int) :
    ∃ n, NumberForm (floatText f style (.finite negative mantissa exponent)) n := by
  obtain ⟨parts⟩ := render_parts (f.shortest mantissa exponent) hstyle
  exact ⟨_, parts.form negative⟩

end Vicinity.Json
