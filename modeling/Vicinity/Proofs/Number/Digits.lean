import Mathlib.Tactic.Ring
import Vicinity.Number.Literal

/-!
Decimal digits written and read back. The digits of a number are ASCII digits, have no zero at the
front unless the number is zero, and give the number back.
-/

namespace Vicinity.Number

def AllDigits (cs : List Char) : Prop := ∀ c ∈ cs, (digit? c).isSome

theorem digit?_digitChar {d : Nat} (h : d < 10) : digit? (Nat.digitChar d) = some d := by
  have hall : ∀ d < 10, digit? (Nat.digitChar d) = some d := by decide
  exact hall d h

theorem AllDigits.append {cs ds : List Char} (hcs : AllDigits cs) (hds : AllDigits ds) :
    AllDigits (cs ++ ds) := by
  intro c hc
  rcases List.mem_append.mp hc with hc | hc
  · exact hcs c hc
  · exact hds c hc

theorem AllDigits.sublist {cs ds : List Char} (hcs : AllDigits cs) (h : ds.Sublist cs) :
    AllDigits ds :=
  fun c hc => hcs c (h.subset hc)

theorem allDigits_zeros (n : Nat) : AllDigits (List.replicate n '0') := by
  intro c hc
  rw [List.eq_of_mem_replicate hc]
  rfl

theorem digitChars_of_lt {n : Nat} (h : n < 10) : digitChars n = [Nat.digitChar n] :=
  Nat.toDigits_of_lt_base h

theorem digitChars_of_le {n : Nat} (h : 10 ≤ n) :
    digitChars n = digitChars (n / 10) ++ [Nat.digitChar (n % 10)] :=
  Nat.toDigits_of_base_le (by decide) h

theorem digitChars_ne_nil (n : Nat) : digitChars n ≠ [] := Nat.toDigits_ne_nil

theorem digitChars_allDigits (n : Nat) : AllDigits (digitChars n) := by
  induction n using Nat.strongRecOn with
  | ind n ih =>
      by_cases h : n < 10
      · rw [digitChars_of_lt h]
        intro c hc
        rw [List.mem_singleton.mp hc, digit?_digitChar h]
        rfl
      · rw [digitChars_of_le (by omega)]
        refine (ih (n / 10) (by omega)).append ?_
        intro c hc
        rw [List.mem_singleton.mp hc, digit?_digitChar (by omega)]
        rfl

/-- No digits stand before a zero at the front. -/
def NoLeadingZero (cs : List Char) : Prop := cs.head? ≠ some '0'

theorem digitChars_noLeadingZero {n : Nat} (hn : n ≠ 0) : NoLeadingZero (digitChars n) := by
  induction n using Nat.strongRecOn with
  | ind n ih =>
      unfold NoLeadingZero at ih ⊢
      by_cases h : n < 10
      · have hall : ∀ d < 10, d ≠ 0 → [Nat.digitChar d].head? ≠ some '0' := by decide
        rw [digitChars_of_lt h]
        exact hall n h hn
      · have hfront := ih (n / 10) (by omega) (by omega)
        rw [digitChars_of_le (by omega), List.head?_append]
        cases hhead : (digitChars (n / 10)).head? with
        | none => exact absurd (List.head?_eq_none_iff.mp hhead) (digitChars_ne_nil _)
        | some c => rwa [hhead] at hfront

def NoDigit (cs : List Char) : Prop := ∀ c, cs.head? = some c → digit? c = none

theorem spanDigits_of_noDigit {cs : List Char} (h : NoDigit cs) : spanDigits cs = ([], cs) := by
  cases cs with
  | nil => rfl
  | cons c rest =>
      unfold spanDigits
      rw [h c rfl]

/-- Reading digits stops where the text goes on with anything else. -/
theorem spanDigits_append (cs : List Char) {rest : List Char} (h : NoDigit rest) :
    spanDigits (cs ++ rest) = ((spanDigits cs).1, (spanDigits cs).2 ++ rest) := by
  induction cs with
  | nil => exact spanDigits_of_noDigit h
  | cons c cs ih =>
      rw [List.cons_append, spanDigits, spanDigits]
      cases digit? c with
      | none => rfl
      | some d => rw [ih]

theorem spanDigits_allDigits {cs : List Char} (h : AllDigits cs) :
    (spanDigits cs).2 = [] ∧ (spanDigits cs).1.length = cs.length := by
  induction cs with
  | nil => exact ⟨rfl, rfl⟩
  | cons c cs ih =>
      obtain ⟨d, hd⟩ := Option.isSome_iff_exists.mp (h c List.mem_cons_self)
      obtain ⟨hrest, hlength⟩ := ih fun b hb => h b (List.mem_cons_of_mem c hb)
      rw [spanDigits, hd]
      exact ⟨hrest, by simp [hlength]⟩

def digitsOf (cs : List Char) : List Nat := (spanDigits cs).1

theorem spanDigits_digits {cs rest : List Char} (h : AllDigits cs) (hrest : NoDigit rest) :
    spanDigits (cs ++ rest) = (digitsOf cs, rest) := by
  rw [spanDigits_append cs hrest, (spanDigits_allDigits h).1]
  rfl

theorem digitsOf_ne_nil {cs : List Char} (h : AllDigits cs) (hne : cs ≠ []) :
    digitsOf cs ≠ [] := by
  have hlength := (spanDigits_allDigits h).2
  have hpos := List.length_pos_iff.mpr hne
  intro hnil
  unfold digitsOf at hnil
  rw [hnil, List.length_nil] at hlength
  omega

theorem digitsOf_append {cs : List Char} (h : AllDigits cs) (ds : List Char) :
    digitsOf (cs ++ ds) = digitsOf cs ++ digitsOf ds := by
  induction cs with
  | nil => rfl
  | cons c cs ih =>
      obtain ⟨d, hd⟩ := Option.isSome_iff_exists.mp (h c List.mem_cons_self)
      have hrest := ih fun b hb => h b (List.mem_cons_of_mem c hb)
      unfold digitsOf at hrest ⊢
      rw [List.cons_append, spanDigits, spanDigits, hd]
      dsimp only
      rw [hrest, List.cons_append]

/-- The digits of a number give it back. -/
theorem ofDigits_digitChars (n : Nat) : ofDigits (digitsOf (digitChars n)) = n := by
  induction n using Nat.strongRecOn with
  | ind n ih =>
      have hlast : ∀ d < 10, digitsOf [Nat.digitChar d] = [d] := by decide
      by_cases h : n < 10
      · rw [digitChars_of_lt h, hlast n h]
        simp [ofDigits]
      · have hfront := ih (n / 10) (by omega)
        rw [digitChars_of_le (by omega), digitsOf_append (digitChars_allDigits _),
          hlast (n % 10) (by omega)]
        unfold ofDigits at hfront ⊢
        rw [List.foldl_append, hfront]
        simp only [List.foldl_cons, List.foldl_nil]
        omega

theorem lt_pow_length (n : Nat) : n < 10 ^ (digitChars n).length := by
  induction n using Nat.strongRecOn with
  | ind n ih =>
      by_cases h : n < 10
      · rwa [digitChars_of_lt h]
      · have hfront := ih (n / 10) (by omega)
        rw [digitChars_of_le (by omega), List.length_append, List.length_singleton, pow_succ]
        omega

theorem length_digitsOf {cs : List Char} (h : AllDigits cs) : (digitsOf cs).length = cs.length :=
  (spanDigits_allDigits h).2

theorem digitsOf_zeros (n : Nat) : digitsOf (List.replicate n '0') = List.replicate n 0 := by
  induction n with
  | zero => rfl
  | succ n ih =>
      have hzero : digit? '0' = some 0 := by decide
      unfold digitsOf at ih ⊢
      rw [List.replicate_succ, spanDigits, hzero]
      dsimp only
      rw [ih, List.replicate_succ]

theorem foldl_digits (ds : List Nat) (n : Nat) :
    ds.foldl (fun n d => 10 * n + d) n = n * 10 ^ ds.length + ofDigits ds := by
  induction ds generalizing n with
  | nil => simp [ofDigits]
  | cons d ds ih =>
      rw [ofDigits, List.foldl_cons, List.foldl_cons, ih, ih (10 * 0 + d), List.length_cons,
        pow_succ]
      ring

theorem ofDigits_append (ds es : List Nat) :
    ofDigits (ds ++ es) = ofDigits ds * 10 ^ es.length + ofDigits es := by
  rw [ofDigits, List.foldl_append, foldl_digits es]
  rfl

theorem ofDigits_zeros (n : Nat) : ofDigits (List.replicate n 0) = 0 := by
  induction n with
  | zero => rfl
  | succ n ih => simpa [ofDigits, List.replicate_succ] using ih

theorem digits?_eq {cs : List Char} (h : AllDigits cs) : digits? cs = some (digitsOf cs) := by
  induction cs with
  | nil => rfl
  | cons c cs ih =>
      obtain ⟨d, hd⟩ := Option.isSome_iff_exists.mp (h c List.mem_cons_self)
      have hrest := ih fun b hb => h b (List.mem_cons_of_mem c hb)
      unfold digits? digitsOf at hrest ⊢
      rw [List.mapM_cons, spanDigits, hd, hrest]
      rfl

/-- A number that fits in a word is read back from its digits. -/
theorem word?_toString (n : Nat) : word? (toString n) = if n ≤ maxWord then some n else none := by
  have htext : (toString n).toList = digitChars n := by
    have hdigits : toString n = String.ofList (digitChars n) := rfl
    rw [hdigits, String.toList_ofList]
  have hnatural : natural? (digitChars n) = some n := by
    rw [natural?, digits?_eq (digitChars_allDigits n), Option.map_some, ofDigits_digitChars]
    simp [digitChars_ne_nil]
  obtain ⟨c, cs, hcons⟩ := List.exists_cons_of_ne_nil (digitChars_ne_nil n)
  have hunsigned : ∀ rest, digitChars n ≠ '+' :: rest := by
    intro rest hsign
    have hplus := digitChars_allDigits n '+' (by rw [hsign]; exact List.mem_cons_self)
    exact absurd hplus (by decide)
  unfold word?
  rw [htext, hcons]
  split
  · rename_i rest hsign
    exact absurd (hcons.trans hsign) (hunsigned rest)
  · simp only [← hcons, hnatural]

/-- A zero at the front of the digits comes from a zero at the front of the text. -/
theorem digitsOf_head {cs : List Char} (h : NoLeadingZero cs) : (digitsOf cs).head? ≠ some 0 := by
  cases cs with
  | nil => simp [digitsOf, spanDigits]
  | cons c cs =>
      unfold digitsOf
      rw [spanDigits]
      cases hd : digit? c with
      | none => simp
      | some d =>
          have hzero : d = 0 → c = '0' := by
            rintro rfl
            unfold digit? at hd
            split at hd
            · rename_i hrange
              have hle := hrange.1
              rw [Char.le_def, UInt32.le_iff_toNat_le] at hle
              have hvalue : c.toNat - '0'.toNat = 0 := Option.some.inj hd
              apply Char.toNat_inj.mp
              have hlow : '0'.toNat ≤ c.toNat := hle
              omega
            · simp at hd
          intro hhead
          have hd0 : d = 0 := by simpa using hhead
          exact h (by rw [hzero hd0]; rfl)

end Vicinity.Number
