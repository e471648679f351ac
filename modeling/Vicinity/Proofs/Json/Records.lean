import Vicinity.Proofs.Json.Reading
import Mathlib.Data.List.Forall2

/-!
Records read back from what was written. A field is found under its name, and an integer comes back
as itself wherever it fits in the word that the reader asks for.
-/

namespace Vicinity.Json

open Vicinity.Number

theorem mapM_eq_some_map {α β : Type} {f : α → Option β} {g : α → β} {l : List α}
    (h : ∀ a ∈ l, f a = some (g a)) : l.mapM f = some (l.map g) := by
  induction l with
  | nil => rfl
  | cons a rest ih =>
      rw [List.mapM_cons, h a List.mem_cons_self, ih fun b hb => h b (List.mem_cons_of_mem a hb)]
      rfl

theorem bind_check {α β : Type} (p : Prop) [Decidable p] (a : α) (f : α → Option β) :
    (if p then some a else none).bind f = if p then f a else none := by
  split <;> rfl

/-- Reading every item of a list answers item by item. -/
theorem mapM_forall₂ {α β : Type} {f : α → Option β} {l : List α} {m : List β}
    (h : l.mapM f = some m) : List.Forall₂ (fun a b => f a = some b) l m := by
  induction l generalizing m with
  | nil =>
      rw [← Option.some.inj h]
      exact List.Forall₂.nil
  | cons a rest ih =>
      rw [List.mapM_cons] at h
      simp only [Option.bind_eq_bind, Option.bind_eq_some_iff, Option.pure_def] at h
      obtain ⟨b, hb, bs, hbs, heq⟩ := h
      rw [← Option.some.inj heq]
      exact List.Forall₂.cons hb (ih hbs)

theorem exists_mapM {α β : Type} {f : α → Option β} {l : List α}
    (h : ∀ a ∈ l, ∃ b, f a = some b) : ∃ m, l.mapM f = some m := by
  induction l with
  | nil => exact ⟨[], rfl⟩
  | cons a rest ih =>
      obtain ⟨b, hb⟩ := h a List.mem_cons_self
      obtain ⟨m, hm⟩ := ih fun c hc => h c (List.mem_cons_of_mem a hc)
      exact ⟨b :: m, by rw [List.mapM_cons, hb, hm]; rfl⟩

/-- Each item of a list has its like in a list that goes with it item by item. -/
theorem exists_of_forall₂ {α β : Type} {R : α → β → Prop} {l : List α} {m : List β}
    (h : List.Forall₂ R l m) {a : α} (ha : a ∈ l) : ∃ b ∈ m, R a b := by
  induction h with
  | nil => simp at ha
  | cons hb _ ih =>
      rcases List.mem_cons.mp ha with rfl | ha
      · exact ⟨_, List.mem_cons_self, hb⟩
      · obtain ⟨b, hmem, hb⟩ := ih ha
        exact ⟨b, List.mem_cons_of_mem _ hmem, hb⟩

/-- A list whose items are checked is read as itself if every item passes. -/
theorem mapM_check {α : Type} (p : α → Prop) [DecidablePred p] (l : List α) :
    (l.mapM fun a => if p a then some a else none) = if ∀ a ∈ l, p a then some l else none := by
  induction l with
  | nil => simp
  | cons a rest ih =>
      rw [List.mapM_cons, ih]
      by_cases ha : p a
      · by_cases hrest : ∀ b ∈ rest, p b
        · rw [if_pos ha, if_pos hrest, if_pos (List.forall_mem_cons.mpr ⟨ha, hrest⟩)]
          rfl
        · rw [if_pos ha, if_neg hrest, if_neg fun h => hrest (List.forall_mem_cons.mp h).2]
          rfl
      · rw [if_neg ha, if_neg fun h => ha (List.forall_mem_cons.mp h).1]
        rfl

section Fields

variable {members : List (String × Value)}

theorem memberTerms_eq_map (members : List (String × Value)) :
    memberTerms members = members.map fun m => (some m.1, m.2.term) := by
  induction members with
  | nil => rfl
  | cons m rest ih =>
      obtain ⟨name, v⟩ := m
      rw [memberTerms, ih, List.map_cons]

/-- Among different names each is found at most once. -/
theorem pickField_memberTerms (hnames : (members.map Prod.fst).Nodup) (name : String) :
    pickField (memberTerms members) name = some ((members.lookup name).map Value.term) := by
  unfold pickField
  rw [memberTerms_eq_map]
  induction members with
  | nil => rfl
  | cons m rest ih =>
      obtain ⟨key, v⟩ := m
      rw [List.map_cons, List.nodup_cons] at hnames
      obtain ⟨hkey, hrest⟩ := hnames
      by_cases hname : key = name
      · subst hname
        have hnone : rest.filter (fun m => m.1 == key) = [] := by
          rw [List.filter_eq_nil_iff]
          intro m hm heq
          exact hkey (List.mem_map.mpr ⟨m, hm, by simpa using heq⟩)
        simp [List.filter_map, Function.comp_def, hnone, atMostOne]
      · have hneq : name ≠ key := Ne.symm hname
        have hbeq : (name == key) = false := by simpa using hneq
        have ih := ih hrest
        simpa [hname, List.lookup_cons, hbeq] using ih

/-- The fields of an object, whatever order they are asked for in. -/
theorem fields?_object (hnames : (members.map Prod.fst).Nodup) (names : List String) :
    (Value.object members).term.fields? names =
      some ⟨false, names.map fun name => (members.lookup name).map Value.term⟩ := by
  have hnamed : (memberTerms members).all (fun m => m.1.isSome) = true := by
    rw [memberTerms_eq_map, List.all_map, List.all_eq_true]
    exact fun _ _ => rfl
  have hpick : pickField (memberTerms members) =
      fun name => some ((members.lookup name).map Value.term) :=
    funext fun name => pickField_memberTerms hnames name
  rw [Value.term, Term.fields?, if_pos hnamed, hpick]
  rw [mapM_eq_some_map fun _ _ => rfl]
  rfl

end Fields

theorem items?_array {α β : Type} (write : α → Value) (read : Term → Option β) (l : List α) :
    (Value.array (l.map write)).term.items? read = l.mapM fun a => read (write a).term := by
  rw [Value.term, itemTerms_eq_map, Term.items?, List.map_map, List.mapM_map]
  rfl

section Integers

/-- An integer from the least signed word to the greatest unsigned one is read as itself; one
outside is read as a fraction or not at all. -/
theorem value?_integerNumber (i : Int) :
    (integerNumber i).value? = some (.int i) ∨
      (¬ (-(Nat.pow 2 63 : Int) ≤ i ∧ i ≤ maxWord) ∧
        ∀ j, (integerNumber i).value? ≠ some (.int j)) := by
  have hwhole := ofDigits_digitChars i.natAbs
  have hpow : Nat.pow 2 63 = 9223372036854775808 := by decide
  unfold NumberText.value? integerNumber
  simp only [hwhole, Option.isSome_none, Bool.false_eq_true, false_or]
  by_cases hword : maxWord < i.natAbs
  · refine Or.inr ⟨?_, fun j => ?_⟩
    · have hmax : maxWord = 18446744073709551615 := by decide
      omega
    · rw [if_pos hword]
      cases NumberText.double? _ with
      | none => simp
      | some x => simp
  · rw [if_neg hword]
    by_cases hneg : i < 0
    · have hne : i.natAbs ≠ 0 := by omega
      by_cases hfits : i.natAbs ≤ Nat.pow 2 63
      · have heq : -(i.natAbs : Int) = i := by omega
        apply Or.inl
        simp only [hneg, hne, hfits, decide_true, not_true, if_true, if_false, heq]
      · refine Or.inr ⟨by omega, fun j => ?_⟩
        simp [hneg, hne, hfits]
    · have heq : (i.natAbs : Int) = i := by omega
      apply Or.inl
      simp only [hneg, decide_false, Bool.false_eq_true, not_false_eq_true, if_true, heq]

theorem natural?_nat {limit : Nat} (hlimit : limit ≤ maxWord) (n : Nat) :
    (Value.nat n).term.natural? limit = if n ≤ limit then some n else none := by
  rw [Value.nat, Value.term, Term.natural?]
  rcases value?_integerNumber n with hvalue | ⟨hout, hvalue⟩
  · rw [hvalue]
  · have hlarge : ¬ n ≤ limit := by omega
    rw [if_neg hlarge]
    split
    · rename_i heq
      exact absurd heq (hvalue _)
    · rfl

theorem word?_nat (n : Nat) :
    (Value.nat n).term.word? = if n ≤ maxWord then some n else none :=
  natural?_nat (Nat.le_refl _) n

theorem halfWord?_nat (n : Nat) :
    (Value.nat n).term.halfWord? = if n ≤ Nat.pow 2 32 - 1 then some n else none :=
  natural?_nat (by decide) n

theorem integer?_int (i : Int) :
    (Value.int i).term.integer? = if fitsSigned 64 i then some i else none := by
  have hpow : Nat.pow 2 63 = 9223372036854775808 := by decide
  have hmax : maxWord = 18446744073709551615 := by decide
  rw [Value.term, Term.integer?]
  rcases value?_integerNumber i with hvalue | ⟨hout, hvalue⟩
  · rw [hvalue]
  · have hlarge : ¬ fitsSigned 64 i = true := by
      simp only [fitsSigned, Bool.and_eq_true, decide_eq_true_eq, Nat.add_one_sub_one, hpow]
      omega
    rw [if_neg hlarge]
    split
    · rename_i heq
      exact absurd heq (hvalue _)
    · rfl

end Integers

end Vicinity.Json
