import Vicinity.Index.Seam
import Vicinity.Proofs.Number.Digits

/-!
Tuning parameters on their way to a backend. A parameter that is present is passed on as its
digits and read back as itself, one that is absent is not found, and none gets in another's way.
-/

namespace Vicinity

open Number (maxWord)

/-- Two checks in a row pass when both do. -/
theorem bind_eq_ok_iff {ε α β : Type} {x : Except ε α} {f : α → Except ε β} {b : β} :
    (x >>= f) = .ok b ↔ ∃ a, x = .ok a ∧ f a = .ok b := by
  cases x with
  | error e => exact iff_of_false (fun h => by cases h) fun ⟨_, h, _⟩ => by cases h
  | ok a => exact ⟨fun h => ⟨a, rfl, h⟩, fun ⟨_, ha, h⟩ => by cases ha; exact h⟩

/-- What a backend reads for a parameter that was given as an optional number. -/
def passedOn (name : String) : Option Nat → Except Error (Option Nat)
  | none => .ok none
  | some n =>
    if 0 < n ∧ n ≤ maxWord then .ok (some n)
    else .error (.index (.badParameter name (toString n)))

theorem eq_of_passedOn {name : String} {value given : Option Nat}
    (h : passedOn name value = .ok given) : given = value := by
  unfold passedOn at h
  cases value with
  | none => exact (Except.ok.inj h).symm
  | some n =>
      dsimp only at h
      split at h
      · exact (Except.ok.inj h).symm
      · simp at h

theorem le_of_passedOn {name : String} {value given : Option Nat}
    (h : passedOn name value = .ok given) : ∀ n ∈ given, n ≤ maxWord := by
  cases eq_of_passedOn h
  intro n hn
  rw [Option.mem_def.mp hn, passedOn] at h
  split at h
  · rename_i hword
    exact hword.2
  · simp at h

theorem requirePositive_eq_ok_iff {name : String} {value : Option Nat} {u : Unit} :
    requirePositive name value = .ok u ↔ value ≠ some 0 := by
  unfold requirePositive
  split
  · simp
  · rename_i hpositive
    exact iff_of_true rfl hpositive

/-- A valid number that fits in a word arrives. -/
theorem passedOn_of_valid {name : String} {value : Option Nat}
    (hvalid : requirePositive name value = .ok ()) (hword : ∀ n ∈ value, n ≤ maxWord) :
    passedOn name value = .ok value := by
  unfold passedOn
  cases value with
  | none => rfl
  | some n =>
      cases n with
      | zero => simp [requirePositive] at hvalid
      | succ n => exact if_pos ⟨Nat.succ_pos n, hword _ rfl⟩

theorem Params.getPositive?_of_get? {p : Params} {name : String} {value : Option Nat}
    (h : p.get? name = value.map toString) : p.getPositive? name = passedOn name value := by
  unfold getPositive? passedOn
  rw [h]
  cases value with
  | none => rfl
  | some n =>
      simp only [Option.map_some, Number.word?_toString]
      by_cases hword : n ≤ maxWord
      · rw [if_pos hword]
        cases n with
        | zero => rfl
        | succ n => simp [hword]
      · rw [if_neg hword, if_neg fun h => hword h.2]

namespace BuildParams

/-- The parameters that are present, each with its name and its digits. -/
def present (p : BuildParams) : List (String × String) :=
  [("efConstruction", p.efConstruction), ("M", p.m), ("indexThreadQty", p.threadCount)].filterMap
    fun c => c.2.map fun n => (c.1, toString n)

theorem toParams_eq (p : BuildParams) : p.toParams = ⟨p.present⟩ := by
  obtain ⟨efConstruction, m, threadCount⟩ := p
  cases efConstruction <;> cases m <;> cases threadCount <;> rfl

/-- Links of a node in an index that is built with the given parameters. -/
def links (p : BuildParams) : Nat := p.m.getD GraphConfig.standardM

/-- Beam width of building with the given parameters. -/
def beam (p : BuildParams) : Nat := p.efConstruction.getD GraphConfig.standardEfConstruction

theorem getPositive?_m (p : BuildParams) :
    p.toParams.getPositive? ParamName.m = passedOn ParamName.m p.m := by
  apply Params.getPositive?_of_get?
  obtain ⟨efConstruction, m, threadCount⟩ := p
  cases efConstruction <;> cases m <;> cases threadCount <;> rfl

theorem getPositive?_efConstruction (p : BuildParams) :
    p.toParams.getPositive? ParamName.efConstruction =
      passedOn ParamName.efConstruction p.efConstruction := by
  apply Params.getPositive?_of_get?
  obtain ⟨efConstruction, m, threadCount⟩ := p
  cases efConstruction <;> cases m <;> cases threadCount <;> rfl

theorem getPositive?_threadCount (p : BuildParams) :
    p.toParams.getPositive? ParamName.threadCount =
      passedOn ParamName.threadCount p.threadCount := by
  apply Params.getPositive?_of_get?
  obtain ⟨efConstruction, m, threadCount⟩ := p
  cases efConstruction <;> cases m <;> cases threadCount <;> rfl

theorem validate_eq_ok_iff {p : BuildParams} :
    p.validate = .ok () ↔ p.efConstruction ≠ some 0 ∧ p.m ≠ some 0 ∧ p.threadCount ≠ some 0 := by
  simp only [validate, bind_eq_ok_iff, requirePositive_eq_ok_iff, exists_const]

theorem checkKnown_toParams (p : BuildParams) : p.toParams.checkKnown constructNames = .ok () := by
  obtain ⟨efConstruction, m, threadCount⟩ := p
  cases efConstruction <;> cases m <;> cases threadCount <;> rfl

end BuildParams

namespace QueryParams

/-- The beam width that a search is asked for. -/
def beam (p : QueryParams) : Nat := p.efSearch.getD GraphConfig.standardEfSearch

theorem getPositive?_efSearch (p : QueryParams) :
    p.toParams.getPositive? ParamName.efSearch = passedOn ParamName.efSearch p.efSearch := by
  apply Params.getPositive?_of_get?
  obtain ⟨efSearch⟩ := p
  cases efSearch <;> rfl

theorem checkKnown_toParams (p : QueryParams) : p.toParams.checkKnown searchNames = .ok () := by
  obtain ⟨efSearch⟩ := p
  cases efSearch <;> rfl

end QueryParams

end Vicinity
