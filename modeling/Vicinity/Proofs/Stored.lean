import Vicinity.Stored.Snapshot
import Vicinity.Manifest
import Vicinity.Proofs.Json.Records

/-!
Index files and manifests read back after they were written. Names, integers, links and the
vectors of sparse and bit spaces come back as they were. The components of dense vectors come back
as the reader of numbers takes them, and a component that is not finite spoils the file.
-/

namespace Vicinity

open Json (Term Value)
open Number (fitsSigned maxWord)

theorem readString (s : String) : (Value.string s).term.text? = some s := rfl

theorem readOptional {n : Nat} :
    (Value.nat n).term.optional? Term.word? = if n ≤ maxWord then some (some n) else none := by
  have hread : (Value.nat n).term.optional? Term.word? = ((Value.nat n).term.word?).map some := rfl
  rw [hread, Json.word?_nat]
  split <;> rfl

theorem readWord (w : UInt32) : (Value.nat w.toNat).term.halfWord? = some w.toNat := by
  have hw := w.toNat_lt
  have hpow : Nat.pow 2 32 = 4294967296 := by decide
  rw [Json.halfWord?_nat, if_pos (by omega)]

/-- A list of words comes back as it was. -/
theorem readWords (words : List UInt32) :
    (Value.array (words.map fun w => .nat w.toNat)).term.items? Term.halfWord? =
      some (words.map UInt32.toNat) := by
  rw [Json.items?_array]
  exact Json.mapM_eq_some_map fun w _ => readWord w

theorem ofNat_map_toNat (words : List UInt32) :
    (words.map UInt32.toNat).map UInt32.ofNat = words := by
  simp [Function.comp_def]

theorem PackedBits.ofTerm?_toJson (b : PackedBits) : PackedBits.ofTerm? b.toJson.term = some b := by
  unfold PackedBits.ofTerm? PackedBits.toJson
  rw [Json.fields?_object (by simp)]
  simp [Json.Fields.required, Json.Fields.term?, List.lookup_cons, readWords, Function.comp_def]

namespace Space

theorem find?_name (s : Space) : (all.find? fun t => t.name == s.name) = some s := by
  cases s <;> rfl

theorem ofTerm?_toJson (s : Space) : ofTerm? s.toJson.term = some s := find?_name s

end Space

namespace Single

/-- Whether a number is neither infinite nor a NaN. -/
def IsFinite (x : Single) : Prop := x.bits.toNat % 0x80000000 < 0x7F800000

instance (x : Single) : Decidable x.IsFinite := inferInstanceAs (Decidable (_ < _))

/-- Whether a number is read as it was before it was written. -/
def Restored (x : Single) : Prop := (Value.single x).term.single? = some x

instance (x : Single) : Decidable x.Restored := inferInstanceAs (Decidable (_ = _))

theorem ofSingle_of_not_isFinite {x : Single} (h : ¬ x.IsFinite) :
    Number.ofSingle x = .nan ∨ ∃ negative, Number.ofSingle x = .infinite negative := by
  have htop : x.bits.toNat / Nat.pow 2 23 % Nat.pow 2 8 = Nat.pow 2 8 - 1 := by
    have hexponent : Nat.pow 2 8 = 256 := by decide
    have hfraction : Nat.pow 2 23 = 8388608 := by decide
    unfold IsFinite at h
    rw [hexponent, hfraction]
    omega
  unfold Number.ofSingle Number.Format.decode
  simp only [Number.single, Nat.add_one_sub_one, htop, if_true]
  by_cases hfraction : x.bits.toNat % Nat.pow 2 23 = 0
  · exact Or.inr ⟨_, if_pos hfraction⟩
  · exact Or.inl (if_neg hfraction)

/-- A number that is not finite is written as `null`, which is not read as a number. -/
theorem single?_of_not_isFinite {x : Single} (h : ¬ x.IsFinite) :
    (Value.single x).term.single? = none := by
  rw [Value.term]
  rcases ofSingle_of_not_isFinite h with hvalue | ⟨negative, hvalue⟩ <;> rw [hvalue] <;> rfl

end Single

namespace Encoded

def reread : Encoded → Option Encoded
  | dense values => (values.mapM fun x => (Value.single x).term.single?).map dense
  | v => some v

/-- A vector without components that are numbers comes back as it was. -/
theorem reread_eq {v : Encoded} (h : v.encoding ≠ .dense) : v.reread = some v := by
  cases v with
  | dense values => exact absurd rfl h
  | sparse indices => rfl
  | bits packed => rfl

/-- A vector whose components are all read as they were comes back as it was. -/
theorem reread_dense {values : List Single} (h : ∀ x ∈ values, x.Restored) :
    (dense values).reread = some (dense values) := by
  have hvalues : (values.mapM fun x => (Value.single x).term.single?) = some (values.map id) :=
    Json.mapM_eq_some_map h
  rw [reread, hvalues, Option.map_some, List.map_id]

/-- A vector that can be read at all has no component that is infinite or a NaN. -/
theorem isFinite_of_reread {values : List Single} {v : Encoded}
    (h : (dense values).reread = some v) : ∀ x ∈ values, x.IsFinite := by
  obtain ⟨values', hvalues, -⟩ := Option.map_eq_some_iff.mp h
  intro x hx
  by_contra hinfinite
  obtain ⟨y, -, hy⟩ := Json.exists_of_forall₂ (Json.mapM_forall₂ hvalues) hx
  rw [Single.single?_of_not_isFinite hinfinite] at hy
  simp at hy

theorem ofTag?_tag (e : Encoding) : Encoding.ofTag? e.tag = some e := by cases e <;> rfl

theorem ofData?_dataJson (v : Encoded) : ofData? v.encoding v.dataJson.term = v.reread := by
  cases v with
  | dense values =>
      rw [encoding, ofData?, dataJson, Json.items?_array]
      rfl
  | sparse indices =>
      rw [encoding, ofData?, dataJson, readWords, Option.map_some, ofNat_map_toNat]
      rfl
  | bits packed =>
      rw [encoding, ofData?, dataJson, PackedBits.ofTerm?_toJson]
      rfl

theorem ofTerm?_toJson (outer : Nat) (v : Encoded) : ofTerm? outer v.toJson.term = v.reread := by
  unfold ofTerm? toJson
  rw [Json.fields?_object (by simp)]
  simp [Json.Fields.required, Json.Fields.term?, List.lookup_cons, Value.term, Term.choice?,
    Json.memberTerms, dataFirst, ofTag?_tag, ofData?_dataJson]

end Encoded

namespace Entry

/-- A stored vector after it was written and read. -/
def reread (e : Entry) : Option Entry :=
  if fitsSigned 64 e.id then e.vector.reread.map fun v => { e with vector := v } else none

theorem ofTerm?_toJson (e : Entry) : ofTerm? e.toJson.term = e.reread := by
  unfold ofTerm? toJson reread
  rw [Json.fields?_object (by simp)]
  simp [Json.Fields.required, Json.Fields.term?, List.lookup_cons, Json.integer?_int,
    Json.bind_check, Encoded.ofTerm?_toJson]
  cases e.vector.reread <;> simp

theorem reread_eq {e : Entry} (hid : fitsSigned 64 e.id = true) (h : e.vector.encoding ≠ .dense) :
    e.reread = some e := by
  rw [reread, if_pos hid, Encoded.reread_eq h, Option.map_some]

theorem reread_spec {e e' : Entry} (h : e.reread = some e') :
    fitsSigned 64 e.id = true ∧ e'.id = e.id ∧ e.vector.reread = some e'.vector := by
  unfold reread at h
  split at h
  · rename_i hid
    obtain ⟨v, hv, rfl⟩ := Option.map_eq_some_iff.mp h
    exact ⟨hid, rfl, hv⟩
  · simp at h

/-- Where every vector comes back as it was, so do the entries. -/
theorem eq_of_vectors {entries entries' : List Entry}
    (h : entries.mapM reread = some entries')
    (hvectors : ∀ e ∈ entries, e.vector.reread = some e.vector) : entries' = entries := by
  have hread := Json.mapM_forall₂ h
  clear h
  induction hread with
  | nil => rfl
  | @cons e e' rest rest' he _ ih =>
      obtain ⟨-, hid, hvector⟩ := reread_spec he
      rw [hvectors e List.mem_cons_self] at hvector
      have he : e' = e := by
        cases e
        cases e'
        simp_all
      rw [he, ih fun d hd => hvectors d (List.mem_cons_of_mem e hd)]

end Entry

namespace Node

/-- Whether the id and the links of a node fit in the words they are read into. -/
abbrev InWords (n : Node) : Prop :=
  fitsSigned 64 n.id = true ∧ ∀ links ∈ n.links, ∀ l ∈ links, l ≤ Nat.pow 2 32 - 1

def reread (n : Node) : Option Node :=
  if n.InWords then n.vector.reread.map fun v => { n with vector := v } else none

theorem readLinks (links : List (List Nat)) :
    (Value.array (links.map fun links => .array (links.map .nat))).term.items?
        (Term.items? Term.halfWord?) =
      if ∀ l ∈ links, ∀ i ∈ l, i ≤ Nat.pow 2 32 - 1 then some links else none := by
  rw [Json.items?_array]
  simp only [Json.items?_array, Json.halfWord?_nat, Json.mapM_check]

theorem ofTerm?_toJson (n : Node) : ofTerm? n.toJson.term = n.reread := by
  unfold ofTerm? toJson reread
  rw [Json.fields?_object (by simp)]
  simp [Json.Fields.required, Json.Fields.term?, List.lookup_cons, Json.integer?_int,
    Json.bind_check, Encoded.ofTerm?_toJson, readLinks, ite_and]
  cases n.vector.reread <;> simp

theorem reread_spec {n n' : Node} (h : n.reread = some n') :
    n'.id = n.id ∧ n'.links = n.links ∧ n.vector.reread = some n'.vector := by
  unfold reread at h
  split at h
  · obtain ⟨v, hv, rfl⟩ := Option.map_eq_some_iff.mp h
    exact ⟨rfl, rfl, hv⟩
  · simp at h

end Node

namespace GraphConfig

/-- Whether the numbers of a configuration fit in words. -/
abbrev InWords (c : GraphConfig) : Prop :=
  c.m ≤ maxWord ∧ c.bottomLinks ≤ maxWord ∧ c.efConstruction ≤ maxWord ∧ c.efSearch ≤ maxWord

theorem ofTerm?_toJson (c : GraphConfig) :
    ofTerm? c.toJson.term = if c.InWords then some c else none := by
  unfold ofTerm? toJson
  rw [Json.fields?_object (by simp)]
  simp [Json.Fields.required, Json.Fields.term?, List.lookup_cons, Json.word?_nat, Json.bind_check,
    ite_and]

end GraphConfig

namespace Graph

/-- Whether the numbers of a graph outside its nodes fit in the words they are read into. -/
abbrev InWords (g : Graph) : Prop :=
  g.config.InWords ∧ (∀ e ∈ g.entry, e ≤ Nat.pow 2 32 - 1) ∧ g.maxLevel ≤ maxWord

def reread (g : Graph) : Option Graph :=
  if g.InWords then
    (g.nodes.toList.mapM Node.reread).map fun nodes => { g with nodes := nodes.toArray }
  else none

end Graph

namespace EntrySnapshot

theorem ofText?_render (s : EntrySnapshot) :
    ofText? s.render = (s.entries.mapM Entry.reread).map fun entries => { s with entries } := by
  unfold ofText? render
  rw [Json.ofText?_compact, Option.bind_eq_bind, Option.bind_some]
  unfold ofTerm? toJson
  rw [Json.fields?_object (by simp)]
  simp [Json.Fields.required, Json.Fields.term?, List.lookup_cons, readString, Json.items?_array,
    Entry.ofTerm?_toJson]
  cases s.entries.mapM Entry.reread <;> simp

end EntrySnapshot

namespace GraphSnapshot

theorem readEntry (entry : Option Nat) :
    (Value.ofOption .nat entry).term.optional? Term.halfWord? =
      if ∀ e ∈ entry, e ≤ Nat.pow 2 32 - 1 then some entry else none := by
  cases entry with
  | none => simp [Value.ofOption, Value.term, Term.optional?]
  | some e =>
      have hread : (Value.nat e).term.optional? Term.halfWord? =
          ((Value.nat e).term.halfWord?).map some := rfl
      rw [Value.ofOption, hread, Json.halfWord?_nat]
      split <;> simp_all

theorem ofText?_render (s : GraphSnapshot) :
    ofText? s.render = s.graph.reread.map fun graph => { s with graph } := by
  unfold ofText? render
  rw [Json.ofText?_compact, Option.bind_eq_bind, Option.bind_some]
  unfold ofTerm? toJson Graph.reread entryField
  rw [Json.fields?_object (by simp)]
  simp [Json.Fields.required, Json.Fields.withDefault, Json.Fields.term?, List.lookup_cons,
    readString, readEntry, GraphConfig.ofTerm?_toJson, Json.word?_nat, Json.bind_check,
    Json.items?_array, Node.ofTerm?_toJson]
  cases s.graph.nodes.toList.mapM Node.reread with
  | none => simp
  | some nodes =>
      simp [ite_and, apply_ite (Option.map _)]

end GraphSnapshot

namespace BuildParams

abbrev InWords (p : BuildParams) : Prop :=
  (∀ n ∈ p.efConstruction, n ≤ maxWord) ∧ (∀ n ∈ p.m, n ≤ maxWord) ∧
    ∀ n ∈ p.threadCount, n ≤ maxWord

theorem ofTerm?_toJson (p : BuildParams) :
    ofTerm? p.toJson.term = if p.InWords then some p else none := by
  obtain ⟨efConstruction, m, threadCount⟩ := p
  unfold ofTerm? toJson
  cases efConstruction <;> cases m <;> cases threadCount
  all_goals
    rw [Json.fields?_object (by simp [optionalMember])]
    simp [optionalMember, Json.Fields.withDefault, Json.Fields.term?, List.lookup_cons,
      readOptional, Json.bind_check, ite_and]

end BuildParams

namespace Manifest

/-- Whether the numbers of a manifest fit in the words they are read into. -/
abbrev InWords (m : Manifest) : Prop :=
  m.formatVersion ≤ Nat.pow 2 32 - 1 ∧ m.dimension ≤ maxWord ∧ m.vectorCount ≤ maxWord ∧
    m.buildParams.InWords ∧ fitsSigned 64 m.createdAt = true

theorem ofText?_pretty (m : Manifest) :
    ofText? m.toJson.pretty = if m.InWords then some m else none := by
  unfold ofText?
  rw [Json.ofText?_pretty, Option.bind_eq_bind, Option.bind_some]
  unfold ofTerm? toJson
  rw [Json.fields?_object (by simp)]
  simp [Json.Fields.required, Json.Fields.withDefault, Json.Fields.term?, List.lookup_cons,
    readString, Json.word?_nat, Json.halfWord?_nat, Json.integer?_int, Json.bind_check,
    Space.ofTerm?_toJson, BuildParams.ofTerm?_toJson]
  simp [ite_and]

end Manifest

end Vicinity
