import Vicinity.Proofs.Dataset

/-!
Which batches are accepted, and why the others are refused. A batch is accepted exactly if it passes
every check, and the error of another one is that of the first check it does not pass. A batch that
is refused is refused before its first vector is encoded, and in one that passes the checks every
vector can be encoded.
-/

namespace Vicinity

section Repeated

variable {seen ids front back : List Int} {id : Int}

theorem firstRepeated_of_split (hfront : firstRepeated seen front = none)
    (hagain : id ∈ seen ∨ id ∈ front) : firstRepeated seen (front ++ id :: back) = some id := by
  induction front generalizing seen with
  | nil =>
      have hseen : id ∈ seen := hagain.resolve_right List.not_mem_nil
      rw [List.nil_append, firstRepeated, if_pos hseen]
  | cons i front ih =>
      rw [firstRepeated] at hfront
      split at hfront
      · cases hfront
      rename_i hi
      rw [List.cons_append, firstRepeated, if_neg hi]
      refine ih hfront ?_
      rcases hagain with hagain | hagain
      · exact .inl (List.mem_cons_of_mem i hagain)
      · rcases List.mem_cons.mp hagain with rfl | hagain
        · exact .inl List.mem_cons_self
        · exact .inr hagain

theorem exists_split_of_firstRepeated (h : firstRepeated seen ids = some id) :
    ∃ front back, ids = front ++ id :: back ∧ firstRepeated seen front = none ∧
      (id ∈ seen ∨ id ∈ front) := by
  induction ids generalizing seen with
  | nil => cases h
  | cons i rest ih =>
      rw [firstRepeated] at h
      split at h
      · rename_i hi
        obtain rfl := Option.some.inj h
        exact ⟨[], rest, rfl, rfl, .inl hi⟩
      · rename_i hi
        obtain ⟨front, back, rfl, hfront, hagain⟩ := ih h
        refine ⟨i :: front, back, rfl, by rw [firstRepeated, if_neg hi, hfront], ?_⟩
        rcases hagain with hagain | hagain
        · rcases List.mem_cons.mp hagain with rfl | hagain
          · exact .inr List.mem_cons_self
          · exact .inl hagain
        · exact .inr (List.mem_cons_of_mem i hagain)

/-- The first id that repeats one before it. -/
theorem firstRepeated_eq_some_iff :
    firstRepeated [] ids = some id ↔
      ∃ front back, ids = front ++ id :: back ∧ front.Nodup ∧ id ∈ front := by
  constructor
  · intro h
    obtain ⟨front, back, hsplit, hfront, hagain⟩ := exists_split_of_firstRepeated h
    exact ⟨front, back, hsplit, ((firstRepeated_eq_none_iff [] front).mp hfront).1,
      hagain.resolve_left List.not_mem_nil⟩
  · rintro ⟨front, back, rfl, hdistinct, hagain⟩
    refine firstRepeated_of_split ?_ (.inr hagain)
    exact (firstRepeated_eq_none_iff [] front).mpr ⟨hdistinct, fun _ _ => List.not_mem_nil⟩

end Repeated

theorem Space.encoding_eq_bits_iff (s : Space) : s.encoding = .bits ↔ s = .bitJaccard := by
  cases s <;> decide

namespace Dataset

/-- Why a batch is refused: the first condition that does not hold, with all before it holding. -/
inductive Refused (space : Space) : List Int → List RawVector → Error → Prop
  | unmatched {ids : List Int} {vectors : List RawVector}
      (unequal : ids.length ≠ vectors.length) :
      Refused space ids vectors (.dimensionMismatch .idsAndVectors ids.length vectors.length)
  | empty : Refused space [] [] (.badArgument .emptyBatch)
  | uneven {ids : List Int} {first other : RawVector} {front back : List RawVector}
      (matched : ids.length = (first :: (front ++ other :: back)).length)
      (alike : ∀ v ∈ front, v.length = first.length) (unlike : other.length ≠ first.length) :
      Refused space ids (first :: (front ++ other :: back))
        (.dimensionMismatch .vectorLengths first.length other.length)
  | narrow {ids : List Int} {first : RawVector} {rest : List RawVector}
      (matched : ids.length = (first :: rest).length)
      (alike : ∀ v ∈ rest, v.length = first.length) (packed : space = .bitJaccard)
      (few : first.length < 2) :
      Refused space ids (first :: rest) (.bitsTooFew first.length)
  | repeated {id : Int} {front back : List Int} {first : RawVector} {rest : List RawVector}
      (matched : (front ++ id :: back).length = (first :: rest).length)
      (alike : ∀ v ∈ rest, v.length = first.length)
      (wide : space = .bitJaccard → 2 ≤ first.length) (distinct : front.Nodup)
      (again : id ∈ front) :
      Refused space (front ++ id :: back) (first :: rest) (.badArgument (.duplicateId id))

variable {space : Space} {ids : List Int} {vectors : List RawVector} {dimension : Nat} {e : Error}

theorem find?_length_eq_none_iff (first : RawVector) (rest : List RawVector) :
    ((first :: rest).find? fun v => v.length != first.length) = none ↔
      ∀ v ∈ rest, v.length = first.length := by
  simp [List.find?_eq_none]

/-- The check that only one space needs. -/
theorem checkPackable_eq (space : Space) (dimension : Nat) :
    (if space.encoding = .bits then checkBitDimension dimension else .ok ()) =
      if space = .bitJaccard ∧ dimension < 2 then .error (.bitsTooFew dimension) else .ok () := by
  unfold checkBitDimension minBitDimension
  by_cases hspace : space = .bitJaccard
  · by_cases hfew : dimension < 2 <;> simp [hspace, Space.encoding, hfew]
  · simp [hspace, Space.encoding_eq_bits_iff]

/-- The checks of a batch of as many vectors as ids, by the lengths of the vectors. -/
theorem checkShape_of_matched {first : RawVector} {rest : List RawVector}
    (hmatched : ids.length = (first :: rest).length)
    (halike : ∀ v ∈ rest, v.length = first.length) :
    checkShape space ids (first :: rest) =
      if space = .bitJaccard ∧ first.length < 2 then .error (.bitsTooFew first.length)
      else
        match firstRepeated [] ids with
        | some id => .error (.badArgument (.duplicateId id))
        | none => .ok first.length := by
  unfold checkShape
  rw [if_neg (not_not_intro hmatched)]
  simp only [(find?_length_eq_none_iff first rest).mpr halike, checkPackable_eq]
  by_cases hnarrow : space = .bitJaccard ∧ first.length < 2
  · simp only [if_pos hnarrow]
  · cases firstRepeated [] ids with
    | none => simp only [if_neg hnarrow]
    | some id => simp only [if_neg hnarrow]

/-- A refused batch gets the error of the check that it does not pass. -/
theorem checkShape_of_refused (h : Refused space ids vectors e) :
    checkShape space ids vectors = .error e := by
  cases h with
  | unmatched unequal =>
      unfold checkShape
      rw [if_pos unequal]
  | empty => rfl
  | @uneven ids first other front back matched alike unlike =>
      have hother : (first :: (front ++ other :: back)).find?
          (fun v => v.length != first.length) = some other := by
        rw [List.find?_eq_some_iff_append]
        refine ⟨by simpa using unlike, first :: front, back, rfl, fun v hv => ?_⟩
        rcases List.mem_cons.mp hv with rfl | hv
        · simp
        · simp [alike v hv]
      unfold checkShape
      rw [if_neg (not_not_intro matched)]
      simp only [hother]
  | narrow matched alike packed few =>
      rw [checkShape_of_matched matched alike, if_pos ⟨packed, few⟩]
  | @repeated id front back first rest matched alike wide distinct again =>
      have hrepeated : firstRepeated [] (front ++ id :: back) = some id :=
        firstRepeated_eq_some_iff.mpr ⟨front, back, rfl, distinct, again⟩
      have hwide : ¬ (space = .bitJaccard ∧ first.length < 2) :=
        fun hnarrow => Nat.not_lt.mpr (wide hnarrow.1) hnarrow.2
      rw [checkShape_of_matched matched alike, if_neg hwide, hrepeated]

/-- Every batch either passes all checks or is refused by the first that it does not pass. -/
theorem shaped_or_refused (space : Space) (ids : List Int) (vectors : List RawVector) :
    (∃ dimension, checkShape space ids vectors = .ok dimension ∧
      Shaped space ids vectors dimension) ∨ ∃ e, Refused space ids vectors e := by
  by_cases hmatched : ids.length ≠ vectors.length
  · exact .inr ⟨_, .unmatched hmatched⟩
  rw [ne_eq, not_not] at hmatched
  cases vectors with
  | nil =>
      obtain rfl := List.eq_nil_of_length_eq_zero hmatched
      exact .inr ⟨_, .empty⟩
  | cons first rest =>
  cases hother : (first :: rest).find? fun v => v.length != first.length with
  | some other =>
      obtain ⟨hunlike, front, back, hsplit, halike⟩ := List.find?_eq_some_iff_append.mp hother
      have hunlike : other.length ≠ first.length := by simpa using hunlike
      have halike : ∀ v ∈ front, v.length = first.length := by simpa using halike
      cases front with
      | nil => exact absurd (congrArg List.length (List.cons.inj hsplit).1).symm hunlike
      | cons v front =>
          obtain ⟨rfl, rfl⟩ := List.cons.inj hsplit
          exact .inr ⟨_, .uneven hmatched
            (fun v hv => halike v (List.mem_cons_of_mem _ hv)) hunlike⟩
  | none =>
  have halike := (find?_length_eq_none_iff first rest).mp hother
  by_cases hnarrow : space = .bitJaccard ∧ first.length < 2
  · exact .inr ⟨_, .narrow hmatched halike hnarrow.1 hnarrow.2⟩
  have hwide : space = .bitJaccard → 2 ≤ first.length :=
    fun hpacked => Nat.not_lt.mp fun hfew => hnarrow ⟨hpacked, hfew⟩
  cases hrepeated : firstRepeated [] ids with
  | some id =>
      obtain ⟨front, back, rfl, hdistinct, hagain⟩ := firstRepeated_eq_some_iff.mp hrepeated
      exact .inr ⟨_, .repeated hmatched halike hwide hdistinct hagain⟩
  | none =>
      have hok : checkShape space ids (first :: rest) = .ok first.length := by
        rw [checkShape_of_matched hmatched halike, if_neg hnarrow, hrepeated]
      exact .inl ⟨_, hok, checkShape_spec hok⟩

/-- The error of a batch that is not accepted says which check it does not pass. -/
theorem checkShape_eq_error_iff :
    checkShape space ids vectors = .error e ↔ Refused space ids vectors e := by
  refine ⟨fun h => ?_, checkShape_of_refused⟩
  rcases shaped_or_refused space ids vectors with ⟨dimension, hok, -⟩ | ⟨e', hrefused⟩
  · cases hok.symm.trans h
  · obtain rfl := Except.error.inj ((checkShape_of_refused hrefused).symm.trans h)
    exact hrefused

theorem Shaped.dimension_unique {dimension' : Nat} (h : Shaped space ids vectors dimension)
    (h' : Shaped space ids vectors dimension') : dimension = dimension' := by
  obtain ⟨v, hv⟩ := List.exists_mem_of_ne_nil vectors h.nonempty
  exact (h.uniform v hv).symm.trans (h'.uniform v hv)

/-- What is checked of a batch, by its first vector. -/
theorem shaped_iff :
    (∃ dimension, Shaped space ids vectors dimension) ↔
      ids.length = vectors.length ∧ vectors ≠ [] ∧
        (∀ first ∈ vectors.head?, (∀ v ∈ vectors, v.length = first.length) ∧
          (space = .bitJaccard → 2 ≤ first.length)) ∧ ids.Nodup := by
  constructor
  · rintro ⟨dimension, hshaped⟩
    refine ⟨hshaped.matched, hshaped.nonempty, fun first hfirst => ?_, hshaped.distinct⟩
    have hlength : first.length = dimension :=
      hshaped.uniform first (List.mem_of_mem_head? hfirst)
    rw [hlength]
    exact ⟨hshaped.uniform, fun hspace =>
      hshaped.packable ((Space.encoding_eq_bits_iff space).mpr hspace)⟩
  · rintro ⟨hmatched, hnonempty, hfirst, hdistinct⟩
    obtain ⟨first, rest, rfl⟩ := List.exists_cons_of_ne_nil hnonempty
    obtain ⟨huniform, hwide⟩ := hfirst first rfl
    exact ⟨first.length, hmatched, hnonempty, huniform,
      fun hpacked => hwide ((Space.encoding_eq_bits_iff space).mp hpacked), hdistinct⟩

/-- A batch with all the properties that are checked passes the checks. -/
theorem not_refused_of_shaped (h : Shaped space ids vectors dimension) :
    ¬ Refused space ids vectors e := by
  intro hrefused
  cases hrefused with
  | unmatched unequal => exact unequal h.matched
  | empty => exact h.nonempty rfl
  | @uneven ids first other front back matched alike unlike =>
      have hfirst := h.uniform first List.mem_cons_self
      have hother := h.uniform other (List.mem_cons_of_mem _ (by simp))
      exact unlike (hother.trans hfirst.symm)
  | @narrow ids first rest matched alike packed few =>
      have hfirst := h.uniform first List.mem_cons_self
      have hwide := h.packable ((Space.encoding_eq_bits_iff space).mpr packed)
      exact Nat.not_lt.mpr (hfirst ▸ hwide) few
  | @repeated id front back first rest matched alike wide distinct again =>
      exact (List.nodup_append.mp h.distinct).2.2 id again id List.mem_cons_self rfl

theorem checkShape_eq_ok_iff :
    checkShape space ids vectors = .ok dimension ↔ Shaped space ids vectors dimension := by
  refine ⟨checkShape_spec, fun h => ?_⟩
  rcases shaped_or_refused space ids vectors with ⟨dimension', hok, hshaped⟩ | ⟨e, hrefused⟩
  · rw [hok, hshaped.dimension_unique h]
  · exact absurd hrefused (not_refused_of_shaped h)

section Encoding

/-- Vectors that can be encoded are encoded each under its id. -/
theorem encodeAll_of_forall₂ {entries : List Entry} (hids : entries.map Entry.id = ids)
    (hencoded : List.Forall₂ (fun v e => space.encode v = .ok e.vector) vectors entries) :
    encodeAll space ids vectors = .ok entries := by
  induction hencoded generalizing ids with
  | nil =>
      subst hids
      rfl
  | cons hvector _ ih =>
      subst hids
      rw [List.map_cons, encodeAll, hvector]
      simp only [ih rfl]
      rfl

theorem exists_encodeAll (hmatched : ids.length = vectors.length)
    (hencode : ∀ v ∈ vectors, ∃ x, space.encode v = .ok x) :
    ∃ entries, encodeAll space ids vectors = .ok entries := by
  induction vectors generalizing ids with
  | nil =>
      obtain rfl := List.eq_nil_of_length_eq_zero hmatched
      exact ⟨[], rfl⟩
  | cons raw vectors ih =>
      obtain ⟨id, ids, rfl⟩ := List.exists_cons_of_length_eq_add_one hmatched
      obtain ⟨x, hx⟩ := hencode raw List.mem_cons_self
      obtain ⟨entries, hentries⟩ := ih (Nat.succ.inj hmatched) fun v hv =>
        hencode v (List.mem_cons_of_mem raw hv)
      refine ⟨⟨id, x⟩ :: entries, ?_⟩
      rw [encodeAll, hx]
      simp only [hentries]
      rfl

/-- No vector of a batch that passed the checks fails to be encoded. -/
theorem Shaped.encodes (h : Shaped space ids vectors dimension) :
    ∀ v ∈ vectors, ∃ x, space.encode v = .ok x :=
  fun v hv => exists_encode h fun _ => h.uniform v hv

theorem build_eq_ok_iff {dataset : Dataset} :
    build space ids vectors = .ok dataset ↔
      dataset.space = space ∧ Shaped space ids vectors dataset.dimension ∧
        dataset.entries.map Entry.id = ids ∧
        List.Forall₂ (fun v e => space.encode v = .ok e.vector) vectors dataset.entries := by
  refine ⟨build_spec, ?_⟩
  rintro ⟨hspace, hshaped, hids, hencoded⟩
  subst hspace
  rw [build, checkShape_eq_ok_iff.mpr hshaped]
  simp only [encodeAll_of_forall₂ hids hencoded]
  rfl

theorem exists_build (h : Shaped space ids vectors dimension) :
    ∃ dataset, build space ids vectors = .ok dataset := by
  obtain ⟨entries, hentries⟩ := exists_encodeAll h.matched h.encodes
  refine ⟨⟨space, dimension, entries⟩, ?_⟩
  rw [build, checkShape_eq_ok_iff.mpr h]
  simp only [hentries]
  rfl

theorem build_eq_error_iff :
    build space ids vectors = .error e ↔ Refused space ids vectors e := by
  rw [← checkShape_eq_error_iff]
  cases hshape : checkShape space ids vectors with
  | error e' =>
      have hbuild : build space ids vectors = .error e' := by
        rw [build, hshape]
      rw [hbuild, Except.error.injEq, Except.error.injEq]
  | ok dimension =>
      obtain ⟨dataset, hok⟩ := exists_build (checkShape_spec hshape)
      rw [hok]
      constructor <;> intro h <;> cases h

end Encoding

section Program

variable {m : Type → Type} [Monad m] [MonadExceptOf Error m]

/-- Has each vector of a batch encoded in turn. -/
def encodeAllIn (encode : RawVector → m Encoded) : List Int → List RawVector → m (List Entry)
  | id :: ids, raw :: vectors => do
    let vector ← encode raw
    let entries ← encodeAllIn encode ids vectors
    return ⟨id, vector⟩ :: entries
  | _, _ => return []

/-- A build whose encoder may do more than to give the form of a vector. -/
def buildIn (space : Space) (encode : RawVector → m Encoded) (ids : List Int)
    (vectors : List RawVector) : m Dataset := do
  let dimension ← ofExcept (checkShape space ids vectors)
  let entries ← encodeAllIn encode ids vectors
  return ⟨space, dimension, entries⟩

/-- An encoder that notes each vector it is given, whether or not that vector can be encoded. -/
def noting (space : Space) (raw : RawVector) : ExceptT Error (StateM (List RawVector)) Encoded := do
  modify (· ++ [raw])
  ofExcept (space.encode raw)

theorem encodeAllIn_encode (space : Space) (ids : List Int) (vectors : List RawVector) :
    encodeAllIn space.encode ids vectors = encodeAll space ids vectors := by
  induction ids generalizing vectors with
  | nil => rfl
  | cons id ids ih =>
      cases vectors with
      | nil => rfl
      | cons raw vectors =>
          rw [encodeAllIn, encodeAll, ih vectors]
          cases space.encode raw with
          | error e => rfl
          | ok vector => cases encodeAll space ids vectors <;> rfl

/-- With an encoder that does nothing else, this is the build. -/
theorem buildIn_encode (space : Space) (ids : List Int) (vectors : List RawVector) :
    buildIn space space.encode ids vectors = build space ids vectors := by
  rw [buildIn, build, encodeAllIn_encode]
  cases checkShape space ids vectors with
  | error e => rfl
  | ok dimension => cases encodeAll space ids vectors <;> rfl

/-- A batch that is refused is refused whatever the encoder does, and the encoder does nothing. -/
theorem buildIn_of_refused {σ : Type} (encode : RawVector → ExceptT Error (StateM σ) Encoded)
    (h : Refused space ids vectors e) (before : σ) :
    (buildIn space encode ids vectors).run before = (.error e, before) := by
  rw [buildIn, checkShape_of_refused h]
  rfl

/-- A program in two parts goes on from where its first part succeeded. -/
theorem run_bind_of_ok {σ α β : Type} {x : ExceptT Error (StateM σ) α} {a : α} {before after : σ}
    (hx : x.run before = (.ok a, after)) (f : α → ExceptT Error (StateM σ) β) :
    (x >>= f).run before = (f a).run after := by
  have hbind : (x >>= f).run before =
      match x.run before with
      | (r, s) => (ExceptT.bindCont f r : StateM σ (Except Error β)) s := rfl
  rw [hbind, hx]
  rfl

theorem run_noting {raw : RawVector} {vector : Encoded} (h : space.encode raw = .ok vector)
    (before : List RawVector) :
    (noting space raw).run before = (.ok vector, before ++ [raw]) := by
  rw [noting, h]
  rfl

/-- An encoder that notes what it is given has noted the whole batch once it is encoded. -/
theorem encodeAllIn_noting {entries : List Entry} (hids : entries.map Entry.id = ids)
    (hencoded : List.Forall₂ (fun v e => space.encode v = .ok e.vector) vectors entries)
    (before : List RawVector) :
    (encodeAllIn (noting space) ids vectors).run before = (.ok entries, before ++ vectors) := by
  induction hencoded generalizing ids before with
  | nil =>
      subst hids
      exact congrArg _ (List.append_nil before).symm
  | @cons raw entry vectors entries hvector _ ih =>
      subst hids
      rw [List.map_cons, encodeAllIn, run_bind_of_ok (run_noting hvector before),
        run_bind_of_ok (ih rfl (before ++ [raw])), List.append_assoc]
      rfl

theorem buildIn_noting {dataset : Dataset} (h : build space ids vectors = .ok dataset)
    (before : List RawVector) :
    (buildIn space (noting space) ids vectors).run before = (.ok dataset, before ++ vectors) := by
  obtain ⟨hspace, hshaped, hids, hencoded⟩ := build_eq_ok_iff.mp h
  subst hspace
  have hshape : (ofExcept (checkShape dataset.space ids vectors) :
      ExceptT Error (StateM (List RawVector)) Nat).run before =
        (.ok dataset.dimension, before) := by
    rw [checkShape_eq_ok_iff.mpr hshaped]
    rfl
  rw [buildIn, run_bind_of_ok hshape, run_bind_of_ok (encodeAllIn_noting hids hencoded before)]
  rfl

end Program

theorem map_zipWith_record (hmatched : ids.length = vectors.length) :
    (List.zipWith VectorRecord.mk ids vectors).map (·.id) = ids ∧
      (List.zipWith VectorRecord.mk ids vectors).map (·.vector) = vectors := by
  induction ids generalizing vectors with
  | nil =>
      obtain rfl := List.eq_nil_of_length_eq_zero hmatched.symm
      exact ⟨rfl, rfl⟩
  | cons id ids ih =>
      obtain ⟨raw, vectors, rfl⟩ := List.exists_cons_of_length_eq_add_one hmatched.symm
      obtain ⟨hids, hvectors⟩ := ih (Nat.succ.inj hmatched)
      exact ⟨congrArg (id :: ·) hids, congrArg (raw :: ·) hvectors⟩

theorem ofRecords_zipWith (hmatched : ids.length = vectors.length) :
    ofRecords space (List.zipWith VectorRecord.mk ids vectors) = build space ids vectors := by
  obtain ⟨hids, hvectors⟩ := map_zipWith_record hmatched
  rw [ofRecords, hids, hvectors]

/-- A batch is accepted exactly if it has as many vectors as ids and at least one, all of one
dimension, of at least two components where they are packed, under ids that are pairwise different.
Then its entries are the ids with the stored forms of the vectors in the order of the batch, none of
which fails to be encoded. Any other batch is refused with the error of the first of these
conditions, in this order, that does not hold, before any vector is given to the encoder. Records
are taken as the batch of their ids and vectors. -/
theorem build_decides (space : Space) (ids : List Int) (vectors : List RawVector) :
    ((∃ dataset, build space ids vectors = .ok dataset) ↔
      ids.length = vectors.length ∧ vectors ≠ [] ∧
        (∀ first ∈ vectors.head?, (∀ v ∈ vectors, v.length = first.length) ∧
          (space = .bitJaccard → 2 ≤ first.length)) ∧ ids.Nodup) ∧
    (∀ e, build space ids vectors = .error e ↔ Refused space ids vectors e) ∧
    (∀ e, Refused space ids vectors e →
      (buildIn space (noting space) ids vectors).run [] = (.error e, [])) ∧
    (∀ dataset, build space ids vectors = .ok dataset ↔
      dataset.space = space ∧ Shaped space ids vectors dataset.dimension ∧
        dataset.entries.map Entry.id = ids ∧
        List.Forall₂ (fun v e => space.encode v = .ok e.vector) vectors dataset.entries) ∧
    (∀ dimension, checkShape space ids vectors = .ok dimension →
      (∀ v ∈ vectors, ∃ x, space.encode v = .ok x) ∧
        ∃ dataset, (buildIn space (noting space) ids vectors).run [] = (.ok dataset, vectors)) ∧
    buildIn space space.encode ids vectors = build space ids vectors ∧
    (∀ records, ofRecords space records =
      build space (records.map (·.id)) (records.map (·.vector))) ∧
    (ids.length = vectors.length →
      ofRecords space (List.zipWith VectorRecord.mk ids vectors) = build space ids vectors) := by
  refine ⟨?_, fun e => build_eq_error_iff, fun e h => buildIn_of_refused (noting space) h [],
    fun dataset => build_eq_ok_iff, fun dimension h => ?_, buildIn_encode space ids vectors,
    fun records => rfl, ofRecords_zipWith⟩
  · constructor
    · rintro ⟨dataset, h⟩
      exact shaped_iff.mp ⟨_, (build_eq_ok_iff.mp h).2.1⟩
    · intro h
      obtain ⟨dimension, hshaped⟩ := shaped_iff.mpr h
      exact exists_build hshaped
  · have hshaped := checkShape_spec h
    obtain ⟨dataset, hdataset⟩ := exists_build hshaped
    exact ⟨hshaped.encodes, dataset, buildIn_noting hdataset []⟩

/-- A batch that is wrong in three ways gets the error of the first. -/
example : build .bitJaccard [7, 8, 7] [[0], [0], [0, 1]] =
    .error (.dimensionMismatch .vectorLengths 1 2) := rfl

end Dataset

end Vicinity
