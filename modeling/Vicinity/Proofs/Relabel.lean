import Vicinity.Proofs.Dataset
import Vicinity.Proofs.Retention
import Mathlib.Data.Int.ConditionallyCompleteOrder
import Mathlib.Order.ConditionallyCompleteLattice.Basic

/-!
Batches and queues under other ids. A batch that is accepted is accepted under any other ids that
are different. A queue compares ids, so it keeps the same neighbours under other ids where these
stand in the order of the old ones.
-/

namespace Vicinity

variable {f : Int → Int} {labels : Set Int}

/-- Changing each item that is computed changes the items of the list that is computed. -/
theorem mapM_map_eq {α β γ : Type} {m : Type → Type} [Monad m] [LawfulMonad m] (g : β → γ)
    {compute : α → m β} {compute' : α → m γ} (h : ∀ a, compute' a = g <$> compute a) (l : List α) :
    l.mapM compute' = List.map g <$> l.mapM compute := by
  induction l with
  | nil => simp
  | cons a rest ih => simp [List.mapM_cons, h, ih]

/-! Queues -/

def Neighbor.relabel (f : Int → Int) (n : Neighbor) : Neighbor := { n with id := f n.id }

def TopK.relabel (f : Int → Int) (q : TopK) : TopK :=
  { q with farthestFirst := q.farthestFirst.map (Neighbor.relabel f) }

theorem TopK.toSorted_relabel (q : TopK) :
    (q.relabel f).toSorted = q.toSorted.map (Neighbor.relabel f) := List.map_reverse.symm

theorem Neighbor.before_relabel (hf : StrictMonoOn f labels) {a b : Neighbor} (ha : a.id ∈ labels)
    (hb : b.id ∈ labels) : (a.relabel f).before (b.relabel f) = a.before b := by
  rw [Bool.eq_iff_iff, before_iff, before_iff]
  simp [rank, relabel, Prod.Lex.toLex_lt_toLex, hf.lt_iff_lt ha hb]

/-- An item finds the same place among others that compare with it in the same way. -/
theorem place_map {α β : Type} {before : α → α → Bool} {before' : β → β → Bool} (g : α → β) (a : α)
    {l : List α} (h : ∀ b ∈ l, before' (g b) (g a) = before b a) :
    place before' (g a) (l.map g) = (place before a l).map g := by
  induction l with
  | nil => rfl
  | cons b rest ih =>
      rw [List.map_cons, place, place, h b List.mem_cons_self,
        ih fun c hc => h c (List.mem_cons_of_mem b hc)]
      split <;> rfl

namespace TopK

/-- Whether all neighbours kept have one of the given ids. -/
def Within (q : TopK) (labels : Set Int) : Prop := ∀ n ∈ q.farthestFirst, n.id ∈ labels

theorem empty_within (k : Nat) : (empty k).Within labels := fun _ h => nomatch h

variable {q : TopK} {n : Neighbor}

theorem insertRanked_relabel (hf : StrictMonoOn f labels) {others : List Neighbor}
    (hothers : ∀ m ∈ others, m.id ∈ labels) (hn : n.id ∈ labels) :
    insertRanked (n.relabel f) (others.map (Neighbor.relabel f)) =
      (insertRanked n others).map (Neighbor.relabel f) :=
  place_map (Neighbor.relabel f) n fun m hm => Neighbor.before_relabel hf hn (hothers m hm)

theorem push_within (hq : q.Within labels) (hn : n.id ∈ labels) : (q.push n).2.Within labels := by
  have hinsert {others : List Neighbor} (hothers : ∀ m ∈ others, m.id ∈ labels) :
      ∀ m ∈ insertRanked n others, m.id ∈ labels := by
    intro m hm
    rcases mem_place.mp hm with rfl | hm
    · exact hn
    · exact hothers m hm
  rcases push_cases q n with ⟨-, h⟩ | ⟨worst, rest, -, hkept, -, h⟩ | ⟨-, -, h⟩
  · rw [h]
    exact hinsert hq
  · rw [h]
    exact hinsert fun m hm => hq m (hkept ▸ List.mem_cons_of_mem worst hm)
  · rw [h]
    exact hq

/-- A queue takes in and gives up the same neighbours under other ids. -/
theorem push_relabel (hf : StrictMonoOn f labels) (hq : q.Within labels) (hn : n.id ∈ labels) :
    (q.relabel f).push (n.relabel f) = ((q.push n).1, (q.push n).2.relabel f) := by
  obtain ⟨capacity, kept⟩ := q
  have hinsert := insertRanked_relabel hf hq hn
  simp only [push, relabel, size, List.length_map]
  by_cases hzero : capacity = 0
  · rw [if_pos hzero, if_pos hzero]
  rw [if_neg hzero, if_neg hzero]
  by_cases hroom : kept.length < capacity
  · rw [if_pos hroom, if_pos hroom, hinsert]
  rw [if_neg hroom, if_neg hroom]
  cases kept with
  | nil => rfl
  | cons worst rest =>
      have hrest : ∀ m ∈ rest, m.id ∈ labels := fun m hm => hq m (List.mem_cons_of_mem worst hm)
      rw [List.map_cons]
      dsimp only
      rw [Neighbor.before_relabel hf hn (hq worst List.mem_cons_self)]
      split
      · rw [insertRanked_relabel hf hrest hn]
      · rfl

theorem pushAll_relabel (hf : StrictMonoOn f labels) (hq : q.Within labels)
    {candidates : List Neighbor} (hcandidates : ∀ n ∈ candidates, n.id ∈ labels) :
    (q.relabel f).pushAll (candidates.map (Neighbor.relabel f)) =
      (q.pushAll candidates).relabel f := by
  induction candidates generalizing q with
  | nil => rfl
  | cons n rest ih =>
      have hn := hcandidates n List.mem_cons_self
      have hrest := ih (push_within hq hn) fun m hm => hcandidates m (List.mem_cons_of_mem n hm)
      rw [pushAll, List.map_cons, List.foldl_cons, push_relabel hf hq hn]
      exact hrest

/-- A queue keeps the same of the neighbours that it is offered under other ids. -/
theorem offered_relabel (hf : StrictMonoOn f labels) (k : Nat) {candidates : List Neighbor}
    (hcandidates : ∀ n ∈ candidates, n.id ∈ labels) :
    (empty k).pushAll (candidates.map (Neighbor.relabel f)) =
      ((empty k).pushAll candidates).relabel f :=
  pushAll_relabel hf (empty_within k) hcandidates

end TopK

/-! Batches -/

def Entry.relabel (f : Int → Int) (e : Entry) : Entry := { e with id := f e.id }

def Dataset.relabel (f : Int → Int) (d : Dataset) : Dataset :=
  { d with entries := d.entries.map (Entry.relabel f) }

@[simp] theorem Dataset.relabel_size (d : Dataset) : (d.relabel f).size = d.size :=
  List.length_map _
namespace Dataset

variable {space : Space} {ids : List Int} {vectors : List RawVector}

theorem checkShape_relabel (hdistinct : ids.Nodup) (hf : Set.InjOn f {id | id ∈ ids}) :
    checkShape space (ids.map f) vectors = checkShape space ids vectors := by
  have hrepeat : firstRepeated [] (ids.map f) = firstRepeated [] ids := by
    rw [(firstRepeated_eq_none_iff [] ids).mpr ⟨hdistinct, fun _ _ => List.not_mem_nil⟩,
      (firstRepeated_eq_none_iff [] _).mpr ⟨hdistinct.map_on hf, fun _ _ => List.not_mem_nil⟩]
  unfold checkShape
  rw [List.length_map, hrepeat]

theorem encodeAll_relabel : encodeAll space (ids.map f) vectors =
    (encodeAll space ids vectors).map (List.map (Entry.relabel f)) := by
  induction ids generalizing vectors with
  | nil => rfl
  | cons id rest ih =>
      cases vectors with
      | nil => rfl
      | cons raw vectors =>
          rw [List.map_cons, encodeAll, encodeAll, ih]
          cases space.encode raw with
          | error e => rfl
          | ok vector => cases encodeAll space rest vectors <;> rfl

/-- An accepted batch is accepted under other ids that are different. -/
theorem build_relabel {dataset : Dataset} (h : build space ids vectors = .ok dataset)
    (hf : Set.InjOn f {id | id ∈ ids}) :
    build space (ids.map f) vectors = .ok (dataset.relabel f) := by
  obtain ⟨-, hshaped, -, -⟩ := build_spec h
  have hrelabel : build space (ids.map f) vectors = (build space ids vectors).map (relabel f) := by
    rw [build, build, checkShape_relabel hshaped.distinct hf, encodeAll_relabel]
    cases checkShape space ids vectors with
    | error e => rfl
    | ok dimension => cases encodeAll space ids vectors <;> rfl
  rw [hrelabel, h]
  rfl

end Dataset

end Vicinity
