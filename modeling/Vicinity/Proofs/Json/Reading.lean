import Vicinity.Proofs.Json.Numbers
import Vicinity.Proofs.Json.Strings

/-!
Reading what was written. Whatever blanks a layout puts between tokens, the text of a value is read
as the term of that value: the same tree, with every number as it was written.
-/

namespace Vicinity.Json

open Vicinity.Number

/-- The term that the text of a floating-point number is read as. -/
def numberTerm (cs : List Char) : Term :=
  match readNumber cs with
  | some (n, _) => .number n
  | none => .null

mutual

/-- The term that the text of a value is read as. -/
def Value.term : Value → Term
  | .null => .null
  | .bool b => .bool b
  | .int i => .number (integerNumber i)
  | .float x => numberTerm (floatText double doubleLayout (ofDouble x))
  | .single x => numberTerm (floatText Number.single singleLayout (ofSingle x))
  | .string s => .string (some s)
  | .array items => .array (itemTerms items)
  | .object members => .object (memberTerms members)

def itemTerms : List Value → List Term
  | [] => []
  | v :: rest => v.term :: itemTerms rest

/-- The terms of the members of an object, with their names. -/
def memberTerms : List (String × Value) → List (Option String × Term)
  | [] => []
  | (name, v) :: rest => (some name, v.term) :: memberTerms rest

end

theorem itemTerms_eq_map (items : List Value) : itemTerms items = items.map Value.term := by
  induction items with
  | nil => rfl
  | cons v rest ih => rw [itemTerms, ih, List.map_cons]

/-- Only blanks that JSON allows between tokens. -/
def IsBlank (cs : List Char) : Prop := ∀ c ∈ cs, c = ' ' ∨ c = '\n' ∨ c = '\t' ∨ c = '\r'

/-- A layout that puts nothing but blanks between tokens. -/
structure Spacing.Blank (spacing : Spacing) : Prop where
  line : ∀ depth, IsBlank (spacing.line depth)
  colon : IsBlank spacing.colon

theorem Spacing.compact_blank : Spacing.compact.Blank where
  line := fun _ c hc => by simp [compact] at hc
  colon := fun c hc => by simp [compact] at hc

theorem Spacing.pretty_blank : Spacing.pretty.Blank where
  line := by
    intro depth c hc
    rcases List.mem_cons.mp hc with rfl | hc
    · exact Or.inr (Or.inl rfl)
    · exact Or.inl (List.eq_of_mem_replicate hc)
  colon := by
    intro c hc
    exact Or.inl (List.mem_singleton.mp hc)

theorem skipBlank_append {b : List Char} (hb : IsBlank b) (cs : List Char) :
    skipBlank (b ++ cs) = skipBlank cs := by
  induction b with
  | nil => rfl
  | cons c b ih =>
      rw [List.cons_append, skipBlank, if_pos (hb c List.mem_cons_self)]
      exact ih fun d hd => hb d (List.mem_cons_of_mem c hd)

theorem skipBlank_idem (cs : List Char) : skipBlank (skipBlank cs) = skipBlank cs := by
  induction cs with
  | nil => rfl
  | cons c cs ih =>
      rw [skipBlank]
      split
      · exact ih
      · rename_i hc
        rw [skipBlank, if_neg hc]

theorem readTerm_skipBlank (fuel : Nat) (cs : List Char) :
    readTerm fuel (skipBlank cs) = readTerm fuel cs := by
  cases fuel with
  | zero => rfl
  | succ fuel => rw [readTerm, readTerm, skipBlank_idem]

theorem readItems_skipBlank (fuel : Nat) (cs : List Char) :
    readItems fuel (skipBlank cs) = readItems fuel cs := by
  cases fuel with
  | zero => rfl
  | succ fuel => rw [readItems, readItems, readTerm_skipBlank]

theorem readMembers_skipBlank (fuel : Nat) (cs : List Char) :
    readMembers fuel (skipBlank cs) = readMembers fuel cs := by
  cases fuel with
  | zero => rfl
  | succ fuel => rw [readMembers, readMembers, skipBlank_idem]

theorem readTerm_append {b : List Char} (hb : IsBlank b) (fuel : Nat) (cs : List Char) :
    readTerm fuel (b ++ cs) = readTerm fuel cs := by
  rw [← readTerm_skipBlank, skipBlank_append hb, readTerm_skipBlank]

/-- A character that can be the first of a value. -/
def IsStart (c : Char) : Prop :=
  ¬ (c = ' ' ∨ c = '\n' ∨ c = '\t' ∨ c = '\r') ∧ c ≠ ']'

theorem skipBlank_of_isStart {c : Char} (h : IsStart c) (cs : List Char) :
    skipBlank (c :: cs) = c :: cs := by
  rw [skipBlank, if_neg h.1]

/-- A text that is read as the given term, whatever follows it. Two steps for each character are
enough. -/
structure ReadsAs (cs : List Char) (t : Term) : Prop where
  start : ∃ c more, cs = c :: more ∧ IsStart c
  read : ∀ fuel rest, 2 * cs.length ≤ fuel → Delimited rest →
    readTerm fuel (cs ++ rest) = some (t, rest)

/-- A number starts with a sign or a digit. -/
theorem readNumber_start {c : Char} {cs : List Char} {r : NumberText × List Char}
    (h : readNumber (c :: cs) = some r) : c = '-' ∨ (digit? c).isSome := by
  by_cases hc : c = '-'
  · exact Or.inl hc
  · apply Or.inr
    have hread : readNumber (c :: cs) = readMagnitude false (c :: cs) := by
      unfold readNumber
      split
      · rename_i heq
        exact absurd (List.cons.inj heq).1 hc
      · rfl
    rw [hread] at h
    cases hd : digit? c with
    | some d => rfl
    | none =>
        have hspan : spanDigits (c :: cs) = ([], c :: cs) := by rw [spanDigits, hd]
        simp [readMagnitude, hspan] at h

theorem NumberForm.readsAs {cs : List Char} {n : NumberText} (h : NumberForm cs n) :
    ReadsAs cs (.number n) := by
  have hnil := h [] (fun c hc => by simp at hc)
  cases cs with
  | nil => simp [readNumber, readMagnitude, spanDigits] at hnil
  | cons c more =>
      rw [List.append_nil] at hnil
      have hnot : ∀ d, digit? d = none → d ≠ '-' → c ≠ d := by
        rintro d hd hminus rfl
        rcases readNumber_start hnil with hc | hc
        · exact hminus hc
        · simp [hd] at hc
      have hstart : IsStart c := by
        refine ⟨?_, hnot ']' (by decide) (by decide)⟩
        rintro (rfl | rfl | rfl | rfl)
        · exact hnot ' ' (by decide) (by decide) rfl
        · exact hnot '\n' (by decide) (by decide) rfl
        · exact hnot '\t' (by decide) (by decide) rfl
        · exact hnot '\r' (by decide) (by decide) rfl
      refine ⟨⟨c, more, rfl, hstart⟩, fun fuel rest hfuel hrest => ?_⟩
      have hread := h rest hrest
      obtain ⟨fuel, rfl⟩ : ∃ k, fuel = k + 1 := ⟨fuel - 1, by simp at hfuel; omega⟩
      rw [List.cons_append] at hread ⊢
      rw [readTerm, skipBlank_of_isStart hstart]
      dsimp only
      rw [if_neg (hnot '"' (by decide) (by decide)), if_neg (hnot '[' (by decide) (by decide)),
        if_neg (hnot '\x7b' (by decide) (by decide)), if_neg (hnot 'n' (by decide) (by decide)),
        if_neg (hnot 't' (by decide) (by decide)), if_neg (hnot 'f' (by decide) (by decide)), hread]
      rfl

theorem null_readsAs : ReadsAs ['n', 'u', 'l', 'l'] .null := by
  refine ⟨⟨'n', _, rfl, by decide, by decide⟩, fun fuel rest hfuel _ => ?_⟩
  obtain ⟨fuel, rfl⟩ : ∃ k, fuel = k + 1 := ⟨fuel - 1, by simp at hfuel; omega⟩
  simp [readTerm, skipBlank, afterWord]

theorem bool_readsAs (spacing : Spacing) (depth : Nat) (b : Bool) :
    ReadsAs ((Value.bool b).render spacing depth) (.bool b) := by
  cases b with
  | true =>
      refine ⟨⟨'t', _, rfl, by decide, by decide⟩, fun fuel rest hfuel _ => ?_⟩
      obtain ⟨fuel, rfl⟩ : ∃ k, fuel = k + 1 := ⟨fuel - 1, by simp [Value.render] at hfuel; omega⟩
      simp [Value.render, readTerm, skipBlank, afterWord]
  | false =>
      refine ⟨⟨'f', _, rfl, by decide, by decide⟩, fun fuel rest hfuel _ => ?_⟩
      obtain ⟨fuel, rfl⟩ : ∃ k, fuel = k + 1 := ⟨fuel - 1, by simp [Value.render] at hfuel; omega⟩
      simp [Value.render, readTerm, skipBlank, afterWord]

theorem string_readsAs (s : String) : ReadsAs (stringText s) (.string (some s)) := by
  refine ⟨⟨'"', _, rfl, by decide, by decide⟩, fun fuel rest hfuel _ => ?_⟩
  obtain ⟨fuel, rfl⟩ : ∃ k, fuel = k + 1 := ⟨fuel - 1, by simp [stringText] at hfuel; omega⟩
  have hread := readString_stringText s rest
  simp [stringText, readTerm, skipBlank, hread]

/-- A floating-point number is read as a number, or as `null` if it is not finite. -/
theorem floatText_readsAs (f : Format) {style : Layout} (hstyle : style.wholeEnding = ['.', '0'])
    (x : Binary) : ReadsAs (floatText f style x) (numberTerm (floatText f style x)) := by
  cases x with
  | nan => exact null_readsAs
  | infinite negative => exact null_readsAs
  | finite negative mantissa exponent =>
      obtain ⟨n, hn⟩ := floatText_form f hstyle negative mantissa exponent
      have hread := hn [] (fun c hc => by simp at hc)
      rw [List.append_nil] at hread
      rw [numberTerm, hread]
      exact hn.readsAs

theorem joinComma_cons_cons (t u : List Char) (more : List (List Char)) :
    joinComma (t :: u :: more) = t ++ ',' :: joinComma (u :: more) := by
  simp [joinComma, List.intercalate_cons_cons]

theorem joinComma_singleton (t : List Char) : joinComma [t] = t := by
  simp [joinComma]

/-- A comma or a closing bracket ends a number. -/
theorem delimited_append {b : List Char} (hb : IsBlank b) {c : Char}
    (hc : c = ',' ∨ c = ']' ∨ c = '\x7d') (rest : List Char) : Delimited (b ++ c :: rest) := by
  intro d hd
  cases b with
  | nil =>
      have heq : c = d := by simpa using hd
      subst heq
      rcases hc with rfl | rfl | rfl <;> decide
  | cons e b =>
      have heq : e = d := by simpa using hd
      subst heq
      rcases hb e List.mem_cons_self with rfl | rfl | rfl | rfl <;> decide

/-- The last item of an array ends at the closing bracket. -/
theorem readItems_last {cs : List Char} {t : Term} (h : ReadsAs cs t) {a b : List Char}
    (ha : IsBlank a) (hb : IsBlank b) {fuel : Nat} (hfuel : 2 * cs.length < fuel)
    (rest : List Char) :
    readItems fuel (a ++ cs ++ (b ++ ']' :: rest)) = some ([t], rest) := by
  obtain ⟨fuel, rfl⟩ : ∃ k, fuel = k + 1 := ⟨fuel - 1, by omega⟩
  have hread := h.read fuel (b ++ ']' :: rest) (by omega)
    (delimited_append hb (Or.inr (Or.inl rfl)) rest)
  rw [readItems, List.append_assoc, readTerm_append ha, hread]
  dsimp only
  rw [skipBlank_append hb]
  simp [skipBlank]

/-- An item of an array that is not the last ends at a comma. -/
theorem readItems_next {cs : List Char} {t : Term} (h : ReadsAs cs t) {a : List Char}
    (ha : IsBlank a) {fuel : Nat} (hfuel : 2 * cs.length ≤ fuel) (rest : List Char) :
    readItems (fuel + 1) (a ++ cs ++ ',' :: rest) =
      (readItems fuel rest).map fun (items, rest) => (t :: items, rest) := by
  have hread := h.read fuel (',' :: rest) hfuel
    (delimited_append (b := []) (fun c hc => by simp at hc) (Or.inl rfl) rest)
  rw [readItems, List.append_assoc, readTerm_append ha, hread]
  simp [skipBlank]

/-- The last member of an object ends at the closing brace. -/
theorem readMembers_last {cs : List Char} {t : Term} (h : ReadsAs cs t) (name : String)
    {a b colon : List Char} (ha : IsBlank a) (hcolon : IsBlank colon) (hb : IsBlank b)
    {fuel : Nat} (hfuel : 2 * cs.length < fuel) (rest : List Char) :
    readMembers fuel (a ++ (stringText name ++ ':' :: colon ++ cs) ++ (b ++ '\x7d' :: rest)) =
      some ([(some name, t)], rest) := by
  obtain ⟨fuel, rfl⟩ : ∃ k, fuel = k + 1 := ⟨fuel - 1, by omega⟩
  have hread := h.read fuel (b ++ '\x7d' :: rest) (by omega)
    (delimited_append hb (Or.inr (Or.inr rfl)) rest)
  have hname := readString_stringText name (':' :: (colon ++ (cs ++ (b ++ '\x7d' :: rest))))
  rw [readMembers, List.append_assoc, skipBlank_append ha]
  simp [stringText, skipBlank, hname, readTerm_append hcolon, hread, skipBlank_append hb]

/-- A member of an object that is not the last ends at a comma. -/
theorem readMembers_next {cs : List Char} {t : Term} (h : ReadsAs cs t) (name : String)
    {a colon : List Char} (ha : IsBlank a) (hcolon : IsBlank colon) {fuel : Nat}
    (hfuel : 2 * cs.length ≤ fuel) (rest : List Char) :
    readMembers (fuel + 1) (a ++ (stringText name ++ ':' :: colon ++ cs) ++ ',' :: rest) =
      (readMembers fuel rest).map fun (members, rest) => ((some name, t) :: members, rest) := by
  have hread := h.read fuel (',' :: rest) hfuel
    (delimited_append (b := []) (fun c hc => by simp at hc) (Or.inl rfl) rest)
  have hname := readString_stringText name (':' :: (colon ++ (cs ++ ',' :: rest)))
  rw [readMembers, List.append_assoc, skipBlank_append ha]
  simp [stringText, skipBlank, hname, readTerm_append hcolon, hread]

/-- An array is read as its items if those are read up to the closing bracket. -/
theorem array_readsAs {cs : List Char} {items : List Term}
    (hstart : ∃ a c more, cs = a ++ c :: more ∧ IsBlank a ∧ IsStart c)
    (h : ∀ fuel rest, 2 * cs.length < fuel →
      readItems fuel (cs ++ ']' :: rest) = some (items, rest)) :
    ReadsAs ('[' :: cs ++ [']']) (.array items) := by
  refine ⟨⟨'[', _, rfl, by decide, by decide⟩, fun fuel rest hfuel _ => ?_⟩
  simp only [List.cons_append, List.length_cons, List.length_append, List.length_nil] at hfuel
  obtain ⟨fuel, rfl⟩ : ∃ k, fuel = k + 1 := ⟨fuel - 1, by omega⟩
  have hread := h fuel rest (by omega)
  obtain ⟨a, c, more, rfl, ha, hc⟩ := hstart
  rw [← readItems_skipBlank, List.append_assoc, skipBlank_append ha, List.cons_append,
    skipBlank_of_isStart hc] at hread
  simp only [List.cons_append, List.append_assoc, List.nil_append]
  rw [readTerm, skipBlank_of_isStart ⟨by decide, by decide⟩]
  simp only [skipBlank_append ha, skipBlank_of_isStart hc]
  simp [hc.2, hread]

/-- An object is read as its members if those are read up to the closing brace. -/
theorem object_readsAs {cs : List Char} {members : List (Option String × Term)}
    (hstart : ∃ a more, cs = a ++ '"' :: more ∧ IsBlank a)
    (h : ∀ fuel rest, 2 * cs.length < fuel →
      readMembers fuel (cs ++ '\x7d' :: rest) = some (members, rest)) :
    ReadsAs ('\x7b' :: cs ++ ['\x7d']) (.object members) := by
  refine ⟨⟨'\x7b', _, rfl, by decide, by decide⟩, fun fuel rest hfuel _ => ?_⟩
  simp only [List.cons_append, List.length_cons, List.length_append, List.length_nil] at hfuel
  obtain ⟨fuel, rfl⟩ : ∃ k, fuel = k + 1 := ⟨fuel - 1, by omega⟩
  have hread := h fuel rest (by omega)
  have hquote : IsStart '"' := ⟨by decide, by decide⟩
  obtain ⟨a, more, rfl, ha⟩ := hstart
  rw [← readMembers_skipBlank, List.append_assoc, skipBlank_append ha, List.cons_append,
    skipBlank_of_isStart hquote] at hread
  simp only [List.cons_append, List.append_assoc, List.nil_append]
  rw [readTerm, skipBlank_of_isStart ⟨by decide, by decide⟩]
  simp only [skipBlank_append ha, skipBlank_of_isStart hquote]
  simp [hread]

/-- The entries of an array or object with what a layout puts before them. -/
def spread (spacing : Spacing) (depth : Nat) (entries : List (List Char)) : List Char :=
  joinComma (entries.map (spacing.line depth ++ ·))

theorem block_cons {spacing : Spacing} {opening closing : Char} {depth : Nat} {entry : List Char}
    {more : List (List Char)} :
    block spacing opening closing depth (entry :: more) =
      opening :: (spread spacing (depth + 1) (entry :: more) ++ spacing.line depth) ++
        [closing] := by
  simp [block, spread]

theorem spread_singleton (spacing : Spacing) (depth : Nat) (entry : List Char) :
    spread spacing depth [entry] = spacing.line depth ++ entry := by
  simp [spread, joinComma_singleton]

theorem spread_cons_cons (spacing : Spacing) (depth : Nat) (entry next : List Char)
    (more : List (List Char)) :
    spread spacing depth (entry :: next :: more) =
      spacing.line depth ++ entry ++ ',' :: spread spacing depth (next :: more) := by
  simp [spread, joinComma_cons_cons]

/-- The first entry stands at the front, behind blanks. -/
theorem spread_start (spacing : Spacing) (depth : Nat) (entry : List Char)
    (entries : List (List Char)) :
    ∃ more, spread spacing depth (entry :: entries) = spacing.line depth ++ (entry ++ more) := by
  cases entries with
  | nil => exact ⟨[], by rw [spread_singleton, List.append_nil]⟩
  | cons next entries =>
      exact ⟨_, by rw [spread_cons_cons, List.append_assoc]⟩

section Layout

variable {spacing : Spacing} (hspacing : spacing.Blank)

include hspacing

mutual

/-- The text of a value is read as its term. -/
theorem render_readsAs (depth : Nat) : ∀ v : Value, ReadsAs (v.render spacing depth) v.term
  | .null => null_readsAs
  | .bool b => bool_readsAs spacing depth b
  | .int i => (integerText_form i).readsAs
  | .float x => floatText_readsAs double rfl (ofDouble x)
  | .single x => floatText_readsAs Number.single rfl (ofSingle x)
  | .string s => string_readsAs s
  | .array [] => by
      refine ⟨⟨'[', _, rfl, by decide, by decide⟩, fun fuel rest hfuel _ => ?_⟩
      obtain ⟨fuel, rfl⟩ : ∃ k, fuel = k + 1 :=
        ⟨fuel - 1, by simp [Value.render, renderItems, block] at hfuel; omega⟩
      simp [Value.render, renderItems, block, readTerm, skipBlank, Value.term, itemTerms]
  | .array (v :: items) => by
      obtain ⟨c, cs, hc, hstart⟩ := (render_readsAs (depth + 1) v).start
      obtain ⟨more, hmore⟩ := spread_start spacing (depth + 1) (v.render spacing (depth + 1))
        (renderItems spacing (depth + 1) items)
      rw [Value.render, renderItems, block_cons, Value.term]
      refine array_readsAs ⟨spacing.line (depth + 1), c, cs ++ (more ++ spacing.line depth), ?_,
        hspacing.line _, hstart⟩ fun fuel rest hfuel => ?_
      · rw [hmore, hc]
        simp
      · rw [List.append_assoc]
        exact renderItems_read (depth + 1) (hspacing.line depth) (v :: items) (by simp) fuel rest
          hfuel
  | .object [] => by
      refine ⟨⟨'\x7b', _, rfl, by decide, by decide⟩, fun fuel rest hfuel _ => ?_⟩
      obtain ⟨fuel, rfl⟩ : ∃ k, fuel = k + 1 :=
        ⟨fuel - 1, by simp [Value.render, renderMembers, block] at hfuel; omega⟩
      simp [Value.render, renderMembers, block, readTerm, skipBlank, Value.term, memberTerms]
  | .object ((name, v) :: members) => by
      obtain ⟨more, hmore⟩ := spread_start spacing (depth + 1)
        (stringText name ++ ':' :: spacing.colon ++ v.render spacing (depth + 1))
        (renderMembers spacing (depth + 1) members)
      obtain ⟨front, hfront⟩ : ∃ front, stringText name ++ ':' :: spacing.colon ++
          v.render spacing (depth + 1) = '"' :: front := ⟨_, rfl⟩
      rw [Value.render, renderMembers, block_cons, Value.term]
      refine object_readsAs ⟨spacing.line (depth + 1), front ++ (more ++ spacing.line depth), ?_,
        hspacing.line _⟩ fun fuel rest hfuel => ?_
      · rw [hmore, hfront]
        simp
      · rw [List.append_assoc]
        exact renderMembers_read (depth + 1) (hspacing.line depth) ((name, v) :: members) (by simp)
          fuel rest hfuel

/-- The texts of items are read one after the other. -/
theorem renderItems_read (depth : Nat) {b : List Char} (hb : IsBlank b) :
    ∀ items : List Value, items ≠ [] → ∀ fuel rest,
      2 * (spread spacing depth (renderItems spacing depth items) ++ b).length < fuel →
      readItems fuel (spread spacing depth (renderItems spacing depth items) ++
        (b ++ ']' :: rest)) = some (itemTerms items, rest)
  | [], hne, _, _, _ => absurd rfl hne
  | [v], _, fuel, rest, hfuel => by
      have hv := render_readsAs depth v
      simp only [renderItems, spread_singleton, itemTerms, List.length_append] at hfuel ⊢
      exact readItems_last hv (hspacing.line depth) hb (by omega) rest
  | v :: w :: more, _, fuel, rest, hfuel => by
      have hv := render_readsAs depth v
      simp only [renderItems, spread_cons_cons, List.length_append, List.length_cons] at hfuel
      obtain ⟨fuel, rfl⟩ : ∃ k, fuel = k + 1 := ⟨fuel - 1, by omega⟩
      have hmore := renderItems_read depth hb (w :: more) (by simp) fuel rest
        (by simp only [renderItems, List.length_append]; omega)
      simp only [renderItems, spread_cons_cons] at hmore ⊢
      rw [List.append_assoc, List.cons_append, readItems_next hv (hspacing.line depth) (by omega),
        hmore]
      rfl

/-- The texts of members are read one after the other. -/
theorem renderMembers_read (depth : Nat) {b : List Char} (hb : IsBlank b) :
    ∀ members : List (String × Value), members ≠ [] → ∀ fuel rest,
      2 * (spread spacing depth (renderMembers spacing depth members) ++ b).length < fuel →
      readMembers fuel (spread spacing depth (renderMembers spacing depth members) ++
        (b ++ '\x7d' :: rest)) = some (memberTerms members, rest)
  | [], hne, _, _, _ => absurd rfl hne
  | [(name, v)], _, fuel, rest, hfuel => by
      have hv := render_readsAs depth v
      simp only [renderMembers, spread_singleton, memberTerms, List.length_append,
        List.length_cons] at hfuel ⊢
      exact readMembers_last hv name (hspacing.line depth) hspacing.colon hb (by omega) rest
  | (name, v) :: (next, w) :: more, _, fuel, rest, hfuel => by
      have hv := render_readsAs depth v
      simp only [renderMembers, spread_cons_cons, List.length_append, List.length_cons] at hfuel
      obtain ⟨fuel, rfl⟩ : ∃ k, fuel = k + 1 := ⟨fuel - 1, by omega⟩
      have hmore := renderMembers_read depth hb ((next, w) :: more) (by simp) fuel rest
        (by simp only [renderMembers, List.length_append]; omega)
      simp only [renderMembers, spread_cons_cons] at hmore ⊢
      rw [List.append_assoc, List.cons_append,
        readMembers_next hv name (hspacing.line depth) hspacing.colon (by omega), hmore]
      rfl

end

end Layout

/-- A value that is written is read as its term, in any layout. -/
theorem ofText?_render {spacing : Spacing} (hspacing : spacing.Blank) (v : Value) :
    Term.ofText? (String.ofList (v.render spacing 0)) = some v.term := by
  have hread := (render_readsAs hspacing 0 v).read (2 * (v.render spacing 0).length + 2) []
    (by omega) (fun c hc => by simp at hc)
  rw [List.append_nil] at hread
  unfold Term.ofText?
  rw [String.toList_ofList]
  simp [hread, skipBlank]

theorem ofText?_compact (v : Value) : Term.ofText? v.compact = some v.term :=
  ofText?_render Spacing.compact_blank v

theorem ofText?_pretty (v : Value) : Term.ofText? v.pretty = some v.term :=
  ofText?_render Spacing.pretty_blank v

end Vicinity.Json
