import Vicinity.Files
import Mathlib.Data.List.Basic

/-!
What a file holds after it was written, and what files beside it hold. A text put where no
directory is leaves every walk that succeeded as it was, so a path still leads where it led.
-/

namespace Vicinity.Files

variable {fs fs' : Files} {path other content text suffix : String} {l k k' : Location}

theorem lookup_filter (keep : Location → Bool) (k : Location)
    (nodes : List (Location × FileNode)) :
    (nodes.filter fun e => keep e.1).lookup k = if keep k then nodes.lookup k else none := by
  induction nodes with
  | nil => simp
  | cons e rest ih =>
      obtain ⟨l, n⟩ := e
      by_cases hkl : k = l
      · subst hkl
        cases hk : keep k <;> simp [hk, ih]
      · have hbeq : (k == l) = false := by simpa using hkl
        cases hl : keep l <;> simp [hl, hbeq, List.lookup_cons, ih]

theorem node?_put (fs : Files) (hl : l ≠ []) (n : FileNode) (k : Location) :
    (fs.put l n).node? k = if k = l then some n else fs.node? k := by
  unfold node? put
  by_cases hk : k = []
  · rw [if_pos hk, if_neg (by rw [hk]; exact Ne.symm hl), if_pos hk]
  · rw [if_neg hk, if_neg hk]
    by_cases hkl : k = l
    · subst hkl
      simp
    · have hbeq : (k == l) = false := by simpa using hkl
      rw [if_neg hkl, List.lookup_cons, hbeq, lookup_filter (fun e => e != l)]
      simp [hkl]

theorem ne_nil_of_not_directory (hl : fs.node? l ≠ some .directory) : l ≠ [] := by
  rintro rfl
  exact hl rfl

/-- A step that succeeds starts in a directory. -/
theorem directory_of_step {component : String} (hstep : fs.step k component = .ok l) :
    fs.node? k = some .directory := by
  unfold step at hstep
  cases hnode : fs.node? k with
  | none => simp [hnode] at hstep
  | some n =>
      cases n with
      | text => simp [hnode] at hstep
      | directory => rfl

/-- A step that succeeds is left as it was by anything that is put where no directory is. -/
theorem step_put (hl : fs.node? l ≠ some .directory) (n : FileNode) {component : String}
    (h : fs.step k component = .ok k') : (fs.put l n).step k component = .ok k' := by
  have hkl : k ≠ l := by
    rintro rfl
    exact hl (directory_of_step h)
  unfold step at h ⊢
  rw [node?_put fs (ne_nil_of_not_directory hl), if_neg hkl]
  exact h

theorem walk_put (hl : fs.node? l ≠ some .directory) (n : FileNode) {components : List String}
    (h : fs.walk k components = .ok k') : (fs.put l n).walk k components = .ok k' := by
  induction components generalizing k with
  | nil => exact h
  | cons c rest ih =>
      unfold walk at h ⊢
      cases hstep : fs.step k c with
      | error e => simp [hstep] at h
      | ok m =>
          rw [hstep] at h
          rw [step_put hl n hstep]
          exact ih h

theorem locate_put (hl : fs.node? l ≠ some .directory) (n : FileNode)
    (h : fs.locate path = .ok k) : (fs.put l n).locate path = .ok k := by
  unfold locate at h ⊢
  cases hcheck : checkPath path with
  | error e => simp [hcheck] at h
  | ok u =>
      rw [hcheck] at h
      exact walk_put hl n h

theorem walk_append (fs : Files) (k : Location) (before after : List String) :
    fs.walk k (before ++ after) = (fs.walk k before).bind fun k => fs.walk k after := by
  induction before generalizing k with
  | nil => rfl
  | cons c rest ih =>
      rw [List.cons_append, walk, walk]
      cases fs.step k c with
      | error e => rfl
      | ok m => exact ih m

theorem walk_single {component : String} : fs.walk k [component] = fs.step k component := by
  rw [walk]
  cases fs.step k component <;> rfl

theorem walk_blank (hnode : fs.node? k = some .directory) : fs.walk k [""] = .ok k := by
  rw [walk_single]
  simp [step, hnode]

/-- A walk that ends with an empty component has come to a directory and stays there. -/
theorem walk_of_blank {before : List String} (h : fs.walk k (before ++ [""]) = .ok l) :
    fs.walk k before = .ok l := by
  rw [walk_append] at h
  cases hwalk : fs.walk k before with
  | error e => simp [hwalk, Except.bind] at h
  | ok m =>
      rw [hwalk] at h
      have hstep : fs.step m "" = .ok l := walk_single.symm.trans h
      exact (walk_blank (directory_of_step hstep)).symm.trans h

def IsName (component : String) : Prop := component ≠ "" ∧ component ≠ "." ∧ component ≠ ".."

/-- A name that something is added to is still a name. -/
theorem IsName.append {name : String} (h : IsName name) (suffix : String) :
    IsName (name ++ suffix) := by
  obtain ⟨hblank, hdot, hdots⟩ := h
  have hstart : name.toList <+: (name ++ suffix).toList := by
    rw [String.toList_append]
    exact List.prefix_append _ _
  have hnone : ¬ name.toList <+: "..".toList := by
    intro hprefix
    rcases List.prefix_cons_iff.mp hprefix with hname | ⟨rest, hname, hrest⟩
    · exact hblank (String.toList_eq_nil_iff.mp hname)
    rcases List.prefix_cons_iff.mp hrest with rfl | ⟨more, rfl, hmore⟩
    · exact hdot (String.toList_inj.mp hname)
    · obtain rfl := List.prefix_nil.mp hmore
      exact hdots (String.toList_inj.mp hname)
  refine ⟨fun heq => ?_, fun heq => ?_, fun heq => ?_⟩
  · exact hnone ((heq ▸ hstart).trans (by decide))
  · exact hnone ((heq ▸ hstart).trans (by decide))
  · exact hnone (heq ▸ hstart)

theorem step_isName {name : String} (hname : IsName name) (hnode : fs.node? k = some .directory) :
    fs.step k name = if maxNameBytes < name.utf8ByteSize then .error .invalidFilename
      else .ok (k ++ [name]) := by
  obtain ⟨hblank, hdot, hdots⟩ := hname
  simp [step, hnode, hblank, hdot, hdots]

theorem step_of_isName {name : String} (hname : IsName name) (h : fs.step k name = .ok l) :
    l = k ++ [name] := by
  rw [step_isName hname (directory_of_step h)] at h
  split at h
  · cases h
  · exact (Except.ok.inj h).symm

/-- A path that ends with a name is one to which no slash was added. -/
theorem ending_of_name {name : String} (h : fs.ending path = .ok (.name k name false)) :
    checkPath path = .ok () ∧ IsName name ∧ ∃ before, components path = before ++ [name] ∧
      fs.walk (fs.startOf path) before = .ok k := by
  unfold ending at h
  cases hcheck : checkPath path with
  | error e => simp [hcheck] at h
  | ok u =>
  cases hnames : (components path).reverse.dropWhile (· = "") with
  | nil => simp [hcheck, hnames] at h
  | cons last before =>
  cases hwalk : fs.walk (fs.startOf path) (before.reverse ++ [""]) with
  | error e => simp [hcheck, hnames, hwalk] at h
  | ok m =>
  by_cases hdots : last = "." ∨ last = ".."
  · simp [hcheck, hnames, hwalk, hdots] at h
  · obtain ⟨rfl, rfl, hslash⟩ : m = k ∧ last = name ∧
        (components path).reverse.head? ≠ some "" := by
      simpa [hcheck, hnames, hwalk, hdots] using h
    have hkept : (components path).reverse = last :: before := by
      cases hreverse : (components path).reverse with
      | nil => simp [hreverse] at hnames
      | cons first rest =>
          rw [hreverse, List.head?_cons] at hslash
          have hfirst : first ≠ "" := fun hfirst => hslash (congrArg some hfirst)
          simpa [hreverse, hfirst] using hnames
    have hblank : last ≠ "" := by
      rintro rfl
      rw [hkept] at hslash
      exact hslash rfl
    refine ⟨rfl, ⟨hblank, by tauto⟩, before.reverse, ?_, walk_of_blank hwalk⟩
    rw [← List.reverse_reverse (components path), hkept, List.reverse_cons]

theorem notDirectory_eq_ok_iff {m : Location} :
    (match fs.node? m with
      | some .directory => .error .isADirectory
      | _ => .ok m : Except FileError Location) = .ok l ↔ m = l ∧ fs.node? l ≠ some .directory := by
  constructor
  · intro h
    split at h
    · simp at h
    · rename_i hnode
      cases Except.ok.inj h
      exact ⟨rfl, hnode⟩
  · rintro ⟨rfl, hnode⟩
    split
    · rename_i hdirectory
      exact absurd hdirectory hnode
    · rfl

/-- A file can be written where a path ends with a name in a directory, and the name is not that of
a directory. -/
theorem writable_eq_ok_iff :
    fs.writable path = .ok l ↔ ∃ directory name,
      fs.ending path = .ok (.name directory name false) ∧ fs.step directory name = .ok l ∧
      fs.node? l ≠ some .directory := by
  unfold writable
  cases fs.ending path with
  | error e => simp
  | ok e =>
  cases e with
  | noName => simp
  | name directory name slash =>
  cases slash with
  | true => simp
  | false =>
  cases hstep : fs.step directory name with
  | error e => simp [hstep]
  | ok m =>
      simp only [hstep, Except.ok.injEq, Ending.name.injEq, Bool.false_eq_true, if_false, and_true]
      constructor
      · intro h
        obtain ⟨rfl, hnode⟩ := notDirectory_eq_ok_iff.mp h
        exact ⟨directory, name, ⟨rfl, rfl⟩, hstep, hnode⟩
      · rintro ⟨_, _, ⟨rfl, rfl⟩, hstep', hnode⟩
        exact notDirectory_eq_ok_iff.mpr ⟨Except.ok.inj (hstep.symm.trans hstep'), hnode⟩

/-- The location of a writable file is where its path leads. It ends with the last component of the
path, which is a name. -/
theorem writable_spec (h : fs.writable path = .ok l) :
    fs.locate path = .ok l ∧ fs.node? l ≠ some .directory ∧
      ∃ name, (components path).getLast? = some name ∧ l.getLast? = some name := by
  obtain ⟨directory, name, hending, hstep, hnode⟩ := writable_eq_ok_iff.mp h
  obtain ⟨hcheck, hname, before, hcomponents, hwalk⟩ := ending_of_name hending
  refine ⟨?_, hnode, name, by simp [hcomponents], by simp [step_of_isName hname hstep]⟩
  unfold locate
  rw [hcheck, hcomponents, walk_append, hwalk]
  simp [Except.bind, walk, hstep]

theorem ending_put (hl : fs.node? l ≠ some .directory) (n : FileNode) {e : Ending}
    (h : fs.ending path = .ok e) : (fs.put l n).ending path = .ok e := by
  unfold ending at h ⊢
  cases hcheck : checkPath path with
  | error e => simp [hcheck] at h
  | ok u =>
  cases hnames : (components path).reverse.dropWhile (· = "") with
  | nil => simpa [hcheck, hnames] using h
  | cons last before =>
  cases hwalk : fs.walk (fs.startOf path) (before.reverse ++ [""]) with
  | error e => simp [hcheck, hnames, hwalk] at h
  | ok m =>
      have hsame : (fs.put l n).walk ((fs.put l n).startOf path) (before.reverse ++ [""]) = .ok m :=
        walk_put hl n hwalk
      simpa [hcheck, hnames, hwalk, hsame] using h

/-- A file that could be written still can be after a text was put where no directory is. -/
theorem writable_put (hl : fs.node? l ≠ some .directory) (text : String)
    (h : fs.writable path = .ok k) : (fs.put l (.text text)).writable path = .ok k := by
  obtain ⟨directory, name, hending, hstep, hnode⟩ := writable_eq_ok_iff.mp h
  refine writable_eq_ok_iff.mpr ⟨directory, name, ending_put hl _ hending, step_put hl _ hstep, ?_⟩
  rw [node?_put fs (ne_nil_of_not_directory hl)]
  split
  · simp
  · exact hnode

theorem write_spec (h : fs.write path content = .ok fs') :
    ∃ l, fs.locate path = .ok l ∧ fs.node? l ≠ some .directory ∧
      (components path).getLast? = l.getLast? ∧ fs' = fs.put l (.text content) := by
  unfold write at h
  cases hwritable : fs.writable path with
  | error e => simp [hwritable, Except.map] at h
  | ok l =>
      obtain ⟨hlocate, hnode, name, hlast, hname⟩ := writable_spec hwritable
      rw [hwritable] at h
      exact ⟨l, hlocate, hnode, hlast.trans hname.symm, (Except.ok.inj h).symm⟩

theorem write_of_writable (h : fs.writable path = .ok l) (content : String) :
    fs.write path content = .ok (fs.put l (.text content)) := by
  rw [write, h]
  rfl

theorem open?_eq_text_iff :
    fs.open? path = .ok (some text) ↔
      ∃ l, fs.locate path = .ok l ∧ fs.node? l = some (.text text) := by
  unfold open?
  cases fs.locate path with
  | error e => simp
  | ok l =>
      cases hnode : fs.node? l with
      | none => simp [hnode]
      | some n => cases n <;> simp [hnode]

/-- A file holds what was written to it. -/
theorem open?_of_write (h : fs.write path content = .ok fs') :
    fs'.open? path = .ok (some content) := by
  obtain ⟨l, hlocate, hnode, -, rfl⟩ := write_spec h
  refine open?_eq_text_iff.mpr ⟨l, locate_put hnode _ hlocate, ?_⟩
  rw [node?_put fs (ne_nil_of_not_directory hnode), if_pos rfl]

/-- A file that was written keeps what it holds while one with another name is written. -/
theorem open?_of_write_beside {fs'' : Files} (h : fs.write path content = .ok fs')
    (h' : fs'.write other text = .ok fs'')
    (hname : (components other).getLast? ≠ (components path).getLast?) :
    fs''.open? path = .ok (some content) := by
  obtain ⟨l, hlocate, hnode, hlast, rfl⟩ := write_spec h
  obtain ⟨l', -, hnode', hlast', rfl⟩ := write_spec h'
  -- A place ends in the last component of its path, so the second file lies elsewhere.
  have hne : l ≠ l' := by
    rintro rfl
    exact hname (hlast'.trans hlast.symm)
  refine open?_eq_text_iff.mpr ⟨l, locate_put hnode' _ (locate_put hnode _ hlocate), ?_⟩
  rw [node?_put _ (ne_nil_of_not_directory hnode'), if_neg hne,
    node?_put _ (ne_nil_of_not_directory hnode), if_pos rfl]

theorem splitPath_of_noSlash {cs : List Char} (h : '/' ∉ cs) : splitPath cs = [cs] := by
  induction cs with
  | nil => rfl
  | cons c cs ih =>
      have hc : c ≠ '/' := by
        rintro rfl
        exact h List.mem_cons_self
      rw [splitPath, if_neg hc, ih fun hmem => h (List.mem_cons_of_mem c hmem)]

/-- What is added to a path without a slash belongs to its last piece. -/
theorem splitPath_append (cs : List Char) {suffix : List Char} (h : '/' ∉ suffix) :
    ∃ before last, splitPath cs = before ++ [last] ∧
      splitPath (cs ++ suffix) = before ++ [last ++ suffix] := by
  induction cs with
  | nil => exact ⟨[], [], rfl, splitPath_of_noSlash h⟩
  | cons c cs ih =>
      obtain ⟨before, last, heq, hmore⟩ := ih
      rw [List.cons_append, splitPath, splitPath, heq, hmore]
      by_cases hc : c = '/'
      · exact ⟨[] :: before, last, by simp [hc], by simp [hc]⟩
      · cases before with
        | nil => exact ⟨[], c :: last, by simp [hc], by simp [hc]⟩
        | cons piece rest => exact ⟨(c :: piece) :: rest, last, by simp [hc], by simp [hc]⟩

theorem components_append (path : String) {suffix : String} (hslash : '/' ∉ suffix.toList) :
    ∃ before last, components path = before ++ [last] ∧
      components (path ++ suffix) = before ++ [last ++ suffix] := by
  obtain ⟨before, last, heq, hmore⟩ := splitPath_append path.toList hslash
  refine ⟨before.map String.ofList, String.ofList last, ?_, ?_⟩
  · rw [components, heq]
    simp
  · rw [components, String.toList_append, hmore]
    simp

/-- Something added to a path without a slash makes another name of its last one. -/
theorem getLast?_components_append (path : String) {suffix : String} (hslash : '/' ∉ suffix.toList)
    (hsome : suffix ≠ "") :
    (components (path ++ suffix)).getLast? ≠ (components path).getLast? := by
  obtain ⟨before, last, heq, hmore⟩ := components_append path hslash
  have hlonger : last ++ suffix ≠ last := fun hsame => hsome (by simpa using hsame)
  rw [heq, hmore]
  simpa using hlonger

theorem startOf_append (hpath : path ≠ "") (suffix : String) :
    fs.startOf (path ++ suffix) = fs.startOf path := by
  have hsame : (path ++ suffix).startsWith "/" = path.startsWith "/" := by
    rw [Bool.eq_iff_iff, String.startsWith_string_iff, String.startsWith_string_iff,
      String.toList_append]
    cases hlist : path.toList with
    | nil => exact absurd (String.toList_eq_nil_iff.mp hlist) hpath
    | cons c cs => simp
  rw [startOf, startOf, hsame]

/-- A path through directories ends with the name that it has last. -/
theorem ending_of_walk {before : List String} {name : String} (hcheck : checkPath path = .ok ())
    (hname : IsName name) (hcomponents : components path = before ++ [name])
    (hwalk : fs.walk (fs.startOf path) before = .ok k) (hnode : fs.node? k = some .directory) :
    fs.ending path = .ok (.name k name false) := by
  obtain ⟨hblank, hdot, hdots⟩ := hname
  have hdirectory : fs.walk (fs.startOf path) (before ++ [""]) = .ok k := by
    rw [walk_append, hwalk]
    exact walk_blank hnode
  simp [ending, hcheck, hcomponents, hblank, hdirectory, hdot, hdots]

/-- A path that something is added to leads through the same directories to a longer name. -/
theorem append_spec (h : fs.writable path = .ok l) (hslash : '/' ∉ suffix.toList) :
    ∃ before directory name, l = directory ++ [name] ∧ IsName name ∧
      fs.node? directory = some .directory ∧
      components (path ++ suffix) = before ++ [name ++ suffix] ∧
      fs.walk (fs.startOf (path ++ suffix)) before = .ok directory := by
  obtain ⟨directory, name, hending, hstep, -⟩ := writable_eq_ok_iff.mp h
  obtain ⟨hcheck, hname, before, hcomponents, hwalk⟩ := ending_of_name hending
  obtain ⟨before', last, heq, hmore⟩ := components_append path hslash
  obtain ⟨rfl, rfl⟩ : before = before' ∧ name = last := by
    simpa using List.append_inj' (hcomponents.symm.trans heq) rfl
  have hpath : path ≠ "" := by
    rintro rfl
    exact absurd hcheck (by decide)
  refine ⟨before, directory, name, step_of_isName hname hstep, hname, directory_of_step hstep,
    hmore, ?_⟩
  rw [startOf_append hpath, hwalk]

/-- The place beside a location to which a path leads when something is added to it. It depends on
the path and the location, but not on the files. -/
def beside (path suffix : String) (l : Location) : Except FileError Location :=
  match checkPath (path ++ suffix) with
  | .error e => .error e
  | .ok () =>
    if maxNameBytes < (l.getLastD "" ++ suffix).utf8ByteSize then .error .invalidFilename
    else .ok (l.dropLast ++ [l.getLastD "" ++ suffix])

theorem locate_append (h : fs.writable path = .ok l) (hslash : '/' ∉ suffix.toList) :
    fs.locate (path ++ suffix) = beside path suffix l := by
  obtain ⟨before, directory, name, rfl, hname, hnode, hcomponents, hwalk⟩ := append_spec h hslash
  rw [locate, beside, hcomponents, walk_append, hwalk, List.dropLast_concat, List.getLastD_concat]
  cases checkPath (path ++ suffix) with
  | error e => rfl
  | ok => exact walk_single.trans (step_isName (hname.append suffix) hnode)

/-- A location, unless a directory is there. -/
def unlessDirectory (fs : Files) (l : Location) : Except FileError Location :=
  match fs.node? l with
  | some .directory => .error .isADirectory
  | _ => .ok l

theorem writable_append (h : fs.writable path = .ok l) (hslash : '/' ∉ suffix.toList) :
    fs.writable (path ++ suffix) = (beside path suffix l).bind fs.unlessDirectory := by
  obtain ⟨before, directory, name, rfl, hname, hnode, hcomponents, hwalk⟩ := append_spec h hslash
  rw [beside, List.dropLast_concat, List.getLastD_concat]
  cases hcheck : checkPath (path ++ suffix) with
  | error e => simp [writable, ending, hcheck, Except.bind]
  | ok =>
      have hending := ending_of_walk hcheck (hname.append suffix) hcomponents hwalk hnode
      simp only [writable, hending, step_isName (hname.append suffix) hnode]
      by_cases hsize : maxNameBytes < (name ++ suffix).utf8ByteSize
      · simp only [if_pos hsize]
        rfl
      · simp only [if_neg hsize]
        rfl

/-- A file that is written leaves what stands beside it. -/
theorem node?_put_beside (h : fs.writable path = .ok l) (hslash : '/' ∉ suffix.toList)
    (hsome : suffix ≠ "") (n : FileNode) (hk : beside path suffix l = .ok k) :
    (fs.put l n).node? k = fs.node? k := by
  obtain ⟨-, directory, name, rfl, -⟩ := append_spec h hslash
  have hdirectory := (writable_spec h).2.1
  have hplace : k = directory ++ [name ++ suffix] := by
    rw [beside, List.dropLast_concat, List.getLastD_concat] at hk
    split at hk
    · cases hk
    · split at hk
      · cases hk
      · exact (Except.ok.inj hk).symm
  have hlonger : name ++ suffix ≠ name := by
    intro hsame
    exact hsome (by simpa using hsame)
  rw [node?_put fs (ne_nil_of_not_directory hdirectory), if_neg]
  rw [hplace]
  simpa using hlonger

theorem open?_put_beside (h : fs.writable path = .ok l) (hslash : '/' ∉ suffix.toList)
    (hsome : suffix ≠ "") (text : String) :
    (fs.put l (.text text)).open? (path ++ suffix) = fs.open? (path ++ suffix) := by
  have hput := writable_put (writable_spec h).2.1 text h
  rw [open?, open?, locate_append hput hslash, locate_append h hslash]
  cases hk : beside path suffix l with
  | error e => rfl
  | ok k => simp only [node?_put_beside h hslash hsome _ hk]

theorem writable_put_beside (h : fs.writable path = .ok l) (hslash : '/' ∉ suffix.toList)
    (hsome : suffix ≠ "") (text : String) :
    (fs.put l (.text text)).writable (path ++ suffix) = fs.writable (path ++ suffix) := by
  have hput := writable_put (writable_spec h).2.1 text h
  rw [writable_append hput hslash, writable_append h hslash]
  cases hk : beside path suffix l with
  | error e => rfl
  | ok k => simp only [Except.bind, unlessDirectory, node?_put_beside h hslash hsome _ hk]

end Vicinity.Files
