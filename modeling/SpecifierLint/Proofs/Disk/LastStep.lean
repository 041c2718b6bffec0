/-
The last step of a walk.

A walk along a clean path goes along the front of the path to a directory and from there to the last
name.  Paths with the same front therefore lead into the same directory, and what is in it decides
which of them lead to a file.  Main statements:

* **`walk_eq_ok_of_hasLast`** — a walk along a clean path, as its front and its last step;
* **`isFile_of_entryAt?`** — a path leads to a file that stands in the directory its front leads to;
* **`eq_parts_absolute_of_walk`** — every path leads to the parts of its absolute form;
* **`mem_namesIn`** — the names in a directory are those of the entries there.
-/
import SpecifierLint.Proofs.Disk.Blocked
import SpecifierLint.Proofs.Path.Lengthening

namespace SpecifierLint.Disk

variable {d : Disk}

/-- Where the walk along a path starts. -/
def base (d : Disk) (path : Text) : Location := if Path.isAbsolute path then [] else d.cwd

/-- Every name of the working directory leads down. -/
def HasPlace (d : Disk) : Prop := ∀ c ∈ d.cwd, Path.IsDown c

instance (d : Disk) : Decidable d.HasPlace :=
  inferInstanceAs (Decidable (∀ c ∈ d.cwd, Path.IsDown c))

/-- The path can be tested. -/
def isTestable (d : Disk) (path : Text) : Bool := (d.isFile path).isOk

/-! ### Walks along parts -/

theorem walkFrom_parts {location l : Location} {path : Text}
    (h : d.walkFrom location (Text.split '/' path) = .ok l) :
    d.walkFrom location (Path.parts path) = .ok l := by
  rw [Path.parts]
  revert h
  induction Text.split '/' path generalizing location with
  | nil => exact id
  | cons c rest ih =>
    intro h
    obtain ⟨hdir, hsearch, hdown, hmore⟩ := walkFrom_cons_eq_ok.1 h
    by_cases hc : c = [] ∨ c = ['.']
    · rw [Path.follow, if_pos hc] at hmore
      rw [List.filter_cons_of_neg (by rcases hc with rfl | rfl <;> simp)]
      exact ih hmore
    · rw [not_or] at hc
      rw [List.filter_cons_of_pos (by simp [hc.1, hc.2])]
      exact walkFrom_cons_eq_ok.2 ⟨hdir, hsearch, hdown, ih hmore⟩

/-- A step of slashes at the root leads nowhere else. -/
theorem walkFrom_root_cons (cs : List Text) : d.walkFrom [] ([] :: cs) = d.walkFrom [] cs := by
  rw [walkFrom, if_neg (by simp [entryAt?_nil])]
  simp

theorem walkFrom_render {r : Text} {ps : List Text} (hr : Path.IsRoot r)
    (h : ∀ c ∈ ps, Path.IsPart c) (hne : ps ≠ []) {location : Location}
    (hlocation : r ≠ [] → location = []) :
    d.walkFrom location (Text.split '/' (Path.render r ps)) = d.walkFrom location ps := by
  have hsplit : Text.split '/' (Text.join ['/'] ps) = ps :=
    Text.split_join hne fun c hc => (h c hc).2.2
  rw [Path.render_eq h (by simp [hne])]
  rcases hr with rfl | rfl | rfl
  · rw [List.nil_append, hsplit]
  · rw [hlocation (by simp), List.singleton_append, Text.split, if_pos rfl, hsplit,
      walkFrom_root_cons]
  · rw [hlocation (by simp), List.cons_append, List.singleton_append, Text.split, if_pos rfl,
      Text.split, if_pos rfl, hsplit, walkFrom_root_cons, walkFrom_root_cons]

section

variable {path name : Text} {front : List Text} (h : Path.HasLast path front name)

include h

theorem walkFrom_split :
    d.walkFrom (d.base path) (Text.split '/' path) = d.walkFrom (d.base path) (front ++ [name]) := by
  have hlocation : Path.root path ≠ [] → d.base path = [] := by
    intro hr
    rw [base, if_pos (Path.isAbsolute_iff_root.2 hr)]
  have hrender := walkFrom_render (d := d) (Path.isRoot_root path) h.isPart (by simp) hlocation
  rwa [← h.eq_render] at hrender

/-- A walk along a clean path, as its front and its last step. -/
theorem walk_eq_ok_of_hasLast {l : Location} :
    d.walk path = .ok l ↔
      '\x00' ∉ path ∧ Text.utf8Length path < pathLimit
        ∧ ∃ m, d.walkFrom (d.base path) front = .ok m ∧ d.walkFrom m [name] = .ok l := by
  rw [walk_eq_ok, ← base, walkFrom_split h, walkFrom_append_eq_ok]
  simp [h.ne_nil]

end

theorem walkFrom_singleton {m l : Location} {name : Text} (h : Path.IsDown name) :
    d.walkFrom m [name] = .ok l ↔
      d.entryAt? m = some .directory ∧ d.isSearchable m = true
        ∧ Text.utf8Length name ≤ longestName ∧ (d.entryAt? (m ++ [name])).isSome
        ∧ l = m ++ [name] := by
  rw [walkFrom_cons_eq_ok, Path.follow_of_isDown h, walkFrom]
  simp only [h.1.1, ne_eq, not_false_eq_true, forall_const, Except.ok.injEq, eq_comm (a := l),
    and_assoc]

/-! ### Files in a directory -/

theorem isEntryName_of_entryAt? {l : Location} (h : (d.entryAt? l).isSome) :
    ∀ c ∈ l, isEntryName c = true := by
  intro c hc
  have hl : l ≠ [] := List.ne_nil_of_mem hc
  obtain ⟨x, hx⟩ := Option.isSome_iff_exists.1 h
  have hall := d.named l (List.mem_map_of_mem ((mem_entries_iff hl).2 hx))
  exact List.all_eq_true.1 hall c hc

theorem zero_not_mem_of_isEntryName {name : Text} (h : isEntryName name = true) :
    '\x00' ∉ name := by
  rw [isEntryName, Bool.and_eq_true] at h
  simpa using h.2

theorem zero_not_mem_of_walkFrom {location l : Location} {cs : List Text}
    (h : d.walkFrom location cs = .ok l) : ∀ c ∈ cs, '\x00' ∉ c := by
  induction cs generalizing location with
  | nil => simp
  | cons c rest ih =>
    obtain ⟨_, _, hdown, hmore⟩ := walkFrom_cons_eq_ok.1 h
    refine List.forall_mem_cons.2 ⟨?_, ih hmore⟩
    by_cases hskip : c = [] ∨ c = ['.']
    · rcases hskip with rfl | rfl <;> decide
    · by_cases hup : c = ['.', '.']
      · rw [hup]
        decide
      · have hentry := (hdown (by rw [Path.follow, if_neg hskip, if_neg hup])).2
        exact zero_not_mem_of_isEntryName (isEntryName_of_entryAt? hentry c (by simp))

section

variable {path name : Text} {front : List Text} (h : Path.HasLast path front name)
  (hname : Path.IsDown name)

include h hname

/-- A path that leads to a file, as the directory its front leads to and the file there. -/
theorem exists_directory_of_isFile (hfile : d.isFile path = .ok true) :
    ∃ m content, d.walkFrom (d.base path) front = .ok m ∧ d.entryAt? m = some .directory
      ∧ d.entryAt? (m ++ [name]) = some (.file content) := by
  obtain ⟨l, content, hwalk, hentry⟩ := isFile_eq_true.1 hfile
  obtain ⟨_, _, m, hfront, hlast⟩ := (walk_eq_ok_of_hasLast h).1 hwalk
  obtain ⟨hdir, _, _, _, rfl⟩ := (walkFrom_singleton hname).1 hlast
  exact ⟨m, content, hfront, hdir, hentry⟩

/-- A path leads to a file that stands in the directory its front leads to, if it can be tested. -/
theorem isFile_of_entryAt? {m : Location} {content : Content}
    (hfront : d.walkFrom (d.base path) front = .ok m) (hdir : d.entryAt? m = some .directory)
    (hentry : d.entryAt? (m ++ [name]) = some (.file content))
    (hshort : d.isTestable path = true) : d.isFile path = .ok true := by
  -- the entries on the way have names without U+0000, and the path is made of these names
  have hzero : '\x00' ∉ path := by
    refine h.not_mem (by decide) fun c hc => ?_
    rcases List.mem_append.1 hc with hc | hc
    · exact zero_not_mem_of_walkFrom hfront c hc
    · rw [List.mem_singleton.1 hc]
      have hsome : (d.entryAt? (m ++ [name])).isSome := by rw [hentry]; rfl
      exact zero_not_mem_of_isEntryName (isEntryName_of_entryAt? hsome name (by simp))
  have hfree {e : AccessError} (he : e.EndsTest) : d.walk path ≠ .error e := by
    intro hwalk
    obtain ⟨_, hblocked⟩ := (walk_eq_error he).1 hwalk
    rw [isTestable, isFile_eq_error.2 ⟨hzero, e, hblocked, rfl⟩] at hshort
    exact absurd hshort (by simp [Except.isOk, Except.toBool])
  have hlimit : Text.utf8Length path < pathLimit := by
    refine Nat.lt_of_not_le fun hle => hfree (.inl rfl) ?_
    exact (walk_eq_error (.inl rfl)).2 ⟨hzero, .whole hle⟩
  -- so nothing stops the last step either
  have hopen {e : AccessError} : ¬ d.Stops m name e := by
    intro hstops
    refine hfree hstops.endsTest ?_
    rw [walk, if_neg (by simpa using hzero), walkBytes, if_neg (by simpa using h.ne_nil),
      if_neg (Nat.not_le.2 hlimit), ← base, walkFrom_split h, walkFrom_append, hfront]
    exact hstops.walkFrom_cons []
  have hsearch : d.isSearchable m = true := by
    cases hclosed : d.isSearchable m with
    | true => rfl
    | false => exact absurd (.closed hdir hname.1.1 hclosed) hopen
  have hlength : Text.utf8Length name ≤ longestName :=
    Nat.le_of_not_lt fun hlong => hopen (.long hdir hsearch hlong)
  refine isFile_eq_true.2 ⟨m ++ [name], content, ?_, hentry⟩
  refine (walk_eq_ok_of_hasLast h).2 ⟨hzero, hlimit, m, hfront, ?_⟩
  exact (walkFrom_singleton hname).2 ⟨hdir, hsearch, hlength, by rw [hentry]; rfl, rfl⟩

end

/-- The names in a directory are those of the entries there. -/
theorem mem_namesIn {m : Location} {name : Text} :
    name ∈ d.namesIn m ↔ (d.entryAt? (m ++ [name])).isSome := by
  rw [namesIn, List.mem_filterMap, Option.isSome_iff_exists]
  constructor
  · rintro ⟨e, he, hname⟩
    split at hname
    · next last hlast =>
      split at hname
      · next hfront =>
        cases hname
        obtain ⟨l, x⟩ := e
        obtain ⟨front, rfl⟩ := List.getLast?_eq_some_iff.1 hlast
        rw [List.dropLast_concat] at hfront
        subst hfront
        exact ⟨x, (mem_entries_iff (by simp)).1 he⟩
      · exact absurd hname (by simp)
    · exact absurd hname (by simp)
  · rintro ⟨x, hx⟩
    refine ⟨(m ++ [name], x), (mem_entries_iff (by simp)).2 hx, ?_⟩
    simp

/-! ### Where paths lead -/

theorem parts_cwdPath (h : d.HasPlace) : Path.parts d.cwdPath = d.cwd := parts_pathOf h

/-- Components lead from the start of a walk to the parts of the absolute form. -/
theorem foldl_follow_base (h : d.HasPlace) (path : Text) :
    (Path.parts path).foldl Path.follow (d.base path)
      = Path.parts (Path.absolute d.cwdPath path) := by
  rw [Path.parts_absolute path d.isAbsolute_cwdPath,
    Path.climbed_eq_follow fun c hc => Path.isPart_of_mem_parts hc]
  by_cases habs : Path.isAbsolute path = true
  · rw [base, if_pos habs, Path.within, if_pos habs]
  · rw [Bool.not_eq_true] at habs
    rw [base, habs, Path.parts_within habs, List.foldl_append, parts_cwdPath h,
      Path.foldl_follow_of_isDown h, List.nil_append]
    rfl

/-- Every path leads to the parts of its absolute form, or nowhere. -/
theorem eq_parts_absolute_of_walk (h : d.HasPlace) {path : Text} {l : Location}
    (hwalk : d.walk path = .ok l) : l = Path.parts (Path.absolute d.cwdPath path) := by
  obtain ⟨_, _, _, hfrom⟩ := walk_eq_ok.1 hwalk
  rw [← foldl_follow_base h, base]
  exact eq_follow_of_walkFrom (walkFrom_parts hfrom)

end SpecifierLint.Disk
