/-
Going down a disk by listing.

The files below a directory are those that a descent meets: it starts in the directory, and goes on to
whatever a listing of something met names.  On a disk this is a matter of the entries and of the
directories on the way, each of which has to be one that can be listed by its path.  Main statements:

* **`resolved_of_walk`** — a path that leads somewhere is resolved to the path of the place;
* **`test_pathOf_cases`** — the path of a place is tested by what is there, or cannot be tested;
* **`list_pathOf_eq_ok`** — a directory is listed by its path exactly if it is listable;
* **`isMet_iff`** — what a descent meets, said of the entries.
-/
import SpecifierLint.Proofs.Disk.Blocked
import SpecifierLint.Proofs.Disk.Normal
import SpecifierLint.SourceTree

namespace SpecifierLint

open SourceTree

namespace Disk

variable {d : Disk}

/-- Everything above a location is a directory. -/
def IsUnder (d : Disk) (location : Location) : Prop :=
  ∀ n < location.length, d.entryAt? (location.take n) = some .directory

instance (d : Disk) (location : Location) : Decidable (d.IsUnder location) :=
  inferInstanceAs (Decidable (∀ n < location.length, d.entryAt? (location.take n) = some .directory))

/-! ### Places -/

theorem isDown_of_entryAt? {l : Location} (h : (d.entryAt? l).isSome) : ∀ c ∈ l, Path.IsDown c :=
  fun c hc => Path.isDown_of_isEntryName (isEntryName_of_entryAt? h c hc)

/-- A path that leads somewhere leads to the place that its components climb to. -/
theorem climbed_of_walk {path : Text} {l : Location} (h : d.walk path = .ok l) :
    Path.climbed true (Path.parts (Path.within d.cwdPath path)) = l := by
  by_cases habs : Path.isAbsolute path = true
  · rw [Path.within, if_pos habs]
    exact (eq_climbed_of_walk habs h).1.symm
  · -- a walk that starts in the working directory finds it there, so its names are those of an entry
    obtain ⟨_, _, _, hfrom⟩ := walk_eq_ok.1 h
    rw [if_neg habs] at hfrom
    have hcwd : d.entryAt? d.cwd = some .directory := by
      cases hsplit : Text.split '/' path with
      | nil => exact absurd hsplit (Text.split_ne_nil '/' path)
      | cons c rest =>
        rw [hsplit] at hfrom
        exact (walkFrom_cons_eq_ok.1 hfrom).1
    have hplace : d.HasPlace := isDown_of_entryAt? (by rw [hcwd]; rfl)
    rw [eq_parts_absolute_of_walk hplace h, Path.parts_absolute path d.isAbsolute_cwdPath]

theorem isDown_of_walk {path : Text} {l : Location} (h : d.walk path = .ok l) :
    ∀ c ∈ l, Path.IsDown c := by
  rw [← climbed_of_walk h]
  exact Path.isDown_of_mem_climbed fun c hc => Path.isPart_of_mem_parts hc

/-- A path that leads somewhere is resolved to the path of the place. -/
theorem resolved_of_walk {path : Text} {l : Location} (h : d.walk path = .ok l) :
    Path.resolved d.cwdPath path = pathOf l := by
  rw [Path.resolved_eq path d.isAbsolute_cwdPath, climbed_of_walk h,
    render_eq_pathOf (isDown_of_walk h)]

theorem isUnder_append_singleton {location : Location} {c : Text} :
    d.IsUnder (location ++ [c]) ↔ d.IsUnder location ∧ d.entryAt? location = some .directory :=
  forall_take_append_singleton (p := fun l => d.entryAt? l = some .directory)

theorem isUnder_of_walkFrom {location l : Location} {cs : List Text} (hl : d.IsUnder location)
    (h : d.walkFrom location cs = .ok l) : d.IsUnder l := by
  induction cs generalizing location with
  | nil =>
    cases h
    exact hl
  | cons c rest ih =>
    obtain ⟨hdir, _, _, hmore⟩ := walkFrom_cons_eq_ok.1 h
    refine ih ?_ hmore
    rw [Path.follow]
    split
    · exact hl
    · split
      · intro n hn
        rw [List.length_dropLast] at hn
        rw [List.dropLast_eq_take, List.take_take, Nat.min_eq_left (by omega)]
        exact hl n (by omega)
      · exact isUnder_append_singleton.2 ⟨hl, hdir⟩

theorem isUnder_of_walk {path : Text} {l : Location} (hcwd : d.IsUnder d.cwd)
    (h : d.walk path = .ok l) : d.IsUnder l := by
  obtain ⟨_, _, _, hfrom⟩ := walk_eq_ok.1 h
  refine isUnder_of_walkFrom ?_ hfrom
  split
  · intro n hn
    exact absurd hn (by simp)
  · exact hcwd

/-! ### Paths of places -/

/-- The components of the path of a location: an empty one before the first slash, and its names. -/
theorem split_pathOf {l : Location} (hdown : ∀ c ∈ l, Path.IsDown c) (hne : l ≠ []) :
    Text.split '/' (pathOf l) = [] :: l := by
  rw [pathOf, Text.split, if_pos rfl, Text.split_join hne fun c hc => (hdown c hc).1.2.2]

theorem zero_not_mem_pathOf {l : Location} (h : (d.entryAt? l).isSome) : '\x00' ∉ pathOf l := by
  rw [pathOf, List.mem_cons, not_or]
  refine ⟨by decide, Text.not_mem_join (by decide) fun c hc => ?_⟩
  exact zero_not_mem_of_isEntryName (isEntryName_of_entryAt? h c hc)

/-- On the way down to a place nothing is missing: the walk is given up only at something that ends a test. -/
theorem walkFrom_cases {l : Location} (hunder : d.IsUnder l) (hsome : (d.entryAt? l).isSome) :
    d.walkFrom [] l = .ok l ∨ ∃ e : AccessError, e.EndsTest ∧ d.walkFrom [] l = .error e := by
  have hdown := isDown_of_entryAt? hsome
  induction l using List.reverseRecOn with
  | nil => exact .inl rfl
  | append_singleton l c ih =>
    obtain ⟨habove, hdir⟩ := isUnder_append_singleton.1 hunder
    rw [walkFrom_append]
    rcases ih habove (by rw [hdir]; rfl) (fun x hx => hdown x (by simp [hx])) with hwalk | ⟨e, he, hwalk⟩
    · have hname : Path.IsDown c := hdown c (by simp)
      rw [hwalk]
      by_cases hsearch : d.isSearchable l = true
      · by_cases hlong : longestName < Text.utf8Length c
        · refine .inr ⟨.nameTooLong, .inl rfl, ?_⟩
          exact (Stops.long hdir hsearch hlong).walkFrom_cons []
        · refine .inl ((walkFrom_singleton hname).2 ?_)
          exact ⟨hdir, hsearch, Nat.le_of_not_lt hlong, hsome, rfl⟩
      · refine .inr ⟨.permission, .inr rfl, ?_⟩
        exact (Stops.closed hdir hname.1.1 (Bool.eq_false_iff.2 hsearch)).walkFrom_cons []
    · rw [hwalk]
      exact .inr ⟨e, he, rfl⟩

/-- The path of a place is tested by what is there, or cannot be tested. -/
theorem test_pathOf_cases {l : Location} {x : Entry} (hunder : d.IsUnder l)
    (hentry : d.entryAt? l = some x) (passes : Entry → Bool) :
    d.test passes (pathOf l) = .ok (passes x) ∨ ∃ fault, d.test passes (pathOf l) = .error fault := by
  have hsome : (d.entryAt? l).isSome := by rw [hentry]; rfl
  have hzero := zero_not_mem_pathOf hsome
  have hends (e : AccessError) (he : e.EndsTest) (hwalk : d.walk (pathOf l) = .error e) :
      ∃ fault, d.test passes (pathOf l) = .error fault :=
    ⟨_, test_eq_error.2 ⟨hzero, e, ((walk_eq_error he).1 hwalk).2, rfl⟩⟩
  by_cases hlimit : pathLimit ≤ Text.utf8Length (pathOf l)
  · exact .inr (hends _ (.inl rfl) ((walk_eq_error (.inl rfl)).2 ⟨hzero, .whole hlimit⟩))
  · have hwalk : d.walk (pathOf l) = d.walkFrom [] l := by
      have hempty : (pathOf l).isEmpty = false := rfl
      rw [walk, if_neg (by simpa using hzero), walkBytes, if_neg (by simp [hempty]), if_neg hlimit,
        if_pos (by rfl)]
      by_cases hne : l = []
      · rw [hne]
        show d.walkFrom [] [[], []] = _
        rw [walkFrom_root_cons, walkFrom_root_cons]
      · rw [split_pathOf (isDown_of_entryAt? hsome) hne, walkFrom_root_cons]
    rcases walkFrom_cases hunder hsome with hthere | ⟨e, he, hfails⟩
    · rw [test, reach, arrive_eq_ok.2 ⟨hwalk.trans hthere, hentry⟩]
      exact .inl rfl
    · exact .inr (hends e he (hwalk.trans hfails))

/-- A directory is listed by its path exactly if it is listable. -/
theorem list_pathOf_eq_ok {l : Location} (hdown : ∀ c ∈ l, Path.IsDown c) {names : List Text} :
    d.list (pathOf l) = .ok names ↔ isListable d l = true ∧ d.namesIn l = names := by
  rw [list, reach, isListable]
  cases hwalk : d.walk (pathOf l) with
  | error e => simp [arrive, Except.isOk, Except.toBool]
  | ok m =>
    obtain rfl := eq_of_walk_pathOf hdown hwalk
    rw [arrive]
    cases d.entryAt? m with
    | none => simp
    | some x =>
      cases x with
      | file content => simp
      | directory =>
        by_cases hdenied : m ∈ d.denied
        · simp [hdenied]
        · simp [hdenied, Except.isOk, Except.toBool]

/-- A listing fails for its length exactly if the path is too long to be walked. -/
theorem list_eq_nameTooLong {path : Text} :
    d.list path = .error (.access .nameTooLong path) ↔ d.walk path = .error .nameTooLong := by
  rw [list, reach, ← arrive_eq_error (.inl rfl)]
  cases d.arrive (d.walk path) with
  | error e => simp
  | ok found =>
    obtain ⟨l, x⟩ := found
    cases x with
    | file content => simp
    | directory =>
      dsimp only
      split <;> simp

end Disk

/-! ### Descents -/

namespace SourceTree

open Disk

/-- What a descent from a directory meets, as its names below the directory: the directory itself, and
whatever a listing of something met names. -/
inductive IsMet (d : Disk) (top : Location) : List Text → Prop
  | here : IsMet d top []
  | down {relative names : List Text} {name : Text} (met : IsMet d top relative)
      (listed : d.list (pathOf (top ++ relative)) = .ok names) (named : name ∈ names) :
      IsMet d top (relative ++ [name])

variable {d : Disk} {top : Location} {relative : List Text} {name : Text}

theorem isMet_append_singleton :
    IsMet d top (relative ++ [name]) ↔
      IsMet d top relative ∧ ∃ names, d.list (pathOf (top ++ relative)) = .ok names ∧ name ∈ names := by
  constructor
  · generalize hlong : relative ++ [name] = long
    intro h
    cases h with
    | here => exact absurd hlong (by simp)
    | down met listed named =>
      obtain ⟨rfl, hname⟩ := List.append_inj' hlong rfl
      obtain rfl := List.singleton_inj.1 hname
      exact ⟨met, _, listed, named⟩
  · rintro ⟨met, names, listed, named⟩
    exact .down met listed named

theorem isReachable_append :
    isReachable d top (top ++ relative) = true ↔
      ∀ n < relative.length, isListable d (top ++ relative.take n) = true := by
  simp [isReachable, List.take_length_add_append]

theorem isReachable_append_singleton :
    isReachable d top (top ++ (relative ++ [name])) = true ↔
      isReachable d top (top ++ relative) = true ∧ isListable d (top ++ relative) = true := by
  rw [isReachable_append, isReachable_append]
  exact forall_take_append_singleton (p := fun front => isListable d (top ++ front) = true)

theorem entryAt?_of_isListable {l : Location} (h : isListable d l = true) :
    d.entryAt? l = some .directory := by
  simp only [isListable, Bool.and_eq_true, decide_eq_true_eq] at h
  exact h.1.1

/-- What is in a listable directory is under directories. -/
theorem isUnder_of_isListable {l : Location} (h : isListable d l = true) (name : Text) :
    d.IsUnder (l ++ [name]) := by
  have hdir := entryAt?_of_isListable h
  refine isUnder_append_singleton.2 ⟨?_, hdir⟩
  simp only [isListable, Bool.and_eq_true] at h
  cases hwalk : d.walk (pathOf l) with
  | error e =>
    rw [hwalk] at h
    exact absurd h.2 (by simp [Except.isOk, Except.toBool])
  | ok m =>
    obtain rfl := eq_of_walk_pathOf (isDown_of_entryAt? (by rw [hdir]; rfl)) hwalk
    exact fun n hn => ((eq_climbed_of_walk rfl hwalk).2 n hn).1

/-- What a descent meets is there, and every directory on the way down to it can be listed. -/
theorem isMet_iff (hdir : d.entryAt? top = some .directory) :
    IsMet d top relative ↔
      (d.entryAt? (top ++ relative)).isSome ∧ isReachable d top (top ++ relative) = true := by
  induction relative using List.reverseRecOn with
  | nil =>
    refine iff_of_true .here ⟨by rw [List.append_nil, hdir]; rfl, ?_⟩
    simp [isReachable]
  | append_singleton relative name ih =>
    -- one more name is met if the directory it is in is met, and can be listed by its path
    rw [isMet_append_singleton, ih, isReachable_append_singleton]
    constructor
    · rintro ⟨⟨hsome, hreachable⟩, names, hlist, hname⟩
      obtain ⟨hlistable, rfl⟩ := (list_pathOf_eq_ok (isDown_of_entryAt? hsome)).1 hlist
      rw [mem_namesIn, List.append_assoc] at hname
      exact ⟨hname, hreachable, hlistable⟩
    · rintro ⟨hsome, hreachable, hlistable⟩
      have hhere : (d.entryAt? (top ++ relative)).isSome := by
        rw [entryAt?_of_isListable hlistable]
        rfl
      refine ⟨⟨hhere, hreachable⟩, _,
        (list_pathOf_eq_ok (isDown_of_entryAt? hhere)).2 ⟨hlistable, rfl⟩, ?_⟩
      rwa [mem_namesIn, List.append_assoc]

end SourceTree

end SpecifierLint
