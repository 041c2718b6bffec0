/-
Walking paths on a disk.

A walk checks the disk at every component, but where it ends depends on the components alone: it is
the place that they lead to on paper.  On a disk without links a path and its normal form therefore
lead to the same place.  Main statements:

* **`walkFrom_cons_eq_ok`** — what one step of a walk checks, and where it goes on;
* **`eq_follow_of_walkFrom`** — a walk ends where its components lead;
* **`isBelow_of_walkFrom`** — everything above the end of a walk is a directory that can be searched;
* **`eq_climbed_of_walk`** — an absolute path leads to the parts of its normal form;
* **`eq_of_walk_pathOf`** — the path of a location leads there or nowhere.
-/
import SpecifierLint.Disk.Access
import SpecifierLint.Proofs.Path.Spelled

namespace SpecifierLint.Disk

variable {d : Disk}

/-- Everything above a location is a directory that can be searched. -/
def IsBelow (d : Disk) (location : Location) : Prop :=
  ∀ n < location.length,
    d.entryAt? (location.take n) = some .directory ∧ d.isSearchable (location.take n) = true

theorem entryAt?_nil (d : Disk) : d.entryAt? [] = some .directory := by
  simp [entryAt?]

theorem ne_nil_of_file {location : Location} {content : Content}
    (h : d.entryAt? location = some (.file content)) : location ≠ [] := by
  rintro rfl
  rw [entryAt?_nil] at h
  exact absurd h (by simp)

/-! ### Entries -/

theorem lookup_of_mem {entries : List (Location × Entry)} {l : Location} {x : Entry}
    (hnodup : (entries.map Prod.fst).Nodup) (h : (l, x) ∈ entries) : entries.lookup l = some x := by
  induction entries with
  | nil => exact absurd h (by simp)
  | cons e rest ih =>
    obtain ⟨k, y⟩ := e
    rw [List.map_cons, List.nodup_cons] at hnodup
    rcases List.mem_cons.1 h with heq | hrest
    · cases heq
      simp
    · have hne : (l == k) = false := by
        rw [beq_eq_false_iff_ne]
        rintro rfl
        exact hnodup.1 (List.mem_map.2 ⟨(l, x), hrest, rfl⟩)
      rw [List.lookup_cons, hne]
      exact ih hnodup.2 hrest

theorem mem_of_lookup {entries : List (Location × Entry)} {l : Location} {x : Entry}
    (h : entries.lookup l = some x) : (l, x) ∈ entries := by
  induction entries with
  | nil => exact absurd h (by simp)
  | cons e rest ih =>
    obtain ⟨k, y⟩ := e
    rw [List.lookup_cons] at h
    split at h
    · next hk =>
      cases h
      rw [eq_of_beq hk]
      exact List.mem_cons_self ..
    · exact List.mem_cons_of_mem _ (ih h)

theorem mem_entries_iff {l : Location} {x : Entry} (hl : l ≠ []) :
    (l, x) ∈ d.entries ↔ d.entryAt? l = some x := by
  rw [entryAt?, if_neg hl]
  exact ⟨lookup_of_mem d.nodup, mem_of_lookup⟩

/-! ### Steps -/

/-- What one step of a walk checks, and where it goes on: it starts in a directory, which can be searched
unless the component is empty, and a name that it goes down by is short enough and is there. -/
theorem walkFrom_cons_eq_ok {location l : Location} {c : Text} {rest : List Text} :
    d.walkFrom location (c :: rest) = .ok l ↔
      d.entryAt? location = some .directory
        ∧ (c ≠ [] → d.isSearchable location = true)
        ∧ (Path.follow location c = location ++ [c] →
            Text.utf8Length c ≤ longestName ∧ (d.entryAt? (location ++ [c])).isSome)
        ∧ d.walkFrom (Path.follow location c) rest = .ok l := by
  rw [walkFrom]
  by_cases hdir : d.entryAt? location = some .directory
  · rw [if_neg (by simp [hdir])]
    by_cases hsearch : c ≠ [] ∧ d.isSearchable location = false
    · rw [if_pos (by simpa using hsearch)]
      simp [hsearch]
    · have hopen : c ≠ [] → d.isSearchable location = true := by simpa using hsearch
      rw [if_neg (by simpa using hsearch)]
      rw [and_iff_right hdir, and_iff_right hopen]
      by_cases hskip : c = [] ∨ c = ['.']
      · -- the walk stays
        rw [if_pos (by simpa using hskip), Path.follow, if_pos hskip]
        simp
      · rw [if_neg (by simpa using hskip), Path.follow, if_neg hskip]
        by_cases hup : c = ['.', '.']
        · -- the walk goes up, which no name to go down by does
          have hne : location.dropLast ≠ location ++ [c] := by
            intro heq
            have hlen := congrArg List.length heq
            rw [List.length_dropLast, List.length_append, List.length_singleton] at hlen
            omega
          simp [hup, hup ▸ hne]
        · -- the walk goes down, by a name whose length is checked before it is looked up
          rw [if_neg hup, if_neg hup]
          by_cases hlong : longestName < Text.utf8Length c
          · rw [if_pos hlong]
            simp [Nat.not_le.2 hlong]
          · rw [if_neg hlong]
            by_cases hsome : (d.entryAt? (location ++ [c])).isSome
            · rw [if_pos hsome]
              simp [hsome, Nat.le_of_not_lt hlong]
            · rw [if_neg hsome]
              simp [hsome]
  · simp [hdir]

/-- A walk ends where its components lead. -/
theorem eq_follow_of_walkFrom {location l : Location} {cs : List Text}
    (h : d.walkFrom location cs = .ok l) : l = cs.foldl Path.follow location := by
  induction cs generalizing location with
  | nil =>
    cases h
    rfl
  | cons c rest ih => exact ih (walkFrom_cons_eq_ok.1 h).2.2.2

theorem walkFrom_append (location : Location) (cs ds : List Text) :
    d.walkFrom location (cs ++ ds) = (d.walkFrom location cs).bind (d.walkFrom · ds) := by
  induction cs generalizing location with
  | nil => rfl
  | cons c rest ih =>
    rw [List.cons_append, walkFrom, walkFrom, ih, ih, ih]
    split
    · rfl
    · split
      · rfl
      · split
        · rfl
        · split
          · rfl
          · split
            · rfl
            · split <;> rfl

theorem walkFrom_append_eq_ok {location l : Location} {cs ds : List Text} :
    d.walkFrom location (cs ++ ds) = .ok l ↔
      ∃ m, d.walkFrom location cs = .ok m ∧ d.walkFrom m ds = .ok l := by
  rw [walkFrom_append]
  cases d.walkFrom location cs with
  | error e => simp [Except.bind]
  | ok m => simp [Except.bind]

/-! ### What is above -/

theorem isBelow_nil (d : Disk) : d.IsBelow [] := by
  intro n hn
  exact absurd hn (by simp)

theorem IsBelow.dropLast {location : Location} (h : d.IsBelow location) :
    d.IsBelow location.dropLast := by
  intro n hn
  rw [List.length_dropLast] at hn
  rw [List.dropLast_eq_take, List.take_take, Nat.min_eq_left (by omega)]
  exact h n (by omega)

/-- The proper fronts of a longer list are those of the shorter one, and the shorter one itself. -/
theorem forall_take_append_singleton {p : List Text → Prop} {cs : List Text} {c : Text} :
    (∀ n < (cs ++ [c]).length, p ((cs ++ [c]).take n)) ↔ (∀ n < cs.length, p (cs.take n)) ∧ p cs := by
  constructor
  · intro h
    refine ⟨fun n hn => ?_, ?_⟩
    · have := h n (by rw [List.length_append]; omega)
      rwa [List.take_append_of_le_length (by omega)] at this
    · have := h cs.length (by simp)
      rwa [List.take_left' rfl] at this
  · rintro ⟨habove, hhere⟩ n hn
    rw [List.length_append, List.length_singleton] at hn
    rw [List.take_append_of_le_length (by omega)]
    by_cases hlast : n = cs.length
    · rwa [hlast, List.take_length]
    · exact habove n (by omega)

theorem isBelow_append_singleton {location : Location} {c : Text} :
    d.IsBelow (location ++ [c]) ↔
      d.IsBelow location ∧ d.entryAt? location = some .directory
        ∧ d.isSearchable location = true :=
  forall_take_append_singleton
    (p := fun l => d.entryAt? l = some .directory ∧ d.isSearchable l = true)

/-- Everything above the end of a walk is a directory that can be searched, if this is so at its start. -/
theorem isBelow_of_walkFrom {location l : Location} {cs : List Text} (hl : d.IsBelow location)
    (h : d.walkFrom location cs = .ok l) : d.IsBelow l := by
  induction cs generalizing location with
  | nil =>
    cases h
    exact hl
  | cons c rest ih =>
    obtain ⟨hdir, hsearch, _, hmore⟩ := walkFrom_cons_eq_ok.1 h
    refine ih ?_ hmore
    rw [Path.follow]
    split
    · exact hl
    · next hname =>
      split
      · exact hl.dropLast
      · exact isBelow_append_singleton.2 ⟨hl, hdir, hsearch fun hc => hname (.inl hc)⟩

/-! ### Paths -/

theorem walk_eq_ok {path : Text} {l : Location} :
    d.walk path = .ok l ↔
      '\x00' ∉ path ∧ path ≠ [] ∧ Text.utf8Length path < pathLimit
        ∧ d.walkFrom (if Path.isAbsolute path then [] else d.cwd) (Text.split '/' path) = .ok l := by
  rw [walk, walkBytes]
  by_cases hzero : '\x00' ∈ path
  · simp [hzero]
  · rw [if_neg (by simpa using hzero)]
    by_cases hnil : path = []
    · simp [hnil]
    · rw [if_neg (by simpa using hnil)]
      by_cases hlong : pathLimit ≤ Text.utf8Length path
      · rw [if_pos hlong]
        simp [Nat.not_lt.2 hlong]
      · rw [if_neg hlong]
        simp [hzero, hnil, Nat.lt_of_not_le hlong]

/-- An absolute path leads to the parts of its normal form, and everything above is a directory that can be
searched. -/
theorem eq_climbed_of_walk {path : Text} {l : Location} (habs : Path.isAbsolute path = true)
    (h : d.walk path = .ok l) : l = Path.climbed true (Path.parts path) ∧ d.IsBelow l := by
  obtain ⟨_, _, _, hwalk⟩ := walk_eq_ok.1 h
  rw [if_pos habs] at hwalk
  refine ⟨?_, isBelow_of_walkFrom (isBelow_nil d) hwalk⟩
  rw [Path.climbed_eq_follow fun c hc => Path.isPart_of_mem_parts hc, Path.foldl_follow_parts]
  exact eq_follow_of_walkFrom hwalk

/-! ### Paths of locations -/

theorem isDown_of_mem_entries {e : Location × Entry} (h : e ∈ d.entries) :
    ∀ c ∈ e.1, Path.IsDown c := by
  intro c hc
  have hall := d.named e.1 (List.mem_map_of_mem h)
  exact Path.isDown_of_isEntryName (List.all_eq_true.1 hall c hc)

theorem parts_pathOf {location : Location} (h : ∀ c ∈ location, Path.IsDown c) :
    Path.parts (pathOf location) = location := by
  rw [pathOf, Path.parts_cons_slash, Path.parts_join fun c hc => (h c hc).1]

/-- The path of a location leads there or nowhere. -/
theorem eq_of_walk_pathOf {location l : Location} (h : ∀ c ∈ location, Path.IsDown c)
    (hwalk : d.walk (pathOf location) = .ok l) : l = location := by
  rw [(eq_climbed_of_walk rfl hwalk).1, parts_pathOf h, Path.climbed_of_isDown h]

theorem isAbsolute_cwdPath (d : Disk) : Path.isAbsolute d.cwdPath = true := rfl

/-- A resolved path is the path of a location. -/
theorem exists_location_of_resolved (d : Disk) (path : Text) :
    ∃ l, Path.resolved d.cwdPath path = pathOf l ∧ ∀ c ∈ l, Path.IsDown c := by
  have hdown : ∀ c ∈ Path.climbed true (Path.parts (Path.within d.cwdPath path)), Path.IsDown c :=
    Path.isDown_of_mem_climbed fun c hc => Path.isPart_of_mem_parts hc
  refine ⟨_, ?_, hdown⟩
  rw [Path.resolved_eq path d.isAbsolute_cwdPath, Path.render_eq (fun c hc => (hdown c hc).1) (by simp)]
  rfl

/-! ### Tests -/

theorem arrive_eq_ok {walked : Except AccessError Location} {l : Location} {entry : Entry} :
    d.arrive walked = .ok (l, entry) ↔ walked = .ok l ∧ d.entryAt? l = some entry := by
  cases walked with
  | error e => simp [arrive]
  | ok m =>
    rw [arrive]
    cases hentry : d.entryAt? m with
    | none =>
      simp only [Except.ok.injEq, reduceCtorEq, false_iff, not_and]
      rintro rfl
      simp [hentry]
    | some x =>
      simp only [Except.ok.injEq, Prod.mk.injEq]
      constructor
      · rintro ⟨rfl, rfl⟩
        exact ⟨rfl, hentry⟩
      · rintro ⟨rfl, hx⟩
        rw [hentry] at hx
        exact ⟨rfl, Option.some.inj hx⟩

theorem reach_eq_ok {path : Text} {l : Location} {entry : Entry} :
    d.reach path = .ok (l, entry) ↔ d.walk path = .ok l ∧ d.entryAt? l = some entry := arrive_eq_ok

theorem verdict_eq_true {passes : Entry → Bool} {path : Text}
    {reached : Except AccessError (Location × Entry)} :
    verdict passes path reached = .ok true ↔
      ∃ l entry, reached = .ok (l, entry) ∧ passes entry = true := by
  cases reached with
  | error e => cases e <;> simp [verdict]
  | ok found =>
    simp only [verdict, Except.ok.injEq]
    constructor
    · intro hpass
      exact ⟨found.1, found.2, rfl, hpass⟩
    · rintro ⟨l, entry, rfl, hpass⟩
      exact hpass

theorem test_eq_true {passes : Entry → Bool} {path : Text} :
    d.test passes path = .ok true ↔
      ∃ l entry, d.walk path = .ok l ∧ d.entryAt? l = some entry ∧ passes entry = true := by
  rw [test, verdict_eq_true]
  simp only [reach_eq_ok, and_assoc]

theorem isFile_eq_true {path : Text} :
    d.isFile path = .ok true ↔
      ∃ l content, d.walk path = .ok l ∧ d.entryAt? l = some (.file content) := by
  rw [isFile, test_eq_true]
  constructor
  · rintro ⟨l, entry, hwalk, hentry, hfile⟩
    cases entry with
    | directory => exact absurd hfile (by simp [Entry.isFile])
    | file content => exact ⟨l, content, hwalk, hentry⟩
  · rintro ⟨l, content, hwalk, hentry⟩
    exact ⟨l, .file content, hwalk, hentry, rfl⟩

theorem isDirectory_eq_true {path : Text} :
    d.isDirectory path = .ok true ↔
      ∃ l, d.walk path = .ok l ∧ d.entryAt? l = some .directory := by
  rw [isDirectory, test_eq_true]
  constructor
  · rintro ⟨l, entry, hwalk, hentry, hdir⟩
    cases entry with
    | directory => exact ⟨l, hwalk, hentry⟩
    | file content => exact absurd hdir (by simp [Entry.isDirectory])
  · rintro ⟨l, hwalk, hentry⟩
    exact ⟨l, .directory, hwalk, hentry, rfl⟩

end SpecifierLint.Disk
