/-
The source files under a path, as places on the disk.

No two of the listed files are at one place, and each of them has one of the wanted suffixes.  Main
statements:

* **`separate_of_files`** — different files of a listing lead to different locations;
* **`exists_location_of_mem_files`** — every file of a listing is written as the path of a location that
  has a wanted suffix;
* **`zero_not_mem_of_mem_files`** — no path of a listing has U+0000.
-/
import SpecifierLint.SourceTree
import SpecifierLint.Proofs.Disk.LastStep

namespace SpecifierLint

theorem Text.pairwise_sorted (ts : List Text) : (sorted ts).Pairwise fun a b => ¬ b < a := by
  have hnotAfter : (sorted ts).Pairwise fun a b => notAfter a b = true := by
    refine List.pairwise_mergeSort (fun a b c hab hbc => ?_) (fun a b => ?_) ts
    · simp only [notAfter, Bool.not_eq_true', decide_eq_false_iff_not] at hab hbc ⊢
      exact List.le_trans hab hbc
    · simp only [notAfter, Bool.or_eq_true, Bool.not_eq_true', decide_eq_false_iff_not]
      exact List.le_total a b
  refine hnotAfter.imp fun hab => ?_
  simpa only [notAfter, Bool.not_eq_true', decide_eq_false_iff_not] using hab

namespace SourceTree

variable {d : Disk} {suffixes exclude : List Text} {top : Location} {path : Text} {found : List Text}

/-- What the files below a directory are: paths of well-named locations with a wanted suffix. -/
theorem exists_location_of_mem_filesBelow {file : Text}
    (h : file ∈ filesBelow d suffixes exclude top) :
    ∃ l, file = Disk.pathOf l ∧ (∀ c ∈ l, Path.IsDown c) ∧ Path.suffix (l.getLastD []) ∈ suffixes := by
  rw [filesBelow, Text.sorted, List.mem_mergeSort, List.mem_map] at h
  obtain ⟨e, he, rfl⟩ := h
  obtain ⟨hentry, hwanted⟩ := List.mem_filter.1 he
  simp only [isSource, Bool.and_eq_true, List.contains_iff_mem] at hwanted
  exact ⟨e.1, rfl, Disk.isDown_of_mem_entries hentry, hwanted.2.1.2⟩

theorem nodup_filesBelow : (filesBelow d suffixes exclude top).Nodup := by
  rw [filesBelow, Text.sorted, (List.mergeSort_perm _ _).nodup_iff]
  have hkeys : d.entries.Pairwise fun a b => a.1 ≠ b.1 := List.pairwise_map.1 d.nodup
  rw [List.Nodup, List.pairwise_map]
  refine (hkeys.sublist List.filter_sublist).imp_of_mem fun {a b} ha hb hab heq => hab ?_
  -- the path of a location determines it
  have hparts := congrArg Path.parts heq
  rwa [Disk.parts_pathOf (Disk.isDown_of_mem_entries (List.mem_filter.1 ha).1),
    Disk.parts_pathOf (Disk.isDown_of_mem_entries (List.mem_filter.1 hb).1)] at hparts

/-- The files under a path are those below a directory, or the one file at the path. -/
theorem files_eq_ok (h : files d suffixes exclude path = .ok found) :
    found = []
      ∨ found = filesBelow d suffixes exclude (Disk.locate (Path.resolved d.cwdPath path))
      ∨ found = [Path.resolved d.cwdPath path]
          ∧ Path.suffix (Path.lastPart (Path.resolved d.cwdPath path)) ∈ suffixes
          ∧ d.isFile (Path.resolved d.cwdPath path) = .ok true := by
  simp only [files] at h
  split at h
  · exact absurd h (by simp)
  · split at h
    · exact absurd h (by simp)
    · split at h
      · exact absurd h (by simp)
      · -- a directory whose search goes through
        cases h
        exact .inr (.inl rfl)
    · -- no directory: the path itself counts if it has a wanted suffix and is a file
      split at h
      · next hsuffix =>
        split at h
        · exact absurd h (by simp)
        · next isThere hthere =>
          cases h
          cases isThere with
          | true => exact .inr (.inr ⟨rfl, by simpa using hsuffix, hthere⟩)
          | false => exact .inl rfl
      · cases h
        exact .inl rfl

/-- The files under a directory whose search goes through, given the paths that its search finds. -/
theorem files_of_directory {paths : List Text} (hzero : '\x00' ∉ path)
    (hdirectory : d.isDirectory (Path.resolved d.cwdPath path) = .ok true)
    (hthrough : faultBelow? d suffixes (Disk.locate (Path.resolved d.cwdPath path)) = none)
    (hpaths : (d.entries.filter fun e => e.2.isFile
      && isSource d suffixes exclude (Disk.locate (Path.resolved d.cwdPath path)) e.1).map
        (fun e => Disk.pathOf e.1) = paths)
    (hsorted : Text.sorted paths = paths) : files d suffixes exclude path = .ok paths := by
  simp only [files, hdirectory, hthrough, filesBelow, hpaths, hsorted]
  rw [if_neg (by simpa using hzero)]

/-- Different files of a listing lead to different locations. -/
theorem separate_of_files (h : files d suffixes exclude path = .ok found) :
    found.Pairwise fun a b => ∀ l, d.walk a = .ok l → d.walk b ≠ .ok l := by
  rcases files_eq_ok h with rfl | rfl | ⟨rfl, _⟩
  · exact List.Pairwise.nil
  · refine nodup_filesBelow.imp_of_mem fun {a b} ha hb hab l hl hm => hab ?_
    obtain ⟨k, rfl, hk, _⟩ := exists_location_of_mem_filesBelow ha
    obtain ⟨m, rfl, hm', _⟩ := exists_location_of_mem_filesBelow hb
    rw [← Disk.eq_of_walk_pathOf hk hl, ← Disk.eq_of_walk_pathOf hm' hm]
  · exact List.pairwise_singleton _ _

/-- The files of a listing are written in one way: each is the path of a well-named location with a
wanted suffix. -/
theorem exists_location_of_mem_files (h : files d suffixes exclude path = .ok found) {file : Text}
    (hfile : file ∈ found) :
    ∃ l, file = Disk.pathOf l ∧ (∀ c ∈ l, Path.IsDown c) ∧ Path.suffix (l.getLastD []) ∈ suffixes := by
  rcases files_eq_ok h with rfl | rfl | ⟨rfl, hsuffix, _⟩
  · exact absurd hfile (by simp)
  · exact exists_location_of_mem_filesBelow hfile
  · rw [List.mem_singleton.1 hfile]
    obtain ⟨l, hl, hdown⟩ := Disk.exists_location_of_resolved d path
    rw [hl, Path.lastPart, Disk.parts_pathOf hdown] at hsuffix
    exact ⟨l, hl, hdown, hsuffix⟩

theorem suffix_of_mem_files (h : files d suffixes exclude path = .ok found) {file : Text}
    (hfile : file ∈ found) {l : Location} (hl : d.walk file = .ok l) :
    Path.suffix (l.getLastD []) ∈ suffixes := by
  obtain ⟨k, rfl, hk, hsuffix⟩ := exists_location_of_mem_files h hfile
  rwa [Disk.eq_of_walk_pathOf hk hl]

theorem isAbsolute_of_mem_files (h : files d suffixes exclude path = .ok found) {file : Text}
    (hfile : file ∈ found) : Path.isAbsolute file = true := by
  obtain ⟨_, rfl, _, _⟩ := exists_location_of_mem_files h hfile
  rfl

/-- No path of a listing has U+0000: no name on a disk has, and neither has a path that leads there. -/
theorem zero_not_mem_of_mem_files (h : files d suffixes exclude path = .ok found) {file : Text}
    (hfile : file ∈ found) : '\x00' ∉ file := by
  rcases files_eq_ok h with rfl | rfl | ⟨rfl, _, hthere⟩
  · exact absurd hfile (by simp)
  · rw [filesBelow, Text.sorted, List.mem_mergeSort, List.mem_map] at hfile
    obtain ⟨e, he, rfl⟩ := hfile
    have hnames := d.named e.1 (List.mem_map_of_mem (List.mem_filter.1 he).1)
    rw [Disk.pathOf, List.mem_cons, not_or]
    refine ⟨by decide, Text.not_mem_join (by decide) fun c hc => ?_⟩
    exact Disk.zero_not_mem_of_isEntryName (List.all_eq_true.1 hnames c hc)
  · rw [List.mem_singleton.1 hfile]
    obtain ⟨_, _, hwalk, _⟩ := Disk.isFile_eq_true.1 hthere
    exact (Disk.walk_eq_ok.1 hwalk).1

end SourceTree

end SpecifierLint
