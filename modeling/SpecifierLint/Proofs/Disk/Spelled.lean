/-
Spelled paths on a disk.

A spelled path leads where the path that it stands for leads, and its normal form spells the normal form
of that path.  Main statements:

* **`isSpelledFile_eq_true`** — a spelled path leads to a file if the path does that it stands for;
* **`isSpelledFile_of_plain`** — a path without U+0000 is tested like any other;
* **`walk_unspelled_absolute`** — the normal form of a spelled path leads where the path leads;
* **`map_spelledName_climbed`** — and its names spell the location;
* **`parts_absolute_of_walk_unspelled`** — if it has no U+0000, it spells the location.
-/
import SpecifierLint.Proofs.Disk.Normal

namespace SpecifierLint

namespace Path

theorem isSome_spelledBytes? {path : Text} (h : '\x00' ∉ path) : (spelledBytes? path).isSome := by
  induction path using spelledBytes?.induct with
  | case1 => rfl
  | case2 => exact absurd (List.mem_cons_self ..) h
  | case3 c hc => rw [spelledBytes?, if_neg hc]; rfl
  | case4 c b rest hc ih =>
    rw [spelledBytes?, if_pos hc, Option.isSome_map]
    exact ih fun hmem => h (List.mem_cons_of_mem c hmem)
  | case5 c rest hc => exact absurd (List.mem_cons_of_mem c (List.mem_cons_self ..)) h
  | case6 c b rest hc hb ih =>
    rw [ne_eq, Decidable.not_not] at hc
    rw [hc] at h
    exact absurd (List.mem_cons_self ..) h

end Path

namespace Disk

variable {d : Disk} {path : Text} {l : Location}

theorem walk_of_walkBytes (h : d.walkBytes path = .ok l) : d.walk path = .ok l := by
  have hzero : '\x00' ∉ path := by
    intro hmem
    obtain ⟨c, hc, hzero⟩ := Path.exists_part_of_mem (by decide) (by decide) hmem
    rw [walkBytes] at h
    split at h
    · exact absurd h (by simp)
    · split at h
      · exact absurd h (by simp)
      · exact zero_not_mem_of_walkFrom (walkFrom_parts h) c hc hzero
  rwa [walk, if_neg (by simpa using hzero)]

/-- A spelled path leads to a file if the path does that it stands for. -/
theorem isSpelledFile_eq_true :
    d.isSpelledFile path = .ok true ↔
      (Path.spelledBytes? path).isSome
        ∧ ∃ l content, d.walk (Path.unspelled path) = .ok l
          ∧ d.entryAt? l = some (.file content) := by
  rw [isSpelledFile]
  cases Path.spelledBytes? path with
  | none => simp
  | some bytes =>
    rw [if_neg (by simp), verdict_eq_true]
    simp only [Option.isSome_some, true_and]
    constructor
    · rintro ⟨l, entry, hreached, hfile⟩
      obtain ⟨hwalk, hentry⟩ := arrive_eq_ok.1 hreached
      cases entry with
      | directory => exact absurd hfile (by simp [Entry.isFile])
      | file content => exact ⟨l, content, walk_of_walkBytes hwalk, hentry⟩
    · rintro ⟨l, content, hwalk, hentry⟩
      rw [walk] at hwalk
      split at hwalk
      · exact absurd hwalk (by simp)
      · exact ⟨l, .file content, arrive_eq_ok.2 ⟨hwalk, hentry⟩, rfl⟩

/-- A path without U+0000 is tested like any other. -/
theorem isSpelledFile_of_plain (h : '\x00' ∉ path) : d.isSpelledFile path = d.isFile path := by
  obtain ⟨bytes, hbytes⟩ := Option.isSome_iff_exists.1 (Path.isSome_spelledBytes? h)
  rw [isSpelledFile, hbytes, if_neg (by simp), Path.unspelled_of_plain h, isFile, test, reach, walk,
    if_neg (by simpa using h)]

/-! ### Normal forms -/

/-- The normal form of a spelled path leads where the path leads. -/
theorem walk_unspelled_absolute (habs : Path.isAbsolute path = true)
    (h : d.walk (Path.unspelled path) = .ok l) (hne : l ≠ []) (hsome : (d.entryAt? l).isSome) :
    d.walk (Path.unspelled (Path.absolute d.cwdPath path)) = .ok l := by
  rw [Path.absolute_of_isAbsolute d.cwdPath habs, ← Path.normal_unspelled habs]
  exact walk_normal ((Path.isAbsolute_unspelled path).trans habs) h hne hsome

/-- The names that are left when a spelled path is made normal spell the location. -/
theorem map_spelledName_climbed (habs : Path.isAbsolute path = true)
    (h : d.walk (Path.unspelled path) = .ok l) :
    (Path.climbed true (Path.parts path)).map Path.spelledName = l := by
  rw [(eq_climbed_of_walk ((Path.isAbsolute_unspelled path).trans habs) h).1, Path.parts_unspelled,
    Path.climbed_map fun c hc => Path.isPart_of_mem_parts hc]

/-- The normal form of a path that leads to an entry has no U+0000. -/
theorem zero_not_mem_absolute (hd : d.HasPlace) (h : d.walk path = .ok l)
    (hsome : (d.entryAt? l).isSome) : '\x00' ∉ Path.absolute d.cwdPath path := by
  intro hmem
  obtain ⟨c, hc, hzero⟩ := Path.exists_part_of_mem (by decide) (by decide) hmem
  rw [← eq_parts_absolute_of_walk hd h] at hc
  exact zero_not_mem_of_isEntryName (isEntryName_of_entryAt? hsome c hc) hzero

/-- If the normal form of a spelled path has no U+0000, it spells the location. -/
theorem parts_absolute_of_walk_unspelled (hd : d.HasPlace)
    (hplain : '\x00' ∉ Path.absolute d.cwdPath path) (h : d.walk (Path.unspelled path) = .ok l) :
    Path.parts (Path.absolute d.cwdPath path) = l := by
  have hbase : d.base (Path.unspelled path) = d.base path := by
    rw [base, base, Path.isAbsolute_unspelled]
  have hparts : ∀ c ∈ Path.parts (Path.absolute d.cwdPath path), '\x00' ∉ c := fun c hc hzero =>
    hplain (Text.mem_of_mem_split (List.mem_filter.1 hc).1 hzero)
  obtain ⟨_, _, _, hfrom⟩ := walk_eq_ok.1 h
  have hend := eq_follow_of_walkFrom (walkFrom_parts hfrom)
  rw [← foldl_follow_base hd] at hparts ⊢
  rw [hend, Path.parts_unspelled, ← base, hbase, Path.foldl_follow_of_plain hparts]

end Disk

end SpecifierLint
