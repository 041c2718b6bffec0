/-
The answer of a search on the disk.

A candidate is tested as it is written, component by component, so that `missing/..` leads nowhere even
if something stands behind it.  The answer is the candidate after it was made normal on paper.  Where there
are no symbolic links nothing goes wrong with that: specifiers, main files and extensions may go up or start
at the root, but the answer leads to the file that was found, and its components are the names of the
location, or spell them.  Main statements:

* **`isAbsolute_of_mem_candidates`** — the candidates for an absolute directory are absolute;
* **`walk_of_isFile`** — a candidate that is a file leads there along the names that its path stands for;
* **`resolve_sound`** — the answer is absolute and normal, and leads to the file of its candidate.
-/
import SpecifierLint.Proofs.Disk.Spelled
import SpecifierLint.Proofs.Resolution.Candidates

namespace SpecifierLint.Resolution

variable {d : Disk} {extensions : List Text} {directory specifier target : Text}

/-! ### Absolute candidates -/

theorem isAbsolute_of_mem_fileCandidates (habs : Path.isAbsolute target = true) {c : Text}
    (hc : c ∈ fileCandidates extensions target) : Path.isAbsolute c = true := by
  rw [fileCandidates, List.mem_cons, List.mem_map] at hc
  rcases hc with rfl | ⟨e, _, rfl⟩
  · exact habs
  · rw [Path.isAbsolute_clean, Path.isAbsolute_append (Path.ne_nil_of_isAbsolute habs), habs]

theorem isAbsolute_of_mem_indexCandidates (habs : Path.isAbsolute target = true) {c : Text}
    (hc : c ∈ indexCandidates extensions target) : Path.isAbsolute c = true := by
  obtain ⟨e, _, rfl⟩ := List.mem_map.1 hc
  rw [Path.isAbsolute_joined, habs, Bool.true_or]

/-- The main file of a package may start at the root, but its candidates are absolute in any case. -/
theorem isAbsolute_of_mem_candidatesIn (habs : Path.isAbsolute directory = true) {c : Candidate}
    (hc : c ∈ candidatesIn d extensions directory) : Path.isAbsolute c.path = true := by
  rw [candidatesIn, List.mem_append] at hc
  rcases hc with hmain | hindex
  · obtain ⟨path, hpath, rfl⟩ := List.mem_map.1 hmain
    cases hname : namedMain d directory with
    | none =>
      rw [hname] at hpath
      exact absurd hpath (by simp)
    | some name =>
      have hjoined : Path.isAbsolute (Path.joined directory name) = true := by
        rw [Path.isAbsolute_joined, habs, Bool.true_or]
      rw [hname] at hpath
      rcases List.mem_append.1 hpath with hfile | hindex
      · exact isAbsolute_of_mem_fileCandidates hjoined hfile
      · exact isAbsolute_of_mem_indexCandidates hjoined hindex
  · obtain ⟨path, hpath, rfl⟩ := List.mem_map.1 hindex
    exact isAbsolute_of_mem_indexCandidates habs hpath

theorem isAbsolute_of_mem_candidatesAt (habs : Path.isAbsolute target = true) {c : Candidate}
    (hc : c ∈ candidatesAt d extensions target) : Path.isAbsolute c.path = true := by
  rw [candidatesAt, List.mem_append] at hc
  rcases hc with hfile | hinside
  · obtain ⟨path, hpath, rfl⟩ := List.mem_map.1 hfile
    exact isAbsolute_of_mem_fileCandidates habs hpath
  · split at hinside
    · exact isAbsolute_of_mem_candidatesIn habs hinside
    · exact absurd hinside (by simp)

theorem isAbsolute_of_mem_targetsFrom (habs : Path.isAbsolute directory = true)
    (htarget : target ∈ targetsFrom d directory specifier) : Path.isAbsolute target = true := by
  rw [targetsFrom] at htarget
  split at htarget
  · rw [List.mem_singleton.1 htarget, Path.isAbsolute_joined, habs, Bool.true_or]
  · split at htarget
    · exact absurd htarget (by simp)
    · -- a site is a location on the disk, and its path starts at the root
      next real hreal =>
      obtain ⟨l, hl, rfl⟩ := List.mem_map.1 htarget
      have hroot : Path.root real ≠ [] := by
        refine Path.isAbsolute_iff_root.1 ?_
        simp only [Disk.fileSystem] at hreal
        split at hreal
        · exact absurd hreal (by simp)
        · cases hreal
          rfl
      have hparts : ∀ c ∈ l ++ [("node_modules" : Text)], Path.IsPart c := by
        intro c hc
        rcases List.mem_append.1 hc with hc | hc
        · have hinit := List.mem_inits _ _ |>.1 (List.mem_reverse.1 (List.mem_filter.1 hl).1)
          exact Path.isPart_of_mem_parts (hinit.subset hc)
        · rw [List.mem_singleton.1 hc]
          decide
      rw [Path.isAbsolute_joined, Bool.or_eq_true]
      exact .inl (Path.isAbsolute_iff_root.2 (by
        rwa [Path.root_render (Path.isRoot_root real) hparts]))

/-- The candidates for an absolute directory are absolute. -/
theorem isAbsolute_of_mem_candidates (habs : Path.isAbsolute directory = true) {c : Candidate}
    (hc : c ∈ candidates d extensions directory specifier) : Path.isAbsolute c.path = true := by
  obtain ⟨target, htarget, hat⟩ := List.mem_flatMap.1 hc
  exact isAbsolute_of_mem_candidatesAt (isAbsolute_of_mem_targetsFrom habs htarget) hat

/-! ### Soundness -/

/-- A candidate that is a file leads there along the names that its path stands for; only a spelled one
can have U+0000 in it. -/
theorem walk_of_isFile {c : Candidate} (h : c.isFile d = .ok true) :
    (c.isSpelled = false → '\x00' ∉ c.path)
      ∧ ∃ l content, d.walk (Path.unspelled c.path) = .ok l
        ∧ d.entryAt? l = some (.file content) := by
  rw [Candidate.isFile] at h
  split at h
  · next hspelled => exact ⟨by simp [hspelled], (Disk.isSpelledFile_eq_true.1 h).2⟩
  · obtain ⟨l, content, hwalk, hentry⟩ := Disk.isFile_eq_true.1 h
    have hzero : '\x00' ∉ c.path := (Disk.walk_eq_ok.1 hwalk).1
    exact ⟨fun _ => hzero, l, content, by rwa [Path.unspelled_of_plain hzero], hentry⟩

/-- The answer of a search from an absolute directory is the normal form of the first regular file among
the candidates.  It leads to the same file as the candidate, which was walked as it is written, and it
is spelled by a root of one slash or two and the names down to that file; the names stand there as they
are unless the candidate comes from the main file of a package and has bytes of its own. -/
theorem resolve_sound {path : Text} (habs : Path.isAbsolute directory = true)
    (h : resolve d extensions directory specifier = .ok (some path)) :
    ∃ candidate location content root names,
      (candidates d extensions directory specifier).find? (fun c => c.isFile d = .ok true)
          = some candidate
        ∧ path = Path.absolute d.cwdPath candidate.path
        ∧ d.walk (Path.unspelled candidate.path) = .ok location
        ∧ d.walk (Path.unspelled path) = .ok location
        ∧ d.entryAt? location = some (.file content)
        ∧ (root = ['/'] ∨ root = ['/', '/']) ∧ path = root ++ Text.join ['/'] names
        ∧ (∀ name ∈ names, Path.IsDown name) ∧ names.map Path.spelledName = location
        ∧ ('\x00' ∉ path → names = location ∧ d.walk path = .ok location)
        ∧ (candidate.isSpelled = false → '\x00' ∉ path ∧ d.walk candidate.path = .ok location) := by
  have hfirst := eq_firstRegular_of_resolve h
  split at hfirst
  · exact absurd hfirst (by simp)
  · obtain ⟨candidate, hfind, rfl⟩ := Option.map_eq_some_iff.1 hfirst.symm
    have hfile : candidate.isFile d = .ok true := by simpa using List.find?_some hfind
    obtain ⟨hplain, l, content, hwalk, hentry⟩ := walk_of_isFile hfile
    have hcandidate : Path.isAbsolute candidate.path = true :=
      isAbsolute_of_mem_candidates habs (List.mem_of_find?_eq_some hfind)
    have hparts : ∀ c ∈ Path.parts candidate.path, Path.IsPart c := fun c hc =>
      Path.isPart_of_mem_parts hc
    have habsolute : Path.absolute d.cwdPath candidate.path
        = Path.root candidate.path
          ++ Text.join ['/'] (Path.climbed true (Path.parts candidate.path)) := by
      rw [Path.absolute_of_isAbsolute d.cwdPath hcandidate, Path.normal_of_isAbsolute hcandidate]
    have hanswer : d.walk (Path.unspelled (Path.absolute d.cwdPath candidate.path)) = .ok l :=
      Disk.walk_unspelled_absolute hcandidate hwalk (Disk.ne_nil_of_file hentry) (by rw [hentry]; rfl)
    have hnames : (Path.climbed true (Path.parts candidate.path)).map Path.spelledName = l :=
      Disk.map_spelledName_climbed hcandidate hwalk
    rw [Disk.fileSystem_cwdPath]
    refine ⟨candidate, l, content, Path.root candidate.path,
      Path.climbed true (Path.parts candidate.path), hfind, rfl, hwalk, hanswer, hentry,
      Path.root_of_isAbsolute hcandidate, habsolute, Path.isDown_of_mem_climbed hparts, hnames,
      ?_, ?_⟩
    · -- without U+0000 the names of the answer are their own spelling
      intro hzero
      refine ⟨?_, by rwa [Path.unspelled_of_plain hzero] at hanswer⟩
      rw [← hnames, Path.map_spelledName_of_plain]
      intro c hc hmem
      have hsplit := Text.split_join (List.ne_nil_of_mem hc) fun x hx =>
        (Path.isDown_of_mem_climbed hparts x hx).1.2.2
      rw [habsolute] at hzero
      exact hzero (List.mem_append_right _ (Text.mem_of_mem_split (hsplit.symm ▸ hc) hmem))
    · -- the candidate was walked as it is written, so it has no U+0000, nor has its normal form
      intro hspelled
      have hzero := hplain hspelled
      rw [Path.unspelled_of_plain hzero] at hwalk
      rw [Path.absolute_of_isAbsolute d.cwdPath hcandidate]
      exact ⟨Path.not_mem_normal (by decide) (by decide) hzero, hwalk⟩

/-- A package whose main file is outside of its directory. -/
def roundaboutDisk : Disk where
  entries :=
    [(["lib".toList], .directory), (["lib".toList, "a.js".toList], .file (.text [])),
     (["pkg".toList], .directory), (["pkg".toList, "src".toList], .directory),
     (["pkg".toList, "package.json".toList],
       .file (.text "\x7b\"main\": \"../lib/./a\"\x7d".toList))]

/-- The candidate that is found goes up twice, and the answer does not. -/
theorem resolve_sound_roundabout :
    Path.isAbsolute ("//pkg/src" : Text) = true
      ∧ resolve roundaboutDisk [(".js" : Text)] "//pkg/src" ".." = .ok (some "//lib/a.js")
      ∧ (candidates roundaboutDisk [(".js" : Text)] "//pkg/src" "..").find?
            (fun c => c.isFile roundaboutDisk = .ok true)
          = some ⟨"//pkg/src/../../lib/a.js".toList, true⟩
      ∧ roundaboutDisk.walk "//lib/a.js" = .ok ["lib".toList, "a.js".toList] := by
  have habs : Path.isAbsolute ("//pkg/src" : Text) = true := by decide
  have hfound : resolve roundaboutDisk [(".js" : Text)] "//pkg/src" ".." = .ok (some "//lib/a.js") := by
    decide +kernel
  have hfirst : (candidates roundaboutDisk [(".js" : Text)] "//pkg/src" "..").find?
      (fun c => c.isFile roundaboutDisk = .ok true)
        = some ⟨"//pkg/src/../../lib/a.js".toList, true⟩ := by
    decide +kernel
  have hcandidate : roundaboutDisk.walk (Path.unspelled "//pkg/src/../../lib/a.js")
      = .ok ["lib".toList, "a.js".toList] := by
    decide +kernel
  obtain ⟨c, l, _, _, _, hfind, _, hwalk, _, _, _, _, _, _, hanswer, _⟩ := resolve_sound habs hfound
  rw [hfirst] at hfind
  cases hfind
  rw [hcandidate] at hwalk
  cases hwalk
  exact ⟨habs, hfound, hfirst, (hanswer (by decide)).2⟩

end SpecifierLint.Resolution
