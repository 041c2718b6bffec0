/-
What ends a check run.

A check run reports a file that cannot be read and goes on, and so it does with whatever a source says,
with one exception: a specifier whose search fails ends the run, and the reports of all files are lost.
A search fails at a path that is too long or goes through a directory that cannot be searched, and at a
package description that is nested too deep.  Main statements:

* **`stumbles_of_checkFile`** — a check of a file fails at a specifier whose search fails;
* **`check_completes_iff`** — a run goes through exactly if there is none, and then reports every file.
-/
import SpecifierLint.Proofs.Run.Mending
import SpecifierLint.Proofs.Run.Remaining
import SpecifierLint.Proofs.Resolution.Faults

namespace SpecifierLint

namespace Resolution

theorem exists_of_resolveAll_eq_error {d : Disk} {extensions : List Text} {directory path : Text}
    {found : List (Source.ImportKind × Source.Specifier)} {fault : Fault}
    (h : resolveAll d extensions directory path found = .error fault) :
    ∃ x ∈ found, resolve d extensions directory x.2.value = .error fault := by
  induction found with
  | nil => exact absurd h (by simp [resolveAll])
  | cons x rest ih =>
    obtain ⟨kind, place⟩ := x
    rw [resolveAll] at h
    split at h
    · next hfault =>
      cases h
      exact ⟨(kind, place), by simp, hfault⟩
    · cases hrest : resolveAll d extensions directory path rest with
      | error e =>
        rw [hrest] at h
        cases h
        obtain ⟨x, hx, hfault⟩ := ih hrest
        exact ⟨x, by simp [hx], hfault⟩
      | ok ts =>
        rw [hrest] at h
        exact absurd h (by simp [Except.map])

end Resolution

namespace Run

open Resolution

/-- The text of a file has a specifier whose search fails. -/
def Stumbles (d : Disk) (p : Policy) (file : Text) (fault : Fault) : Prop :=
  ∃ source, d.readText file = .ok source ∧ ∃ x ∈ Source.specifiers source,
    SearchFault d p.tryExtensions (Path.dirName (Path.absolute d.cwdPath file)) x.2.value fault

/-! ### One file -/

/-- The one fault of reading that is not reported is that of a path with U+0000. -/
theorem isReported_of_readText {d : Disk} {path : Text} {fault : Fault} (hzero : '\x00' ∉ path)
    (h : d.readText path = .error fault) : isReported fault = true := by
  have hreach : d.reach path ≠ .error .zeroCharacter := Disk.reach_ne_zeroCharacter hzero
  rw [Disk.readText, Disk.content] at h
  cases hpath : d.reach path with
  | error e =>
    rw [hpath] at h hreach
    cases h
    -- all other faults of reaching a path are errors of the operating system
    cases e <;> first | rfl | exact absurd rfl hreach
  | ok found =>
    obtain ⟨l, entry⟩ := found
    rw [hpath] at h
    cases entry with
    | directory =>
      cases h
      rfl
    | file content =>
      dsimp only at h
      by_cases hdenied : d.denied.contains l = true
      · rw [if_pos hdenied] at h
        cases h
        rfl
      · rw [if_neg hdenied] at h
        cases content <;> cases h
        rfl

section

variable {d : Disk} {p : Policy} {file : Text} (habsolute : Path.isAbsolute file = true)
  (hzero : '\x00' ∉ file)

include habsolute

theorem targets_of_isAbsolute (extensions : List Text) (source : Text) :
    targets d extensions source file
      = resolveAll d extensions (Path.dirName (Path.absolute d.cwdPath file)) file
          (Source.specifiers source) := by
  have hhead : file.head? ≠ some '<' := by
    rw [Path.isAbsolute, decide_eq_true_eq] at habsolute
    rw [habsolute]
    decide
  rw [targets, isVirtual, if_neg (by simpa using hhead)]
  rfl

theorem Stumbles.checkFile_ne {fault : Fault} {r : FileReport} (h : Stumbles d p file fault) :
    checkFile d p file ≠ .ok r := by
  obtain ⟨source, hread, x, hx, hfault⟩ := h
  intro hcheck
  rw [checkFile, hread] at hcheck
  obtain ⟨ts, hts, _⟩ := checkSource_eq_ok hcheck
  rw [targets_of_isAbsolute habsolute] at hts
  obtain ⟨hplaces, hall⟩ := resolveAll_eq_ok hts
  -- the specifier has a target, so its search has not failed
  rw [← hplaces] at hx
  obtain ⟨t, ht, rfl⟩ := List.mem_map.1 hx
  obtain ⟨hvalue, hresolve⟩ := hall t ht
  rw [hvalue, resolve_eq_error.2 hfault] at hresolve
  exact absurd hresolve (by simp)

include hzero

theorem zero_not_mem_directory : '\x00' ∉ Path.dirName (Path.absolute d.cwdPath file) := by
  refine Path.not_mem_dirName (Path.not_mem_normal (by decide) (by decide) ?_)
  rwa [Path.within, if_pos habsolute]

/-- A check of a file fails at a specifier in its text. -/
theorem stumbles_of_checkFile {fault : Fault} (h : checkFile d p file = .error fault) :
    Stumbles d p file fault := by
  rw [checkFile] at h
  split at h
  · next source hread =>
    rw [checkSource, targets_of_isAbsolute habsolute] at h
    split at h
    · next hfault =>
      cases h
      obtain ⟨x, hx, hresolve⟩ := exists_of_resolveAll_eq_error hfault
      exact ⟨source, hread, x, hx, resolve_eq_error.1 hresolve⟩
    · exact absurd h (by simp)
  · next e hread =>
    rw [if_pos (isReported_of_readText hzero hread)] at h
    exact absurd h (by simp)

theorem Stumbles.blockedOrNesting {fault : Fault} (h : Stumbles d p file fault) :
    BlockedOrNesting d fault := by
  obtain ⟨_, _, _, _, hfault⟩ := h
  exact hfault.blockedOrNesting (zero_not_mem_directory habsolute hzero)

omit habsolute

/-- The report of a file says why it could not be read, or nothing of that kind. -/
theorem error_of_checkFile {r : FileReport} (h : checkFile d p file = .ok r) :
    (∀ source, d.readText file = .ok source → r.error = none)
      ∧ ∀ fault, d.readText file = .error fault →
        r = { path := file, error := some fault.message } := by
  rw [checkFile] at h
  split at h
  · next source hread =>
    refine ⟨fun _ _ => ?_, fun fault hfault => absurd (hread.symm.trans hfault) (by simp)⟩
    rw [checkSource] at h
    split at h
    · exact absurd h (by simp)
    · cases h
      rfl
  · next e hread =>
    rw [if_pos (isReported_of_readText hzero hread)] at h
    cases h
    refine ⟨fun source hsource => absurd (hread.symm.trans hsource) (by simp), fun fault hfault => ?_⟩
    cases hread.symm.trans hfault
    rfl

end

/-! ### Runs -/

theorem isAbsolute_of_mem_sourceFiles {d : Disk} {c : Configuration} {path : Text} {files : List Text}
    (h : sourceFiles d c path = .ok files) {file : Text} (hfile : file ∈ files) :
    Path.isAbsolute file = true ∧ '\x00' ∉ file := by
  obtain ⟨_, _, _, _, hfiles⟩ := sourceFiles_eq_ok.1 h
  exact ⟨SourceTree.isAbsolute_of_mem_files hfiles hfile, SourceTree.zero_not_mem_of_mem_files hfiles hfile⟩

/-- A run over listed files that ends early ends at a specifier in one of them. -/
theorem exists_stumbles_of_check {d : Disk} {c : Configuration} {path : Text} {files : List Text}
    {fault : Fault} (h : sourceFiles d c path = .ok files)
    (hfault : (check d c path).2 = .error fault) :
    ∃ file ∈ files, Stumbles d c.policy file fault := by
  rw [check, h] at hfault
  dsimp only at hfault
  cases hreports : (checkFiles d c.policy files).2 with
  | ok reports =>
    rw [hreports] at hfault
    exact absurd hfault (by simp [Except.map])
  | error e =>
    rw [hreports] at hfault
    cases hfault
    obtain ⟨file, hfile, hcheck⟩ := exists_of_checkFiles_eq_error hreports
    obtain ⟨habsolute, hzero⟩ := isAbsolute_of_mem_sourceFiles h hfile
    exact ⟨file, hfile, stumbles_of_checkFile habsolute hzero hcheck⟩

/-- A check run goes through exactly if the files under a path can be listed and no readable one of them
has a specifier whose search fails; else it ends with the fault of the listing or of such a search, which
has come to a path that cannot be tested or to a deep description.  If it goes through it has one report for each file, in their order, and that of a file that cannot be read says
why. -/
theorem check_completes_iff (d : Disk) (c : Configuration) (path : Text) :
    ((∃ result, (check d c path).2 = .ok result)
        ↔ ∃ files, sourceFiles d c path = .ok files
          ∧ ∀ file ∈ files, ∀ fault, ¬ Stumbles d c.policy file fault)
      ∧ (∀ fault, (check d c path).2 = .error fault →
          sourceFiles d c path = .error fault
            ∨ ∃ files, sourceFiles d c path = .ok files
              ∧ ∃ file ∈ files, Stumbles d c.policy file fault ∧ BlockedOrNesting d fault)
      ∧ ∀ result, (check d c path).2 = .ok result →
        sourceFiles d c path = .ok (result.reports.map (·.path))
          ∧ ∀ r ∈ result.reports,
            (∀ source, d.readText r.path = .ok source → r.error = none)
              ∧ ∀ fault, d.readText r.path = .error fault →
                r = { path := r.path, error := some fault.message } := by
  refine ⟨⟨?_, ?_⟩, fun fault hfault => ?_, fun result hresult => ?_⟩
  · -- every file has a report, and one that stumbles has none
    rintro ⟨result, hresult⟩
    obtain ⟨hfiles, hall⟩ := reports_of_check hresult
    refine ⟨_, hfiles, fun file hfile fault hstumbles => ?_⟩
    obtain ⟨habsolute, hzero⟩ := isAbsolute_of_mem_sourceFiles hfiles hfile
    obtain ⟨r, hr, rfl⟩ := List.mem_map.1 hfile
    exact hstumbles.checkFile_ne habsolute (hall r hr)
  · rintro ⟨files, hfiles, hnone⟩
    cases hresult : (check d c path).2 with
    | ok result => exact ⟨result, rfl⟩
    | error fault =>
      obtain ⟨file, hfile, hstumbles⟩ := exists_stumbles_of_check hfiles hresult
      exact absurd hstumbles (hnone file hfile fault)
  · cases hfiles : sourceFiles d c path with
    | ok files =>
      obtain ⟨file, hfile, hstumbles⟩ := exists_stumbles_of_check hfiles hfault
      obtain ⟨habsolute, hzero⟩ := isAbsolute_of_mem_sourceFiles hfiles hfile
      exact .inr ⟨files, rfl, file, hfile, hstumbles, hstumbles.blockedOrNesting habsolute hzero⟩
    | error e =>
      rw [check, hfiles] at hfault
      cases hfault
      exact .inl rfl
  · obtain ⟨hfiles, hall⟩ := reports_of_check hresult
    refine ⟨hfiles, fun r hr => ?_⟩
    have hzero := (isAbsolute_of_mem_sourceFiles hfiles (List.mem_map_of_mem hr)).2
    exact error_of_checkFile hzero (hall r hr)

/-- A source that may not be read, next to one with a specifier that leads to it. -/
def deniedDisk : Disk where
  entries := [([("proj" : Text)], .directory), ([("proj" : Text), "a.js"], .file (.text "import './b';")),
    ([("proj" : Text), "b.js"], .file (.text []))]
  denied := [[("proj" : Text), "b.js"]]
  cwd := [("proj" : Text)]

/-- The sources of the disk, in order. -/
def scriptFiles : List Text := ["/proj/a.js", "/proj/b.js"]

theorem files_deniedDisk : sourceFiles deniedDisk plainConfiguration "/proj" = .ok scriptFiles :=
  sourceFiles_eq_ok.2 ⟨_, _, rfl, rfl, SourceTree.files_of_directory (by decide) (by decide +kernel)
    (by decide +kernel) (by decide +kernel) (List.mergeSort_of_pairwise (by decide))⟩

/-- The file that may not be read has a report that says so, and the other one is checked. -/
theorem check_completes_iff_denied :
    ∃ result, (check deniedDisk plainConfiguration "/proj").2 = .ok result
      ∧ (∀ file ∈ scriptFiles, ∀ fault, ¬ Stumbles deniedDisk plainConfiguration.policy file fault)
      ∧ result.reports.map (·.path) = scriptFiles
      ∧ result.reports.map (·.violations.length) = [1, 0]
      ∧ ∀ r ∈ result.reports, r.path = ("/proj/b.js" : Text) →
        r = { path := "/proj/b.js", error := some "[Errno 13] Permission denied: '/proj/b.js'" } := by
  have hcounts : (check deniedDisk plainConfiguration "/proj").2.map
      (fun result => result.reports.map (·.violations.length)) = .ok [1, 0] := by
    rw [check, files_deniedDisk]
    decide +kernel
  have hdenied : deniedDisk.readText "/proj/b.js" = .error (.access .permission "/proj/b.js") := by
    decide +kernel
  obtain ⟨result, hresult, hcount⟩ := Outcome.map_eq_ok.1 hcounts
  obtain ⟨hiff, _, hreports⟩ := check_completes_iff deniedDisk plainConfiguration "/proj"
  obtain ⟨files, hfiles, hnone⟩ := hiff.1 ⟨result, hresult⟩
  obtain ⟨hpaths, hall⟩ := hreports result hresult
  cases files_deniedDisk.symm.trans hfiles
  refine ⟨result, hresult, hnone, Except.ok.inj (hpaths.symm.trans files_deniedDisk), hcount,
    fun r hr hpath => ?_⟩
  have hreport := (hall r hr).2 _ (hpath ▸ hdenied)
  rw [hpath] at hreport
  rw [hreport]
  decide +kernel

/-- A name that no entry of a disk can have, since it is too long. -/
def longName : Text := List.replicate 256 'a'

/-- A source that imports it, and one that could be checked. -/
def longDisk : Disk where
  entries := [([("proj" : Text)], .directory),
    ([("proj" : Text), "a.js"], .file (.text ("import './" ++ longName ++ "'"))),
    ([("proj" : Text), "b.js"], .file (.text []))]
  cwd := [("proj" : Text)]

theorem files_longDisk : sourceFiles longDisk plainConfiguration "/proj" = .ok scriptFiles :=
  sourceFiles_eq_ok.2 ⟨_, _, rfl, rfl, SourceTree.files_of_directory (by decide) (by decide +kernel)
    (by decide +kernel) (by decide +kernel) (List.mergeSort_of_pairwise (by decide))⟩

/-- A source with a long specifier ends the run, and there is no report of any file. -/
theorem check_ends_at_longName :
    sourceFiles longDisk plainConfiguration "/proj" = .ok scriptFiles
      ∧ (check longDisk plainConfiguration "/proj").2
        = .error (.access .nameTooLong ("/proj/" ++ longName)) := by
  refine ⟨files_longDisk, ?_⟩
  rw [check, files_longDisk]
  decide +kernel

end Run

end SpecifierLint
