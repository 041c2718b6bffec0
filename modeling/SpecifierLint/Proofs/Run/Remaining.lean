/-
What a fix run leaves.

A fix run reports what remains of each file in the middle of its work: files without edits as they
were checked before any write, the others as they are checked right after their own.  Where no file has
several names, later writes do not make these reports stale, because each goes to a file of its own and
none to a `package.json`.  The summary therefore tells what a fresh check of the same path finds.  On a disk
with hard links it need not: a file that is listed under two names is rewritten twice, the second time with
edits for a text that it no longer has.  Symbolic links and names that are no texts are on no disk here.
Main statements:

* **`fixStep`** — what a run does with the first of its reports;
* **`sourceFiles_fix`** — a run changes what files hold, and no names;
* **`leaves_of_fixFiles`** — after the loop, every file has the report that the loop kept of it;
* **`remaining_eq_fresh_check`** — the summary of a run has the reports of a fresh check;
* **`remaining_misses_linked_change`** — unless a file has several names.
-/
import SpecifierLint.Run.Fix
import SpecifierLint.Proofs.Outcome
import SpecifierLint.Proofs.Disk.SourceFiles
import SpecifierLint.Proofs.Resolution.Agreement

namespace SpecifierLint.Run

variable {d : Disk} {p : Policy}

/-! ### Checks of several files -/

theorem path_of_checkFile {path : Text} {r : FileReport} (h : checkFile d p path = .ok r) :
    r.path = path := by
  rw [checkFile] at h
  split at h
  · rw [checkSource] at h
    split at h
    · exact absurd h (by simp)
    · cases h
      rfl
  · split at h
    · cases h
      rfl
    · exact absurd h (by simp)

theorem checkFiles_cons_eq_ok {path : Text} {rest : List Text} {rs : List FileReport} :
    (checkFiles d p (path :: rest)).2 = .ok rs ↔
      ∃ r more, rs = r :: more ∧ checkFile d p path = .ok r ∧ (checkFiles d p rest).2 = .ok more := by
  rw [checkFiles]
  cases checkFile d p path with
  | error fault => simp
  | ok report =>
    dsimp only
    rw [Outcome.map_eq_ok]
    constructor
    · rintro ⟨more, hmore, rfl⟩
      exact ⟨report, more, rfl, rfl, hmore⟩
    · rintro ⟨r, more, rfl, hr, hmore⟩
      cases hr
      exact ⟨more, hmore, rfl⟩

theorem checkFiles_eq_ok {paths : List Text} {rs : List FileReport} :
    (checkFiles d p paths).2 = .ok rs ↔
      rs.map (·.path) = paths ∧ ∀ r ∈ rs, checkFile d p r.path = .ok r := by
  induction paths generalizing rs with
  | nil =>
    rw [checkFiles]
    constructor
    · intro h
      cases h
      simp
    · rintro ⟨h, _⟩
      rw [List.map_eq_nil_iff.1 h]
  | cons path rest ih =>
    rw [checkFiles_cons_eq_ok]
    constructor
    · rintro ⟨r, more, rfl, hr, hmore⟩
      obtain ⟨hpaths, hall⟩ := ih.1 hmore
      have hpath := path_of_checkFile hr
      refine ⟨by rw [List.map_cons, hpath, hpaths], List.forall_mem_cons.2 ⟨?_, hall⟩⟩
      rw [hpath]
      exact hr
    · rintro ⟨hpaths, hall⟩
      obtain ⟨r, more, rfl, rfl, hpaths'⟩ := List.map_eq_cons_iff.1 hpaths
      obtain ⟨hr, hmore⟩ := List.forall_mem_cons.1 hall
      exact ⟨r, more, rfl, hr, ih.2 ⟨hpaths', hmore⟩⟩

theorem exists_of_checkFiles_eq_error {paths : List Text} {fault : Fault}
    (h : (checkFiles d p paths).2 = .error fault) :
    ∃ file ∈ paths, checkFile d p file = .error fault := by
  induction paths with
  | nil => exact absurd h (by simp [checkFiles])
  | cons path rest ih =>
    rw [checkFiles] at h
    split at h
    · next hfault =>
      cases h
      exact ⟨path, by simp, hfault⟩
    · dsimp only at h
      cases hrest : (checkFiles d p rest).2 with
      | error e =>
        rw [hrest] at h
        cases h
        obtain ⟨file, hfile, hfault⟩ := ih hrest
        exact ⟨file, by simp [hfile], hfault⟩
      | ok reports =>
        rw [hrest] at h
        exact absurd h (by simp [Except.map])

/-! ### One file -/

theorem agreeOff_of_applyEdits {path : Text} {edits : List Edit} {next : Disk} {changed : Bool}
    (h : applyEdits d path edits = .ok (next, changed)) :
    d.AgreeOff (fun l => ∃ k, d.walk path = .ok k ∧ d.isSame k l = true) next := by
  rw [applyEdits] at h
  split at h
  · cases h
    exact .refl _ d
  · split at h
    · exact absurd h (by simp)
    · next source _ =>
      dsimp only at h
      split at h
      · cases h
        exact .refl _ d
      · obtain ⟨e, hwrite, heq⟩ := Outcome.map_eq_ok.1 h
        cases heq
        exact Disk.agreeOff_of_writeText hwrite

/-- The attempt to write stray bytes fails, and leaves the disk or an empty file. -/
theorem spoil_cases (d : Disk) (path : Text) :
    ∃ fault, (spoil d path).outcome = .error fault
      ∧ ((spoil d path).disk = d
        ∨ fault = .unencodable ∧ d.writeText path [] = .ok (spoil d path).disk) := by
  rw [spoil]
  cases d.readText path with
  | error fault => exact ⟨fault, rfl, .inl rfl⟩
  | ok source =>
    rw [Disk.writeStrays]
    cases hwrite : d.writeText path [] with
    | error fault => exact ⟨fault, rfl, .inl rfl⟩
    | ok emptied => exact ⟨.unencodable, rfl, .inr ⟨rfl, rfl⟩⟩

/-- What a run that writes does with the first of its reports, and goes on to: nothing, if there are no
edits, an attempt to write stray bytes, a write that is refused, or a write and a second check, which may
fail. -/
inductive FixStep (p : Policy) (d : Disk) (r : FileReport) (rest : List FileReport) : FixRun → Prop
  | quiet (none : editsFor r = []) :
      FixStep p d r rest ((fixFiles p false d rest).prepend [] { remaining := remains r })
  | strays (some : editsFor r ≠ []) (strays : haveStrays (editsFor r) = true) :
      FixStep p d r rest (spoil d r.path)
  | refused {fault : Fault} (some : editsFor r ≠ [])
      (refused : applyEdits d r.path (editsFor r) = .error fault) :
      FixStep p d r rest { disk := d, outcome := .error fault }
  | unchecked {next : Disk} {changed : Bool} {fault : Fault} (some : editsFor r ≠ [])
      (applied : applyEdits d r.path (editsFor r) = .ok (next, changed))
      (failed : checkFile next p r.path = .error fault) :
      FixStep p d r rest { disk := next, outcome := .error fault }
  | fixed {next : Disk} {changed : Bool} {again : FileReport} (some : editsFor r ≠ [])
      (applied : applyEdits d r.path (editsFor r) = .ok (next, changed))
      (checked : checkFile next p r.path = .ok again) :
      FixStep p d r rest ((fixFiles p false next rest).prepend (warnings again)
        { modified := if changed then [r.path] else []
          applied := if changed then (editsFor r).length else 0
          remaining := remains again })

theorem fixStep (p : Policy) (d : Disk) (r : FileReport) (rest : List FileReport) :
    FixStep p d r rest (fixFiles p false d (r :: rest)) := by
  rw [fixFiles]
  split
  · next hnone => exact .quiet (List.isEmpty_iff.1 hnone)
  · next hsome =>
    have hedits : editsFor r ≠ [] := by simpa using hsome
    rw [if_neg (by simp)]
    split
    · next hstrays => exact .strays hedits hstrays
    · split
      · next hrefused => exact .refused hedits hrefused
      · next happlied =>
        split
        · next hfailed => exact .unchecked hedits happlied hfailed
        · next hchecked => exact .fixed hedits happlied hchecked

/-! ### Names -/

/-- A loop over reports changes what files hold, and nothing else. -/
theorem agreeOff_of_fixFiles (p : Policy) (d : Disk) (rs : List FileReport) :
    d.AgreeOff (fun _ => True) (fixFiles p false d rs).disk := by
  induction rs generalizing d with
  | nil => exact .refl _ d
  | cons r rest ih =>
    have hstep := fixStep p d r rest
    generalize fixFiles p false d (r :: rest) = run at hstep
    cases hstep with
    | quiet _ => exact ih d
    | strays _ _ =>
      obtain ⟨_, _, hdisk | ⟨_, hwrite⟩⟩ := spoil_cases d r.path
      · rw [hdisk]
        exact .refl _ d
      · exact (Disk.agreeOff_of_writeText hwrite).mono fun _ _ => trivial
    | refused _ _ => exact .refl _ d
    | unchecked _ applied _ => exact (agreeOff_of_applyEdits applied).mono fun _ _ => trivial
    | fixed _ applied _ =>
      exact ((agreeOff_of_applyEdits applied).mono fun _ _ => trivial).trans (ih _)

theorem agreeOff_of_fix (d : Disk) (c : Configuration) (path : Text) :
    d.AgreeOff (fun _ => True) (fix d c false path).disk := by
  rw [fix]
  dsimp only
  split
  · exact .refl _ d
  · exact agreeOff_of_fixFiles _ _ _

theorem sourceFiles_eq {touched : Location → Prop} {d e : Disk} (h : d.AgreeOff touched e)
    (c : Configuration) (path : Text) : sourceFiles e c path = sourceFiles d c path := by
  simp only [sourceFiles, h.room, h.files_eq]

/-- A run changes no source files under a path, be they those of the run or others. -/
theorem sourceFiles_fix (d : Disk) (c c' : Configuration) (path path' : Text) :
    sourceFiles (fix d c false path).disk c' path' = sourceFiles d c' path' :=
  sourceFiles_eq (agreeOff_of_fix d c path) c' path'

/-! ### Agreement during a run -/

section

variable {r : FileReport} {rest : List FileReport} {next last : Disk}
  (hnext : d.AgreeOff (fun l => d.walk r.path = .ok l) next)

include hnext

theorem agreeOff_cons (hlast : next.AgreeOff (fun l => ∃ s ∈ rest, next.walk s.path = .ok l) last) :
    d.AgreeOff (fun l => ∃ s ∈ r :: rest, d.walk s.path = .ok l) last := by
  refine (hnext.mono fun l hl => ⟨r, by simp, hl⟩).trans (hlast.mono ?_)
  rintro l ⟨s, hs, hl⟩
  rw [hnext.walk_eq] at hl
  exact ⟨s, by simp [hs], hl⟩

/-- A file that is at no place of the others is at none after it was written either. -/
theorem not_touched_of_separate
    (hfirst : ∀ s ∈ rest, ∀ l, d.walk r.path = .ok l → d.walk s.path ≠ .ok l) :
    ∀ l, next.walk r.path = .ok l → ¬ ∃ s ∈ rest, next.walk s.path = .ok l := by
  rintro l hl ⟨s, hs, hsl⟩
  rw [hnext.walk_eq] at hl hsl
  exact hfirst s hs l hl hsl

end

/-- The reports of a run before it writes: each is that of its file, the files are at different
places and have one name each, and none of them is a package description. -/
structure Checked (p : Policy) (d : Disk) (rs : List FileReport) : Prop where
  free : d.IsLinkFree
  checked : ∀ r ∈ rs, checkFile d p r.path = .ok r
  separate : rs.Pairwise fun a b => ∀ l, d.walk a.path = .ok l → d.walk b.path ≠ .ok l
  spares : SparesPackages fun l => ∃ r ∈ rs, d.walk r.path = .ok l

theorem Checked.tail {r : FileReport} {rest : List FileReport} {next : Disk}
    (h : Checked p d (r :: rest)) (hnext : d.AgreeOff (fun l => d.walk r.path = .ok l) next) :
    Checked p next rest := by
  obtain ⟨hfirst, hrest⟩ := List.pairwise_cons.1 h.separate
  refine ⟨hnext.isLinkFree h.free, fun s hs => ?_, ?_, ?_⟩
  · -- the write went to another file than `s`, and to no package description
    rw [checkFile_eq hnext (fun l hl => h.spares l ⟨r, by simp, hl⟩)]
    · exact h.checked s (by simp [hs])
    · intro l hl ht
      exact hfirst s hs l ht hl
  · simpa only [hnext.walk_eq] using hrest
  · rintro l ⟨s, hs, hl⟩
    rw [hnext.walk_eq] at hl
    exact h.spares l ⟨s, by simp [hs], hl⟩

/-! ### The loop -/

theorem prepend_outcome_eq_ok {notices : List Notice} {first : FixSummary} {run : FixRun}
    {summary : FixSummary} (h : (run.prepend notices first).outcome = .ok summary) :
    ∃ rest, run.outcome = .ok rest ∧ summary.remaining = first.remaining ++ rest.remaining := by
  obtain ⟨rest, hrest, rfl⟩ := Outcome.map_eq_ok.1 h
  exact ⟨rest, hrest, rfl⟩

/-- What a loop over reports leaves: a disk that agrees except in the files of the reports, and on it
each of these files has the report that was kept of it. -/
structure Leaves (p : Policy) (rs : List FileReport) (d last : Disk) (remaining : List FileReport) :
    Prop where
  off : d.AgreeOff (fun l => ∃ r ∈ rs, d.walk r.path = .ok l) last
  fresh : ∃ again, (checkFiles last p (rs.map (·.path))).2 = .ok again
    ∧ remaining = again.flatMap remains

/-- Fixing one file and then the others: the report that is kept of the first file is still true after
the others were written. -/
theorem Leaves.cons {r again : FileReport} {rest others : List FileReport} {next last : Disk}
    (h : Checked p d (r :: rest)) (hnext : d.AgreeOff (fun l => d.walk r.path = .ok l) next)
    (hagain : checkFile next p r.path = .ok again) (hrest : Leaves p rest next last others) :
    Leaves p (r :: rest) d last (remains again ++ others) := by
  obtain ⟨hlast, more, hmore, hothers⟩ := hrest
  obtain ⟨hfirst, _⟩ := List.pairwise_cons.1 h.separate
  obtain ⟨hpaths, hall⟩ := checkFiles_eq_ok.1 hmore
  have hpath := path_of_checkFile hagain
  -- the report was made on `next`, and the loop over the other files leaves this one alone
  have hkept : checkFile last p r.path = .ok again := by
    rw [checkFile_eq hlast (h.tail hnext).spares p (not_touched_of_separate hnext hfirst)]
    exact hagain
  refine ⟨agreeOff_cons hnext hlast, again :: more, ?_, ?_⟩
  · refine checkFiles_eq_ok.2 ⟨by simp [hpath, hpaths], fun s hs => ?_⟩
    rcases List.mem_cons.1 hs with rfl | hs
    · rw [hpath]
      exact hkept
    · exact hall s hs
  · rw [hothers, List.flatMap_cons]

/-- A loop that does not fail leaves what it says. -/
theorem leaves_of_fixFiles {rs : List FileReport} {summary : FixSummary} (h : Checked p d rs)
    (hrun : (fixFiles p false d rs).outcome = .ok summary) :
    Leaves p rs d (fixFiles p false d rs).disk summary.remaining := by
  induction rs generalizing d summary with
  | nil =>
    cases hrun
    exact ⟨.refl _ d, [], rfl, rfl⟩
  | cons r rest ih =>
    have hstep := fixStep p d r rest
    generalize fixFiles p false d (r :: rest) = run at hstep hrun
    cases hstep with
    | quiet _ =>
      -- nothing is written, and the report from before the loop is kept
      obtain ⟨others, hothers, hsummary⟩ := prepend_outcome_eq_ok hrun
      have hsame := Disk.AgreeOff.refl (fun l => d.walk r.path = .ok l) d
      rw [hsummary]
      exact Leaves.cons h hsame (h.checked r (by simp)) (ih (h.tail hsame) hothers)
    | strays _ _ =>
      obtain ⟨fault, hfault, _⟩ := spoil_cases d r.path
      exact absurd (hfault.symm.trans hrun) (by simp)
    | refused _ _ => exact absurd hrun (by simp)
    | unchecked _ _ _ => exact absurd hrun (by simp)
    | fixed _ applied checked =>
      obtain ⟨others, hothers, hsummary⟩ := prepend_outcome_eq_ok hrun
      have hnext := (agreeOff_of_applyEdits applied).of_isLinkFree h.free
      rw [hsummary]
      exact Leaves.cons h hnext checked (ih (h.tail hnext) hothers)

/-! ### Whole runs -/

theorem sourceFiles_eq_ok {c : Configuration} {path : Text} {found : List Text} :
    sourceFiles d c path = .ok found ↔
      ∃ suffixes exclude, c.sourceExtensions d.room.form = .ok suffixes
        ∧ c.exclude d.room.form = .ok exclude
        ∧ SourceTree.files d suffixes exclude path = .ok found := by
  rw [sourceFiles]
  cases c.sourceExtensions d.room.form with
  | error fault => simp
  | ok suffixes =>
    cases c.exclude d.room.form with
    | error fault => simp
    | ok exclude => simp

theorem check_eq_ok {c : Configuration} {path : Text} {result : CheckResult} :
    (check d c path).2 = .ok result ↔
      ∃ files, sourceFiles d c path = .ok files
        ∧ (checkFiles d c.policy files).2 = .ok result.reports := by
  rw [check]
  cases hfiles : sourceFiles d c path with
  | error fault => simp
  | ok files =>
    simp only [Except.ok.injEq, exists_eq_left']
    rw [Outcome.map_eq_ok]
    constructor
    · rintro ⟨reports, hreports, rfl⟩
      exact hreports
    · intro h
      exact ⟨result.reports, h, rfl⟩

theorem reports_of_check {c : Configuration} {path : Text} {result : CheckResult}
    (h : (check d c path).2 = .ok result) :
    sourceFiles d c path = .ok (result.reports.map (·.path))
      ∧ ∀ r ∈ result.reports, checkFile d c.policy r.path = .ok r := by
  obtain ⟨files, hfiles, hreports⟩ := check_eq_ok.1 h
  obtain ⟨hpaths, hall⟩ := checkFiles_eq_ok.1 hreports
  exact ⟨hpaths ▸ hfiles, hall⟩

theorem separate_of_check {c : Configuration} {path : Text} {result : CheckResult}
    (h : (check d c path).2 = .ok result) :
    result.reports.Pairwise fun a b => ∀ l, d.walk a.path = .ok l → d.walk b.path ≠ .ok l := by
  obtain ⟨_, _, _, _, hfiles⟩ := sourceFiles_eq_ok.1 (reports_of_check h).1
  exact List.pairwise_map.1 (SourceTree.separate_of_files hfiles)

/-- No source of the configuration is a data file, and so none is a package description. -/
def SkipsData (d : Disk) (c : Configuration) : Prop :=
  ∀ suffixes, c.sourceExtensions d.room.form = .ok suffixes → (".json" : Text) ∉ suffixes

theorem checked_of_check {c : Configuration} {path : Text} {result : CheckResult}
    (hfree : d.IsLinkFree) (hdata : SkipsData d c) (h : (check d c path).2 = .ok result) :
    Checked c.policy d result.reports := by
  obtain ⟨hlisted, hall⟩ := reports_of_check h
  obtain ⟨suffixes, _, hsuffixes, _, hfiles⟩ := sourceFiles_eq_ok.1 hlisted
  refine ⟨hfree, hall, separate_of_check h, ?_⟩
  -- the name `package.json` has a suffix that is not wanted
  rintro l ⟨r, hr, hl⟩ hlast
  have hsuffix := SourceTree.suffix_of_mem_files hfiles (List.mem_map_of_mem hr) hl
  rw [List.getLastD_eq_getLast?, hlast] at hsuffix
  exact hdata suffixes hsuffixes hsuffix

theorem flatMap_remains (rs : List FileReport) :
    rs.flatMap remains = rs.filter fun r => !r.violations.isEmpty := by
  induction rs with
  | nil => rfl
  | cons r rest ih =>
    rw [List.flatMap_cons, ih, remains]
    by_cases hr : r.violations.isEmpty
    · rw [if_pos hr, List.filter_cons_of_neg (by simp [hr])]
      rfl
    · rw [if_neg hr, List.filter_cons_of_pos (by simpa using hr)]
      rfl

theorem remainingCount_eq {summary : FixSummary} {result : CheckResult}
    (h : summary.remaining = result.reports.filter fun r => !r.violations.isEmpty) :
    summary.remainingCount = result.violations.length := by
  rw [FixSummary.remainingCount, CheckResult.violations, h]
  induction result.reports with
  | nil => rfl
  | cons r rest ih =>
    rw [List.flatMap_cons, List.length_append, ← ih]
    by_cases hr : r.violations.isEmpty
    · rw [List.filter_cons_of_neg (by simp [hr]), List.isEmpty_iff.1 hr]
      simp
    · rw [List.filter_cons_of_pos (by simpa using hr)]
      rfl

theorem fix_eq_of_check {c : Configuration} {path : Text} {result : CheckResult}
    (h : (check d c path).2 = .ok result) (dryRun : Bool) :
    (fix d c dryRun path).disk = (fixFiles c.policy dryRun d result.reports).disk
      ∧ (fix d c dryRun path).outcome = (fixFiles c.policy dryRun d result.reports).outcome := by
  simp only [fix, h, and_self]

theorem exists_check_of_fix {c : Configuration} {dryRun : Bool} {path : Text} {summary : FixSummary}
    (h : (fix d c dryRun path).outcome = .ok summary) : ∃ result, (check d c path).2 = .ok result := by
  rw [fix] at h
  dsimp only at h
  split at h
  · exact absurd h (by simp)
  · next result hresult => exact ⟨result, hresult⟩

/-- If no file has several names and no source is a data file, the summary of a fix run that does not fail
has exactly the reports with violations of a fresh check of the same path, and their number of
violations. -/
theorem remaining_eq_fresh_check {c : Configuration} {path : Text} {summary : FixSummary}
    (hfree : d.IsLinkFree) (hdata : SkipsData d c)
    (h : (fix d c false path).outcome = .ok summary) :
    ∃ result, (check (fix d c false path).disk c path).2 = .ok result
      ∧ summary.remaining = result.reports.filter (fun r => !r.violations.isEmpty)
      ∧ summary.remainingCount = result.violations.length := by
  obtain ⟨before, hbefore⟩ := exists_check_of_fix h
  obtain ⟨hdisk, houtcome⟩ := fix_eq_of_check hbefore false
  obtain ⟨_, again, hagain, hremaining⟩ :=
    leaves_of_fixFiles (checked_of_check hfree hdata hbefore) (houtcome ▸ h)
  obtain ⟨files, hfiles, hreports⟩ := check_eq_ok.1 hbefore
  rw [flatMap_remains] at hremaining
  -- the disk lists the same files as before, so the fresh check goes through the same paths
  refine ⟨⟨again⟩, check_eq_ok.2 ⟨files, (sourceFiles_fix d c c path path).trans hfiles, ?_⟩, hremaining,
    remainingCount_eq hremaining⟩
  rw [hdisk, ← (checkFiles_eq_ok.1 hreports).1]
  exact hagain

/-- Two sources, one with a missing extension and one with an extension that cannot be cut off. -/
def leftoverDisk : Disk where
  entries := [([("p" : Text)], .directory), ([("p" : Text), "a.js"], .file (.text [])),
    ([("p" : Text), "b.json"], .file (.text [])), ([("p" : Text), "b.ts"], .file (.text [])),
    ([("p" : Text), "x.js"], .file (.text "import './a';")),
    ([("p" : Text), "y.js"], .file (.text "import './b.json';"))]
  cwd := [("p" : Text)]

/-- Extensions are written, except that of data files. -/
def leftoverConfiguration : Configuration where
  table := []
  policy := { overrides := [(".json", .never)] }

/-- The sources of the disk, in order. -/
def leftoverFiles : List Text := ["/p/a.js", "/p/b.ts", "/p/x.js", "/p/y.js"]

theorem files_leftoverDisk : sourceFiles leftoverDisk leftoverConfiguration "/p" = .ok leftoverFiles :=
  sourceFiles_eq_ok.2 ⟨_, _, rfl, rfl, SourceTree.files_of_directory (by decide) (by decide +kernel)
    (by decide +kernel) (by decide +kernel) (List.mergeSort_of_pairwise (by decide))⟩

theorem skipsData_leftoverConfiguration (d : Disk) : SkipsData d leftoverConfiguration := by
  intro suffixes hsuffixes
  cases hsuffixes
  decide

/-- One file is rewritten, and the violation of another one remains. -/
theorem remaining_eq_fresh_check_leftover :
    ∃ summary result,
      (fix leftoverDisk leftoverConfiguration false "/p").outcome = .ok summary
      ∧ (check (fix leftoverDisk leftoverConfiguration false "/p").disk leftoverConfiguration "/p").2
          = .ok result
      ∧ summary.modified = [("/p/x.js" : Text)] ∧ summary.remainingCount = 1
      ∧ summary.remaining = result.reports.filter (fun r => !r.violations.isEmpty)
      ∧ summary.remainingCount = result.violations.length := by
  have hrun : (fix leftoverDisk leftoverConfiguration false "/p").outcome.map
      (fun s => (s.modified, s.remainingCount)) = .ok ([("/p/x.js" : Text)], 1) := by
    rw [fix, check, files_leftoverDisk]
    decide +kernel
  obtain ⟨summary, h, hsummary⟩ := Outcome.map_eq_ok.1 hrun
  obtain ⟨result, hresult, hremaining, hsame⟩ := remaining_eq_fresh_check
    (Disk.isLinkFree_of_links rfl) (skipsData_leftoverConfiguration leftoverDisk) h
  exact ⟨summary, result, h, hresult, congrArg Prod.fst hsummary, congrArg Prod.snd hsummary,
    hremaining, hsame⟩

/-- A source with two names, which has an extension that can be cut off and one that cannot. -/
def linkedDisk : Disk where
  entries := [([("p" : Text)], .directory),
    ([("p" : Text), "a.js"], .file (.text "import './foo.js';import './d.js';")),
    ([("p" : Text), "d.js"], .file (.text [])), ([("p" : Text), "d.json"], .file (.text [])),
    ([("p" : Text), "foo.js"], .file (.text [])),
    ([("p" : Text), "z.js"], .file (.text "import './foo.js';import './d.js';"))]
  links := [([("p" : Text), "a.js"], 0), ([("p" : Text), "z.js"], 0)]
  cwd := [("p" : Text)]

/-- The default configuration. -/
def plainConfiguration : Configuration := { table := [], policy := {} }

/-- No extension is written. -/
def bareConfiguration : Configuration where
  table := [("options".toList, .list [.text "never"])]
  policy := { defaultStyle := .never }

/-- The sources of the disk, in order. -/
def linkedFiles : List Text := ["/p/a.js", "/p/d.js", "/p/foo.js", "/p/z.js"]

theorem files_linkedDisk : sourceFiles linkedDisk bareConfiguration "/p" = .ok linkedFiles :=
  sourceFiles_eq_ok.2 ⟨_, _, rfl, rfl, SourceTree.files_of_directory (by decide) (by decide +kernel)
    (by decide +kernel) (by decide +kernel) (List.mergeSort_of_pairwise (by decide))⟩

/-- The edits for the second name spoil what was left under the first one: the summary still has a
violation, and a fresh check finds none. -/
theorem remaining_misses_linked_change :
    SkipsData linkedDisk bareConfiguration
      ∧ (fix linkedDisk bareConfiguration false "/p").outcome.map (·.remainingCount) = .ok 1
      ∧ (check (fix linkedDisk bareConfiguration false "/p").disk bareConfiguration "/p").2.map
          (·.violations.length) = .ok 0 := by
  have hdata : SkipsData linkedDisk bareConfiguration := by
    intro suffixes hsuffixes
    cases hsuffixes
    decide
  refine ⟨hdata, ?_, ?_⟩
  · rw [fix, check, files_linkedDisk]
    decide +kernel
  · rw [check, sourceFiles_fix, files_linkedDisk, fix, check, files_linkedDisk]
    decide +kernel

end SpecifierLint.Run
