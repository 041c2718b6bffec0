/-
Fix runs in either order.

To fix one file is to check it, to write its text with the edits made, and to check it again.  What is
written depends on the text of this file, on the names on the disk and on the package descriptions, and
where no file has several names a fix run changes none of these for any other file.  So fixing two files can
be swapped, and a whole run is the fixing of its files in any order.  A file with two names is rewritten
twice by a run that lists both of them, with edits made for its first text.  Main statements:

* **`fixFile_of_agreeOff`** — a file is fixed alike on disks that agree about it;
* **`fixFile_comm`** — two files can be fixed in either order;
* **`completes_iff`** — a fix run is the fixing of the files under its path, one after the other;
* **`fix_comm`** — two fix runs can be made in either order;
* **`fix_linked_file_depends_on_order`** — unless a file has several names.
-/
import SpecifierLint.Proofs.Run.DryRun

namespace SpecifierLint

/-! ### Writes -/

/-- The disk after a write, given as the location and the text that it gets; there may be none. -/
def Disk.amend (d : Disk) : Option (Location × Text) → Disk
  | none => d
  | some (l, t) => d.replace l (.file (.text t))

theorem Disk.amend_comm (d : Disk) {u v : Option (Location × Text)} (hfree : d.IsLinkFree)
    (h : ∀ l ∈ u.map Prod.fst, l ∉ v.map Prod.fst) :
    (d.amend u).amend v = (d.amend v).amend u := by
  cases u with
  | none => rfl
  | some first =>
    cases v with
    | none => rfl
    | some second =>
      refine Disk.replace_comm d _ _ (Bool.eq_false_iff.2 fun hsame => ?_)
      exact h first.1 (by simp) (by simp [hfree _ _ hsame])

namespace Run

variable {p : Policy}

/-- Edits in a file make a write, and the same one on every disk that agrees about this file. -/
theorem applyEdits_of_agreeOff {touched : Location → Prop} {d e next : Disk} {path : Text}
    {edits : List Edit} {changed : Bool} (h : d.AgreeOff touched e)
    (hpath : ∀ l, d.walk path = .ok l → ¬ touched l)
    (happly : applyEdits d path edits = .ok (next, changed)) :
    ∃ u, next = d.amend u ∧ applyEdits e path edits = .ok (e.amend u, changed)
      ∧ (d.amend u).AgreeOff touched (e.amend u) ∧ ∀ l ∈ u.map Prod.fst, d.walk path = .ok l := by
  rw [applyEdits] at happly ⊢
  split at happly
  · -- there is nothing to write
    next hnone =>
    cases happly
    exact ⟨none, rfl, if_pos hnone, h, by simp⟩
  · next hsome =>
    rw [if_neg hsome]
    split at happly
    · exact absurd happly (by simp)
    · next source hread =>
      rw [(h.readText_eq hpath).trans hread]
      dsimp only at happly ⊢
      split at happly
      · -- the edits change nothing
        next hsame =>
        cases happly
        exact ⟨none, rfl, if_pos hsame, h, by simp⟩
      · -- both disks have the file, with the same content and the same right to write it
        next hchange =>
        rw [if_neg hchange]
        obtain ⟨written, hwrite, heq⟩ := Outcome.map_eq_ok.1 happly
        cases heq
        obtain ⟨l, old, hwalk, hentry, hallowed, rfl⟩ := Disk.writeText_eq_ok.1 hwrite
        have hentry' := (h.entryAt? l (hpath l hwalk)).trans hentry
        refine ⟨some (l, Edit.applyAll edits source), rfl, Outcome.map_eq_ok.2 ⟨_, ?_, rfl⟩,
          h.replace _ hentry hentry', by simpa using hwalk⟩
        exact Disk.writeText_eq_ok.2
          ⟨l, old, (h.walk_eq path).trans hwalk, hentry', h.readonly ▸ hallowed, rfl⟩

/-! ### One file -/

/-- Fixes one file: checks it, makes the edits that are offered, and checks it again.  The result is the
disk afterwards, if nothing fails. -/
def fixFile (p : Policy) (d : Disk) (path : Text) : Option Disk :=
  match checkFile d p path with
  | .error _ => none
  | .ok r =>
    if haveStrays (editsFor r) then none
    else
      match applyEdits d path (editsFor r) with
      | .error _ => none
      | .ok (next, _) =>
        match checkFile next p path with
        | .error _ => none
        | .ok _ => some next

/-- What it takes to fix a file. -/
theorem fixFile_eq_some {d e : Disk} {path : Text} :
    fixFile p d path = some e ↔
      ∃ r changed again, checkFile d p path = .ok r ∧ haveStrays (editsFor r) = false
        ∧ applyEdits d path (editsFor r) = .ok (e, changed) ∧ checkFile e p path = .ok again := by
  rw [fixFile]
  constructor
  · intro h
    split at h
    · exact absurd h (by simp)
    · next r hr =>
      split at h
      · exact absurd h (by simp)
      · next hplain =>
        split at h
        · exact absurd h (by simp)
        · next next changed happly =>
          split at h
          · exact absurd h (by simp)
          · next again hagain =>
            cases h
            exact ⟨r, changed, again, hr, Bool.eq_false_iff.2 hplain, happly, hagain⟩
  · rintro ⟨r, changed, again, hr, hplain, happly, hagain⟩
    rw [hr]
    dsimp only
    rw [if_neg (by simp [hplain]), happly]
    dsimp only
    rw [hagain]

theorem agreeOff_of_fixFile {d e : Disk} {path : Text} (hfree : d.IsLinkFree)
    (h : fixFile p d path = some e) : d.AgreeOff (fun l => d.walk path = .ok l) e := by
  obtain ⟨_, _, _, _, _, happly, _⟩ := fixFile_eq_some.1 h
  exact (agreeOff_of_applyEdits happly).of_isLinkFree hfree

/-- A file is fixed by the same write on every disk that agrees about it. -/
theorem fixFile_of_agreeOff {touched : Location → Prop} {d e next : Disk} {path : Text}
    (h : d.AgreeOff touched e) (hpackages : SparesPackages touched)
    (hpath : ∀ l, d.walk path = .ok l → ¬ touched l) (hfix : fixFile p d path = some next) :
    ∃ u, next = d.amend u ∧ fixFile p e path = some (e.amend u)
      ∧ ∀ l ∈ u.map Prod.fst, d.walk path = .ok l := by
  obtain ⟨r, changed, again, hr, hplain, happly, hagain⟩ := fixFile_eq_some.1 hfix
  have hwalk := (agreeOff_of_applyEdits happly).walk_eq path
  obtain ⟨u, rfl, happly', hagree, hu⟩ := applyEdits_of_agreeOff h hpath happly
  refine ⟨u, rfl, fixFile_eq_some.2 ⟨r, changed, again, ?_, hplain, happly', ?_⟩, hu⟩
  · rw [checkFile_eq h hpackages p hpath]
    exact hr
  · rw [checkFile_eq hagree hpackages p fun l hl => hpath l (hwalk ▸ hl)]
    exact hagain

/-- The path of a location at which a source can stand: its names lead down, and the last one is not that
of a package description. -/
def IsSourcePath (path : Text) : Prop :=
  ∃ l, path = Disk.pathOf l ∧ (∀ c ∈ l, Path.IsDown c) ∧ l.getLast? ≠ some ("package.json" : Text)

theorem IsSourcePath.sparesPackages {path : Text} (h : IsSourcePath path) (d : Disk) :
    SparesPackages fun l => d.walk path = .ok l := by
  obtain ⟨l, rfl, hdown, hlast⟩ := h
  intro m hm
  rw [Disk.eq_of_walk_pathOf hdown hm]
  exact hlast

theorem IsSourcePath.walk_ne {a b : Text} (ha : IsSourcePath a) (hb : IsSourcePath b) (hab : a ≠ b)
    {d : Disk} {l : Location} (hl : d.walk a = .ok l) : d.walk b ≠ .ok l := by
  obtain ⟨k, rfl, hk, _⟩ := ha
  obtain ⟨m, rfl, hm, _⟩ := hb
  intro hl'
  rw [← Disk.eq_of_walk_pathOf hk hl, ← Disk.eq_of_walk_pathOf hm hl'] at hab
  exact hab rfl

/-- If one file can be fixed and then another, they can also be fixed the other way round, and the disk
is the same afterwards. -/
theorem fixFile_swap {a b : Text} (ha : IsSourcePath a) (hb : IsSourcePath b) (hab : a ≠ b)
    {d first last : Disk} (hfree : d.IsLinkFree) (hfirst : fixFile p d a = some first)
    (hlast : fixFile p first b = some last) :
    ∃ other, fixFile p d b = some other ∧ fixFile p other a = some last := by
  -- what is written to `b` on the first disk is also written to it on the disk before
  have hagree := agreeOff_of_fixFile hfree hfirst
  have hnot : ∀ l, first.walk b = .ok l → ¬ d.walk a = .ok l := by
    intro l hl ht
    rw [hagree.walk_eq] at hl
    exact ha.walk_ne hb hab ht hl
  obtain ⟨v, rfl, hother, hv⟩ := fixFile_of_agreeOff hagree.symm (ha.sparesPackages d) hnot hlast
  -- and what is written to `a` is written to it after that
  obtain ⟨u, rfl, hlast', hu⟩ := fixFile_of_agreeOff (agreeOff_of_fixFile hfree hother)
    (hb.sparesPackages d) (fun l hl => ha.walk_ne hb hab hl) hfirst
  refine ⟨d.amend v, hother, ?_⟩
  rw [hlast', Disk.amend_comm d hfree]
  intro l hl hl'
  have hwalk := hv l hl
  rw [hagree.walk_eq] at hwalk
  exact ha.walk_ne hb hab (hu l hl') hwalk

/-- Two files can be fixed in either order. -/
theorem fixFile_comm {a b : Text} (ha : IsSourcePath a) (hb : IsSourcePath b) {d : Disk}
    (hfree : d.IsLinkFree) :
    (fixFile p d a).bind (fixFile p · b) = (fixFile p d b).bind (fixFile p · a) := by
  by_cases hab : a = b
  · rw [hab]
  · ext last
    simp only [Option.bind_eq_some_iff]
    constructor
    · rintro ⟨first, hfirst, hlast⟩
      exact fixFile_swap ha hb hab hfree hfirst hlast
    · rintro ⟨first, hfirst, hlast⟩
      exact fixFile_swap hb ha (Ne.symm hab) hfree hfirst hlast

/-! ### Several files -/

/-- Fixes files one after the other, unless something has failed before. -/
def fixAll (p : Policy) (files : List Text) (start : Option Disk) : Option Disk :=
  files.foldl (fun d path => d.bind (fixFile p · path)) start

theorem fixAll_cons (path : Text) (rest : List Text) (start : Option Disk) :
    fixAll p (path :: rest) start = fixAll p rest (start.bind (fixFile p · path)) := rfl

theorem fixAll_append (files more : List Text) (start : Option Disk) :
    fixAll p (files ++ more) start = fixAll p more (fixAll p files start) := List.foldl_append

theorem fixAll_none (files : List Text) : fixAll p files none = none := by
  induction files with
  | nil => rfl
  | cons path rest ih => exact ih

theorem isLinkFree_of_fixFile {d e : Disk} {path : Text} (hfree : d.IsLinkFree)
    (h : fixFile p d path = some e) : e.IsLinkFree :=
  (agreeOff_of_fixFile hfree h).isLinkFree hfree

/-- Files can be fixed in any order. -/
theorem fixAll_perm {files files' : List Text} (hperm : files.Perm files')
    (hsources : ∀ file ∈ files, IsSourcePath file) {start : Option Disk}
    (hfree : ∀ d ∈ start, d.IsLinkFree) : fixAll p files start = fixAll p files' start := by
  induction hperm generalizing start with
  | nil => rfl
  | cons path _ ih =>
    rw [fixAll_cons, fixAll_cons]
    refine ih (fun file hfile => hsources file (by simp [hfile])) fun e he => ?_
    obtain ⟨d, hd, hfix⟩ := Option.bind_eq_some_iff.1 he
    exact isLinkFree_of_fixFile (hfree d hd) hfix
  | swap a b rest =>
    simp only [fixAll_cons]
    cases start with
    | none => rfl
    | some d =>
      rw [Option.bind_some, Option.bind_some,
        fixFile_comm (hsources b (by simp)) (hsources a (by simp)) (hfree d rfl)]
  | trans hfirst _ ih ih' =>
    exact (ih hsources hfree).trans (ih' (fun file hfile => hsources file (hfirst.mem_iff.2 hfile)) hfree)

theorem exists_of_fixAll {files : List Text} {start : Option Disk} {e : Disk}
    (h : fixAll p files start = some e) : ∃ d, start = some d := by
  cases start with
  | none =>
    rw [fixAll_none] at h
    exact absurd h (by simp)
  | some d => exact ⟨d, rfl⟩

/-- If files can be fixed one after the other, each of them can be checked before. -/
theorem checkFile_of_fixAll {files : List Text} {d e : Disk} (hfree : d.IsLinkFree)
    (hsources : ∀ file ∈ files, IsSourcePath file) (h : fixAll p files (some d) = some e) {file : Text}
    (hfile : file ∈ files) : ∃ r, checkFile d p file = .ok r := by
  -- it could as well be the first file that is fixed
  rw [fixAll_perm (List.perm_cons_erase hfile) hsources (by simpa using hfree), fixAll_cons] at h
  obtain ⟨first, hfirst⟩ := exists_of_fixAll h
  obtain ⟨r, _, _, hr, _⟩ := fixFile_eq_some.1 hfirst
  exact ⟨r, hr⟩

/-! ### Runs -/

/-- The run does not fail and ends with the disk. -/
def CompletesWith (run : FixRun) (e : Disk) : Prop :=
  run.disk = e ∧ ∃ summary, run.outcome = .ok summary

theorem completesWith_prepend {notices : List Notice} {first : FixSummary} {run : FixRun} {e : Disk} :
    CompletesWith (run.prepend notices first) e ↔ CompletesWith run e := by
  constructor
  · rintro ⟨hdisk, _, hsummary⟩
    obtain ⟨rest, hrest, _⟩ := prepend_outcome_eq_ok hsummary
    exact ⟨hdisk, rest, hrest⟩
  · rintro ⟨hdisk, rest, hrest⟩
    exact ⟨hdisk, _, Outcome.map_eq_ok.2 ⟨rest, hrest, rfl⟩⟩

theorem not_completesWith_of_error {run : FixRun} {e : Disk} {fault : Fault}
    (h : run.outcome = .error fault) : ¬ CompletesWith run e := by
  rintro ⟨_, summary, hsummary⟩
  exact absurd (h.symm.trans hsummary) (by simp)

theorem fixFiles_completesWith_iff {d e : Disk} {rs : List FileReport} (h : Checked p d rs) :
    CompletesWith (fixFiles p false d rs) e ↔ fixAll p (rs.map (·.path)) (some d) = some e := by
  induction rs generalizing d with
  | nil => simp [fixFiles, CompletesWith, fixAll]
  | cons r rest ih =>
    have hr := h.checked r (by simp)
    rw [fixFiles, List.map_cons, fixAll_cons, Option.bind_some]
    split
    · next hnone =>
      -- nothing is written, and the second check is the first one
      have hnil : editsFor r = [] := List.isEmpty_iff.1 hnone
      have hfix : fixFile p d r.path = some d :=
        fixFile_eq_some.2 ⟨r, false, r, hr, by rw [hnil]; rfl, if_pos hnone, hr⟩
      rw [completesWith_prepend, hfix]
      exact ih (h.tail (.refl _ d))
    · rw [if_neg (by simp), fixFile, hr]
      dsimp only
      split
      · obtain ⟨fault, hfault, _⟩ := spoil_cases d r.path
        rw [fixAll_none]
        exact iff_of_false (not_completesWith_of_error hfault) (by simp)
      · cases happly : applyEdits d r.path (editsFor r) with
        | error fault => simp [CompletesWith, fixAll_none]
        | ok written =>
          obtain ⟨next, changed⟩ := written
          dsimp only
          cases hagain : checkFile next p r.path with
          | error fault => simp [CompletesWith, fixAll_none]
          | ok again =>
            dsimp only
            rw [completesWith_prepend]
            exact ih (h.tail ((agreeOff_of_applyEdits happly).of_isLinkFree h.free))

theorem isSourcePath_of_mem_sourceFiles {d : Disk} {c : Configuration} {path : Text} {files : List Text}
    (hdata : SkipsData d c) (h : sourceFiles d c path = .ok files) :
    ∀ file ∈ files, IsSourcePath file := by
  obtain ⟨suffixes, _, hsuffixes, _, hfiles⟩ := sourceFiles_eq_ok.1 h
  intro file hfile
  obtain ⟨l, rfl, hdown, hsuffix⟩ := SourceTree.exists_location_of_mem_files hfiles hfile
  refine ⟨l, rfl, hdown, fun hlast => hdata suffixes hsuffixes ?_⟩
  rw [List.getLastD_eq_getLast?, hlast] at hsuffix
  exact hsuffix

/-- A fix run is the fixing of the files under its path, one after the other. -/
theorem completes_iff {d e : Disk} {c : Configuration} {path : Text} (hfree : d.IsLinkFree)
    (hdata : SkipsData d c) :
    CompletesWith (fix d c false path) e ↔
      ∃ files, sourceFiles d c path = .ok files ∧ fixAll c.policy files (some d) = some e := by
  constructor
  · rintro ⟨hdisk, summary, hsummary⟩
    obtain ⟨result, hresult⟩ := exists_check_of_fix hsummary
    obtain ⟨hdisk', houtcome⟩ := fix_eq_of_check hresult false
    refine ⟨_, (reports_of_check hresult).1, ?_⟩
    exact (fixFiles_completesWith_iff (checked_of_check hfree hdata hresult)).1
      ⟨hdisk' ▸ hdisk, summary, houtcome ▸ hsummary⟩
  · rintro ⟨files, hfiles, hall⟩
    -- every file can be checked on the first disk, so the check run succeeds
    have hcheck : ∃ rs, (checkFiles d c.policy files).2 = .ok rs := by
      cases hrs : (checkFiles d c.policy files).2 with
      | ok rs => exact ⟨rs, rfl⟩
      | error fault =>
        obtain ⟨file, hfile, hfault⟩ := exists_of_checkFiles_eq_error hrs
        obtain ⟨r, hr⟩ :=
          checkFile_of_fixAll hfree (isSourcePath_of_mem_sourceFiles hdata hfiles) hall hfile
        exact absurd (hfault.symm.trans hr) (by simp)
    obtain ⟨rs, hrs⟩ := hcheck
    have hresult : (check d c path).2 = .ok ⟨rs⟩ := check_eq_ok.2 ⟨files, hfiles, hrs⟩
    obtain ⟨hdisk, houtcome⟩ := fix_eq_of_check hresult false
    rw [CompletesWith, hdisk, houtcome]
    refine (fixFiles_completesWith_iff (checked_of_check hfree hdata hresult)).2 ?_
    rw [(checkFiles_eq_ok.1 hrs).1]
    exact hall

theorem skipsData_fix {d : Disk} {c : Configuration} (hdata : SkipsData d c) (path : Text) :
    SkipsData (fix d c false path).disk c := by
  intro suffixes hsuffixes
  rw [(agreeOff_of_fix d c path).room] at hsuffixes
  exact hdata suffixes hsuffixes

/-- If no file has several names and no source is a data file, two fix runs can be made in either order:
where one order does not fail the other does not either, and the disk is the same afterwards. -/
theorem fix_comm {d : Disk} {c : Configuration} {a b : Text} {first second : FixSummary}
    (hfree : d.IsLinkFree) (hdata : SkipsData d c)
    (hfirst : (fix d c false a).outcome = .ok first)
    (hsecond : (fix (fix d c false a).disk c false b).outcome = .ok second) :
    ∃ first' second', (fix d c false b).outcome = .ok first'
      ∧ (fix (fix d c false b).disk c false a).outcome = .ok second'
      ∧ (fix (fix d c false a).disk c false b).disk = (fix (fix d c false b).disk c false a).disk := by
  have hfreeAfter (path : Text) : (fix d c false path).disk.IsLinkFree :=
    (agreeOff_of_fix d c path).isLinkFree hfree
  obtain ⟨filesA, hfilesA, hallA⟩ := (completes_iff hfree hdata).1 ⟨rfl, first, hfirst⟩
  obtain ⟨filesB, hfilesB, hallB⟩ :=
    (completes_iff (hfreeAfter a) (skipsData_fix hdata a)).1 ⟨rfl, second, hsecond⟩
  -- the first run changes no name, so it leaves the files that the second one lists
  rw [sourceFiles_fix] at hfilesB
  have hsources : ∀ file ∈ filesA ++ filesB, IsSourcePath file := by
    intro file hfile
    rcases List.mem_append.1 hfile with hfile | hfile
    · exact isSourcePath_of_mem_sourceFiles hdata hfilesA file hfile
    · exact isSourcePath_of_mem_sourceFiles hdata hfilesB file hfile
  have hswapped : fixAll c.policy (filesB ++ filesA) (some d)
      = some (fix (fix d c false a).disk c false b).disk := by
    rw [← fixAll_perm List.perm_append_comm hsources (by simpa using hfree), fixAll_append, hallA]
    exact hallB
  rw [fixAll_append] at hswapped
  obtain ⟨middle, hmiddle⟩ := exists_of_fixAll hswapped
  rw [hmiddle] at hswapped
  obtain ⟨rfl, first', hfirst'⟩ := (completes_iff hfree hdata).2 ⟨filesB, hfilesB, hmiddle⟩
  obtain ⟨hlast, second', hsecond'⟩ := (completes_iff (hfreeAfter b) (skipsData_fix hdata b)).2
    ⟨filesA, (sourceFiles_fix d c c b a).trans hfilesA, hswapped⟩
  exact ⟨first', second', hfirst', hsecond', hlast.symm⟩

/-- A directory and then a source in it, and the other way round: the source is rewritten by whichever run
comes first. -/
theorem fix_comm_nested :
    ∃ first second first' second',
      (fix leftoverDisk leftoverConfiguration false "/p").outcome = .ok first
      ∧ (fix (fix leftoverDisk leftoverConfiguration false "/p").disk leftoverConfiguration false
          "/p/x.js").outcome = .ok second
      ∧ (fix leftoverDisk leftoverConfiguration false "/p/x.js").outcome = .ok first'
      ∧ (fix (fix leftoverDisk leftoverConfiguration false "/p/x.js").disk leftoverConfiguration false
          "/p").outcome = .ok second'
      ∧ first.modified = [("/p/x.js" : Text)] ∧ second.modified = []
      ∧ (fix (fix leftoverDisk leftoverConfiguration false "/p").disk leftoverConfiguration false
          "/p/x.js").disk
        = (fix (fix leftoverDisk leftoverConfiguration false "/p/x.js").disk leftoverConfiguration false
          "/p").disk := by
  have hrun : (fix leftoverDisk leftoverConfiguration false "/p").outcome.map (·.modified)
        = .ok [("/p/x.js" : Text)]
      ∧ (fix (fix leftoverDisk leftoverConfiguration false "/p").disk leftoverConfiguration false
          "/p/x.js").outcome.map (·.modified) = .ok [] := by
    simp only [fix, check, files_leftoverDisk]
    decide +kernel
  obtain ⟨first, hfirst, hmodified⟩ := Outcome.map_eq_ok.1 hrun.1
  obtain ⟨second, hsecond, hnone⟩ := Outcome.map_eq_ok.1 hrun.2
  obtain ⟨first', second', hfirst', hsecond', hdisk⟩ := fix_comm (Disk.isLinkFree_of_links rfl)
    (skipsData_leftoverConfiguration leftoverDisk) hfirst hsecond
  exact ⟨first, second, first', second', hfirst, hsecond, hfirst', hsecond', hmodified, hnone, hdisk⟩

/-- A source with two names, which has a missing extension. -/
def doubleDisk : Disk where
  entries := [([("p" : Text)], .directory), ([("p" : Text), "a.js"], .file (.text "import './foo';")),
    ([("p" : Text), "b.js"], .file (.text "import './foo';")), ([("p" : Text), "foo.js"], .file (.text []))]
  links := [([("p" : Text), "a.js"], 0), ([("p" : Text), "b.js"], 0)]
  cwd := [("p" : Text)]

theorem files_doubleDisk :
    sourceFiles doubleDisk plainConfiguration "/p" = .ok ["/p/a.js", "/p/b.js", "/p/foo.js"] :=
  sourceFiles_eq_ok.2 ⟨_, _, rfl, rfl, SourceTree.files_of_directory (by decide) (by decide +kernel)
    (by decide +kernel) (by decide +kernel) (List.mergeSort_of_pairwise (by decide))⟩

/-- The run over the directory, after the source was fixed by itself. -/
theorem fix_doubleDisk_after :
    (fix (fix doubleDisk plainConfiguration false "/p/a.js").disk plainConfiguration false
        "/p").outcome.isOk
      ∧ (fix (fix doubleDisk plainConfiguration false "/p/a.js").disk plainConfiguration false
          "/p").disk.readText "/p/b.js" = .ok "import './foo.js';" := by
  have hfiles := (sourceFiles_fix doubleDisk plainConfiguration plainConfiguration "/p/a.js" "/p").trans
    files_doubleDisk
  rw [fix.eq_def (fix doubleDisk plainConfiguration false "/p/a.js").disk, check, hfiles]
  decide +kernel

/-- Under its two names the source gets the extension twice in one run, and once if it is fixed alone
before. -/
theorem fix_linked_file_depends_on_order :
    SkipsData doubleDisk plainConfiguration
      ∧ (fix doubleDisk plainConfiguration false "/p").outcome.isOk
      ∧ (fix (fix doubleDisk plainConfiguration false "/p").disk plainConfiguration false
          "/p/a.js").outcome.isOk
      ∧ (fix doubleDisk plainConfiguration false "/p/a.js").outcome.isOk
      ∧ (fix (fix doubleDisk plainConfiguration false "/p/a.js").disk plainConfiguration false
          "/p").outcome.isOk
      ∧ (fix (fix doubleDisk plainConfiguration false "/p").disk plainConfiguration false
          "/p/a.js").disk.readText "/p/b.js" = .ok "import './foo.js.js';"
      ∧ (fix (fix doubleDisk plainConfiguration false "/p/a.js").disk plainConfiguration false
          "/p").disk.readText "/p/b.js" = .ok "import './foo.js';" := by
  have hdata : SkipsData doubleDisk plainConfiguration := by
    intro suffixes hsuffixes
    cases Except.ok.inj hsuffixes
    decide
  have hfirst : (fix doubleDisk plainConfiguration false "/p").outcome.isOk
      ∧ (fix (fix doubleDisk plainConfiguration false "/p").disk plainConfiguration false
          "/p/a.js").outcome.isOk
      ∧ (fix (fix doubleDisk plainConfiguration false "/p").disk plainConfiguration false
          "/p/a.js").disk.readText "/p/b.js" = .ok "import './foo.js.js';" := by
    rw [fix.eq_def doubleDisk, check.eq_def doubleDisk, files_doubleDisk]
    decide +kernel
  have halone : (fix doubleDisk plainConfiguration false "/p/a.js").outcome.isOk := by decide +kernel
  obtain ⟨hafter, htext⟩ := fix_doubleDisk_after
  exact ⟨hdata, hfirst.1, hfirst.2.1, halone, hafter, hfirst.2.2, htext⟩

end Run

end SpecifierLint
