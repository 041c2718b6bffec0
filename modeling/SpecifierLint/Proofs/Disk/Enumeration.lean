/-
The source files below a directory, exactly.

The search below a directory finds the files that a descent meets, with a wanted suffix and not excluded,
each of them once and in the order of their paths.  It goes through unless something obstructs it: a
directory whose path is too long or that lies so deep that there is no room to go down, or an entry with a
wanted suffix that cannot be tested.  Then it ends with the fault of the obstacle that it comes to first.
Main statements:

* **`exists_first_of_faultBelow?`** — a search ends with the first of the steps at which it can fail;
* **`exists_step_iff`** — these steps are those at something that a descent meets;
* **`mem_filesBelow_iff`** — the files that the search finds;
* **`files_exact`** — the search under an existing directory.
-/
import Mathlib.Data.List.Lex
import Mathlib.Data.Prod.Lex
import SpecifierLint.Proofs.Disk.Descent
import SpecifierLint.Proofs.Disk.SourceFiles

namespace SpecifierLint.SourceTree

open Disk

/-! ### The order of the search -/

theorem isEarlier_iff {a b : List Nat × Nat} : isEarlier a b = true ↔ toLex a < toLex b := by
  simp [isEarlier, Prod.Lex.toLex_lt_toLex]

/-- The earliest of some steps is one of them, and before all others. -/
theorem toLex_le_of_foldl_earlier {steps : List ((List Nat × Nat) × Fault)}
    {best : Option ((List Nat × Nat) × Fault)} {first : (List Nat × Nat) × Fault}
    (h : steps.foldl earlier best = some first) :
    (best = some first ∨ first ∈ steps)
      ∧ (∀ found, best = some found → toLex first.1 ≤ toLex found.1)
      ∧ ∀ step ∈ steps, toLex first.1 ≤ toLex step.1 := by
  induction steps generalizing best with
  | nil =>
    refine ⟨.inl h, fun found hfound => ?_, by simp⟩
    obtain rfl := Option.some.inj (hfound.symm.trans h)
    exact le_rfl
  | cons next rest ih =>
    obtain ⟨hmem, hbest, hrest⟩ := ih h
    -- the better one of the best so far and the next one is before neither of the two
    cases best with
    | none =>
      refine ⟨.inr ?_, by simp, List.forall_mem_cons.2 ⟨hbest next rfl, hrest⟩⟩
      rcases hmem with hnext | hmem
      · rw [← Option.some.inj hnext]
        exact List.mem_cons_self ..
      · exact List.mem_cons_of_mem _ hmem
    | some found =>
      rw [earlier] at hmem hbest
      by_cases hearlier : isEarlier next.1 found.1 = true
      · rw [if_pos hearlier] at hmem hbest
        have hnext := hbest next rfl
        refine ⟨.inr ?_, fun _ heq => ?_, List.forall_mem_cons.2 ⟨hnext, hrest⟩⟩
        · rcases hmem with hnext | hmem
          · rw [← Option.some.inj hnext]
            exact List.mem_cons_self ..
          · exact List.mem_cons_of_mem _ hmem
        · obtain rfl := Option.some.inj heq
          exact hnext.trans (isEarlier_iff.1 hearlier).le
      · rw [if_neg hearlier] at hmem hbest
        have hfound := hbest found rfl
        refine ⟨hmem.imp_right (List.mem_cons_of_mem _), fun _ heq => ?_,
          List.forall_mem_cons.2 ⟨hfound.trans ?_, hrest⟩⟩
        · obtain rfl := Option.some.inj heq
          exact hfound
        · exact not_lt.1 fun hlt => hearlier (isEarlier_iff.2 hlt)

theorem isSome_foldl_earlier (steps : List ((List Nat × Nat) × Fault)) (best : (List Nat × Nat) × Fault) :
    (steps.foldl earlier (some best)).isSome := by
  induction steps generalizing best with
  | nil => rfl
  | cons next rest ih => exact ih _

theorem foldl_earlier_eq_none_iff {steps : List ((List Nat × Nat) × Fault)} :
    steps.foldl earlier none = none ↔ steps = [] := by
  cases steps with
  | nil => simp
  | cons next rest =>
    have hsome := isSome_foldl_earlier rest next
    rw [List.foldl_cons, earlier]
    constructor
    · intro hnone
      rw [hnone] at hsome
      exact absurd hsome (by simp)
    · intro hnil
      exact absurd hnil (by simp)

/-- The steps at which the search below a directory can fail. -/
def stepsBelow (d : Disk) (suffixes : List Text) (top : Location) : List ((List Nat × Nat) × Fault) :=
  directorySteps d top top ++ (d.entries.filter fun e => isMet d top e.1).flatMap fun e =>
    nameSteps d suffixes e.1 ++ if e.2.isDirectory then directorySteps d top e.1 else []

variable {d : Disk} {suffixes exclude : List Text} {top : Location} {relative : List Text} {path : Text}
  {fault : Fault}

/-- A search ends with the first of the steps at which it can fail. -/
theorem exists_first_of_faultBelow? (h : faultBelow? d suffixes top = some fault) :
    ∃ step ∈ stepsBelow d suffixes top, step.2 = fault
      ∧ ∀ other ∈ stepsBelow d suffixes top, toLex step.1 ≤ toLex other.1 := by
  obtain ⟨first, hfirst, rfl⟩ := Option.map_eq_some_iff.1 h
  obtain ⟨hmem, _, hleast⟩ := toLex_le_of_foldl_earlier hfirst
  exact ⟨first, hmem.resolve_left (by simp), rfl, hleast⟩

theorem faultBelow?_eq_none_iff : faultBelow? d suffixes top = none ↔ stepsBelow d suffixes top = [] :=
  Option.map_eq_none_iff.trans foldl_earlier_eq_none_iff

/-! ### Obstacles -/

/-- What keeps the search from going through, below a directory at something that a descent meets, with
the fault that it ends in: the directory itself cannot be tested, a directory has a path that is too long
or lies so deep that there is no room to go down from it, or an entry with a wanted suffix cannot be
tested. -/
inductive Obstructs (d : Disk) (suffixes : List Text) (top : Location) : List Text → Fault → Prop
  | start {fault : Fault} (untold : d.isDirectory (pathOf top) = .error fault) :
      Obstructs d suffixes top [] fault
  | long {relative : List Text} (met : IsMet d top relative)
      (directory : d.entryAt? (top ++ relative) = some .directory)
      (long : d.list (pathOf (top ++ relative))
        = .error (.access .nameTooLong (pathOf (top ++ relative)))) :
      Obstructs d suffixes top relative (.access .nameTooLong (pathOf (top ++ relative)))
  | deep {relative : List Text} (met : IsMet d top relative)
      (directory : d.entryAt? (top ++ relative) = some .directory)
      (deep : d.room.search ≤ relative.length) : Obstructs d suffixes top relative .nesting
  | entry {relative : List Text} {fault : Fault} (met : IsMet d top relative) (below : relative ≠ [])
      (wanted : Path.suffix (relative.getLastD []) ∈ suffixes)
      (untold : d.isFile (pathOf (top ++ relative)) = .error fault) :
      Obstructs d suffixes top relative fault

theorem getLastD_append (hne : relative ≠ []) : (top ++ relative).getLastD [] = relative.getLastD [] := by
  obtain ⟨front, name, rfl⟩ := List.eq_nil_or_concat relative |>.resolve_left hne
  simp

theorem exists_nameStep_iff {l : Location} :
    (∃ step ∈ nameSteps d suffixes l, step.2 = fault) ↔
      Path.suffix (l.getLastD []) ∈ suffixes ∧ d.isFile (pathOf l) = .error fault := by
  rw [nameSteps]
  by_cases hsuffix : Path.suffix (l.getLastD []) ∈ suffixes
  · rw [if_pos (by simpa using hsuffix), and_iff_right hsuffix]
    cases d.isFile (pathOf l) with
    | error e => simp
    | ok there => simp
  · rw [if_neg (by simpa using hsuffix)]
    exact iff_of_false (by simp) fun h => hsuffix h.1

theorem exists_directoryStep_iff :
    (∃ step ∈ directorySteps d top (top ++ relative), step.2 = fault) ↔
      (d.walk (pathOf (top ++ relative)) = .error .nameTooLong
          ∧ fault = .access .nameTooLong (pathOf (top ++ relative)))
        ∨ (d.room.search ≤ relative.length ∧ fault = .nesting) := by
  have hlength : (top ++ relative).length - top.length = relative.length := by simp
  rw [directorySteps, hlength]
  simp only [List.mem_append, or_and_right, exists_or]
  refine or_congr ?_ ?_
  · cases d.walk (pathOf (top ++ relative)) with
    | ok l => simp
    | error e => cases e <;> simp [eq_comm]
  · by_cases hdeep : d.room.search ≤ relative.length
    · simp [hdeep, eq_comm]
    · simp [hdeep]

theorem isMet_eq_true {l : Location} :
    isMet d top l = true ↔
      ∃ relative, relative ≠ [] ∧ l = top ++ relative ∧ isReachable d top (top ++ relative) = true := by
  simp only [isMet, Bool.and_eq_true, decide_eq_true_eq, List.isPrefixOf_iff_prefix]
  constructor
  · rintro ⟨⟨⟨relative, rfl⟩, hlength⟩, hreachable⟩
    refine ⟨relative, ?_, rfl, hreachable⟩
    rintro rfl
    exact absurd hlength (by simp)
  · rintro ⟨relative, hne, rfl, hreachable⟩
    exact ⟨⟨List.prefix_append _ _, by simp [List.length_pos_iff, hne]⟩, hreachable⟩

/-- The steps below a directory, said of the entries. -/
theorem mem_stepsBelow_iff {step : (List Nat × Nat) × Fault} :
    step ∈ stepsBelow d suffixes top ↔
      step ∈ directorySteps d top top
        ∨ ∃ relative x, relative ≠ [] ∧ d.entryAt? (top ++ relative) = some x
            ∧ isReachable d top (top ++ relative) = true
            ∧ (step ∈ nameSteps d suffixes (top ++ relative)
              ∨ x = .directory ∧ step ∈ directorySteps d top (top ++ relative)) := by
  have hkind (x : Entry) : x.isDirectory = true ↔ x = .directory := by
    cases x <;> simp [Entry.isDirectory]
  -- a table entry below the top is a nonempty continuation of it that has an entry
  rw [stepsBelow, List.mem_append, List.mem_flatMap]
  refine or_congr_right ⟨?_, ?_⟩
  · rintro ⟨⟨l, x⟩, hx, hstep⟩
    obtain ⟨hx, hmet⟩ := List.mem_filter.1 hx
    obtain ⟨relative, hne, rfl, hreachable⟩ := isMet_eq_true.1 hmet
    refine ⟨relative, x, hne, (mem_entries_iff (by simp [hne])).1 hx, hreachable, ?_⟩
    rw [List.mem_append] at hstep
    refine hstep.imp_right fun hdirectory => ?_
    split at hdirectory
    · next hkindOf => exact ⟨(hkind x).1 hkindOf, hdirectory⟩
    · exact absurd hdirectory (by simp)
  · rintro ⟨relative, x, hne, hentry, hreachable, hstep⟩
    refine ⟨(top ++ relative, x), List.mem_filter.2 ⟨(mem_entries_iff (by simp [hne])).2 hentry,
      isMet_eq_true.2 ⟨relative, hne, rfl, hreachable⟩⟩, List.mem_append.2 (hstep.imp_right ?_)⟩
    rintro ⟨rfl, hdirectory⟩
    rwa [if_pos (by rfl)]

/-- The steps at which the search below a directory can fail are those of the obstacles. -/
theorem exists_step_iff (hdown : ∀ c ∈ top, Path.IsDown c)
    (hthere : d.isDirectory (pathOf top) = .ok true) :
    (∃ step ∈ stepsBelow d suffixes top, step.2 = fault) ↔
      ∃ relative, Obstructs d suffixes top relative fault := by
  obtain ⟨l, hwalk, hdir⟩ := isDirectory_eq_true.1 hthere
  obtain rfl := eq_of_walk_pathOf hdown hwalk
  have hself : l ++ [] = l := List.append_nil l
  constructor
  · rintro ⟨step, hstep, hfault⟩
    rcases mem_stepsBelow_iff.1 hstep with htop | ⟨relative, x, hne, hentry, hreachable, hbelow⟩
    · -- a step at the directory where the search starts
      have hstart : step ∈ directorySteps d l (l ++ []) := hself.symm ▸ htop
      have hhere : d.entryAt? (l ++ []) = some .directory := hself.symm ▸ hdir
      rcases exists_directoryStep_iff.1 ⟨step, hstart, hfault⟩ with ⟨hlong, rfl⟩ | ⟨hdeep, rfl⟩
      · exact ⟨[], .long .here hhere (list_eq_nameTooLong.2 hlong)⟩
      · exact ⟨[], .deep .here hhere hdeep⟩
    · -- a step at an entry that is met below it: at its name, or in it if it is a directory
      have hmet := (isMet_iff hdir).2 ⟨by rw [hentry]; rfl, hreachable⟩
      rcases hbelow with hname | ⟨rfl, hdirectory⟩
      · obtain ⟨hsuffix, huntold⟩ := exists_nameStep_iff.1 ⟨step, hname, hfault⟩
        exact ⟨relative, .entry hmet hne (getLastD_append hne ▸ hsuffix) huntold⟩
      · rcases exists_directoryStep_iff.1 ⟨step, hdirectory, hfault⟩ with ⟨hlong, rfl⟩ | ⟨hdeep, rfl⟩
        · exact ⟨relative, .long hmet hentry (list_eq_nameTooLong.2 hlong)⟩
        · exact ⟨relative, .deep hmet hentry hdeep⟩
  · -- a directory is gone through as the one where the search starts, or as an entry below it
    have hdirectory {relative : List Text} (hmet : IsMet d l relative)
        (hhere : d.entryAt? (l ++ relative) = some .directory)
        (hstep : ∃ step ∈ directorySteps d l (l ++ relative), step.2 = fault) :
        ∃ step ∈ stepsBelow d suffixes l, step.2 = fault := by
      obtain ⟨step, hstep, hfault⟩ := hstep
      refine ⟨step, mem_stepsBelow_iff.2 ?_, hfault⟩
      by_cases hne : relative = []
      · rw [hne, hself] at hstep
        exact .inl hstep
      · exact .inr ⟨relative, _, hne, hhere, ((isMet_iff hdir).1 hmet).2, .inr ⟨rfl, hstep⟩⟩
    rintro ⟨relative, hobstacle⟩
    cases hobstacle with
    | start untold =>
      rw [hthere] at untold
      exact absurd untold (by simp)
    | long met directory long =>
      exact hdirectory met directory
        (exists_directoryStep_iff.2 (.inl ⟨list_eq_nameTooLong.1 long, rfl⟩))
    | deep met directory deep =>
      exact hdirectory met directory (exists_directoryStep_iff.2 (.inr ⟨deep, rfl⟩))
    | entry met below wanted untold =>
      obtain ⟨hsome, hreachable⟩ := (isMet_iff hdir).1 met
      obtain ⟨x, hx⟩ := Option.isSome_iff_exists.1 hsome
      rw [← getLastD_append below] at wanted
      obtain ⟨step, hstep, hfault⟩ := exists_nameStep_iff.2 ⟨wanted, untold⟩
      exact ⟨step, mem_stepsBelow_iff.2 (.inr ⟨relative, x, below, hx, hreachable, .inl hstep⟩), hfault⟩

/-- What the search below a directory fails with is the fault of an obstacle. -/
theorem exists_obstacle_of_faultBelow? (hdown : ∀ c ∈ top, Path.IsDown c)
    (hthere : d.isDirectory (pathOf top) = .ok true) (h : faultBelow? d suffixes top = some fault) :
    ∃ relative, Obstructs d suffixes top relative fault := by
  obtain ⟨step, hstep, hfault, _⟩ := exists_first_of_faultBelow? h
  exact (exists_step_iff hdown hthere).1 ⟨step, hstep, hfault⟩

/-- The search below a directory goes through exactly if nothing obstructs it. -/
theorem faultBelow?_eq_none_iff_not_obstructs (hdown : ∀ c ∈ top, Path.IsDown c)
    (hthere : d.isDirectory (pathOf top) = .ok true) :
    faultBelow? d suffixes top = none ↔ ∀ relative fault, ¬ Obstructs d suffixes top relative fault := by
  rw [faultBelow?_eq_none_iff, List.eq_nil_iff_forall_not_mem]
  constructor
  · intro hnone relative fault hobstacle
    obtain ⟨step, hstep, _⟩ := (exists_step_iff hdown hthere).2 ⟨relative, hobstacle⟩
    exact hnone step hstep
  · intro hnone step hstep
    obtain ⟨relative, hobstacle⟩ := (exists_step_iff hdown hthere).1 ⟨step, hstep, rfl⟩
    exact hnone relative step.2 hobstacle

/-! ### Source files -/

/-- A file that a descent meets, with a wanted suffix, where no pattern of the excluded ones covers its
path below the directory or one of the names in it. -/
structure IsSourceFile (d : Disk) (suffixes exclude : List Text) (top : Location) (relative : List Text) :
    Prop where
  met : IsMet d top relative
  isFile : d.isFile (pathOf (top ++ relative)) = .ok true
  suffix : Path.suffix (relative.getLastD []) ∈ suffixes
  included : ∀ pattern ∈ exclude, Wildcard.covers pattern (Text.join ['/'] relative) = false
    ∧ ∀ name ∈ relative, Wildcard.covers pattern name = false

theorem isExcluded_eq_false_iff :
    isExcluded exclude relative = false ↔
      ∀ pattern ∈ exclude, Wildcard.covers pattern (Text.join ['/'] relative) = false
        ∧ ∀ name ∈ relative, Wildcard.covers pattern name = false := by
  simp [isExcluded]

/-- The files that the search below a directory finds, said of the entries. -/
theorem mem_filesBelow_iff {file : Text} :
    file ∈ filesBelow d suffixes exclude top ↔
      ∃ relative content, file = pathOf (top ++ relative) ∧ relative ≠ []
        ∧ d.entryAt? (top ++ relative) = some (.file content)
        ∧ isReachable d top (top ++ relative) = true
        ∧ Path.suffix (relative.getLastD []) ∈ suffixes ∧ isExcluded exclude relative = false := by
  rw [filesBelow, Text.sorted, List.mem_mergeSort, List.mem_map]
  simp only [List.mem_filter, isSource, Bool.and_eq_true, Bool.not_eq_true', decide_eq_true_eq,
    List.isPrefixOf_iff_prefix, List.contains_iff_mem, and_assoc]
  constructor
  · rintro ⟨⟨l, x⟩, hx, hfile, ⟨relative, rfl⟩, hlength, hreachable, hsuffix, hincluded, rfl⟩
    have hne : relative ≠ [] := by
      rintro rfl
      exact absurd hlength (by simp)
    have hentry : d.entryAt? (top ++ relative) = some x := (mem_entries_iff (by simp [hne])).1 hx
    rw [getLastD_append hne] at hsuffix
    rw [List.drop_left' rfl] at hincluded
    cases x with
    | directory => exact absurd hfile (by simp [Entry.isFile])
    | file content => exact ⟨relative, content, rfl, hne, hentry, hreachable, hsuffix, hincluded⟩
  · rintro ⟨relative, content, rfl, hne, hentry, hreachable, hsuffix, hincluded⟩
    refine ⟨(top ++ relative, .file content), (mem_entries_iff (by simp [hne])).2 hentry, rfl,
      List.prefix_append _ _, by simp [List.length_pos_iff, hne], hreachable, ?_, ?_, rfl⟩
    · rwa [getLastD_append hne]
    · rwa [List.drop_left' rfl]

theorem pairwise_filesBelow : (filesBelow d suffixes exclude top).Pairwise (· < ·) := by
  have hsorted : (filesBelow d suffixes exclude top).Pairwise fun a b => ¬ b < a := Text.pairwise_sorted _
  have hne : (filesBelow d suffixes exclude top).Pairwise (· ≠ ·) := nodup_filesBelow
  refine (hsorted.and hne).imp fun {a b} h => ?_
  by_contra hlt
  exact h.2 (List.le_antisymm h.1 hlt)

/-- Unless something obstructs the search, it finds the source files that a descent meets. -/
theorem mem_filesBelow_iff_isSourceFile (hnone : ∀ relative fault, ¬ Obstructs d suffixes top relative fault)
    (hdir : d.entryAt? top = some .directory) {file : Text} :
    file ∈ filesBelow d suffixes exclude top ↔
      ∃ relative, IsSourceFile d suffixes exclude top relative ∧ file = pathOf (top ++ relative) := by
  rw [mem_filesBelow_iff]
  constructor
  · rintro ⟨relative, content, rfl, hne, hentry, hreachable, hsuffix, hincluded⟩
    have hmet : IsMet d top relative := (isMet_iff hdir).2 ⟨by rw [hentry]; rfl, hreachable⟩
    have hunder : d.IsUnder (top ++ relative) := by
      obtain ⟨front, name, rfl⟩ := (List.eq_nil_or_concat' relative).resolve_left hne
      rw [← List.append_assoc]
      exact isUnder_of_isListable (isReachable_append_singleton.1 hreachable).2 name
    refine ⟨relative, ⟨hmet, ?_, hsuffix, isExcluded_eq_false_iff.1 hincluded⟩, rfl⟩
    rcases test_pathOf_cases hunder hentry Entry.isFile with hfile | ⟨fault, huntold⟩
    · exact hfile
    · exact absurd (.entry hmet hne hsuffix huntold) (hnone relative fault)
  · rintro ⟨relative, hsource, rfl⟩
    obtain ⟨hsome, hreachable⟩ := (isMet_iff hdir).1 hsource.met
    obtain ⟨l, content, hwalk, hentry⟩ := isFile_eq_true.1 hsource.isFile
    -- the path of what is met leads to nothing else
    obtain rfl := eq_of_walk_pathOf (isDown_of_entryAt? hsome) hwalk
    have hne : relative ≠ [] := by
      rintro rfl
      rw [List.append_nil, hdir] at hentry
      exact absurd hentry (by simp)
    exact ⟨relative, content, rfl, hne, hentry, hreachable, hsource.suffix,
      isExcluded_eq_false_iff.2 hsource.included⟩

/-- No file with an excluded name on the way down to it is found. -/
theorem not_mem_filesBelow_of_covers {pattern name : Text} (hnames : ∀ name ∈ relative, Path.IsDown name)
    (hdown : ∀ name ∈ top, Path.IsDown name) (hpattern : pattern ∈ exclude) (hname : name ∈ relative)
    (hcovers : Wildcard.covers pattern name = true) :
    pathOf (top ++ relative) ∉ filesBelow d suffixes exclude top := by
  intro hfound
  obtain ⟨relative', content, heq, _, hentry, _, _, hincluded⟩ := mem_filesBelow_iff.1 hfound
  -- the path of a location determines it
  have hsame : relative = relative' := by
    have hall : ∀ name ∈ top ++ relative, Path.IsDown name :=
      fun name hname => (List.mem_append.1 hname).elim (hdown name) (hnames name)
    have hparts := congrArg Path.parts heq
    rw [parts_pathOf hall, parts_pathOf (isDown_of_entryAt? (by rw [hentry]; rfl))] at hparts
    exact List.append_cancel_left hparts
  rw [← hsame, isExcluded_eq_false_iff] at hincluded
  have huncovered := (hincluded pattern hpattern).2 name hname
  rw [hcovers] at huncovered
  exact absurd huncovered (by simp)

/-! ### The search under a path -/

/-- A place is searched by its resolved path, and the search fails if this path cannot be tested. -/
theorem files_of_walk (hwalk : d.walk path = .ok top) (hdir : d.entryAt? top = some .directory) :
    (∀ fault, d.isDirectory (pathOf top) = .error fault →
        files d suffixes exclude path = .error fault)
      ∧ (d.isDirectory (pathOf top) = .ok true →
        files d suffixes exclude path
          = ((faultBelow? d suffixes top).map .error).getD (.ok (filesBelow d suffixes exclude top))) := by
  have hzero : '\x00' ∉ path := (walk_eq_ok.1 hwalk).1
  have hlocate : locate (pathOf top) = top := parts_pathOf (isDown_of_entryAt? (by rw [hdir]; rfl))
  simp only [files, resolved_of_walk hwalk, hlocate]
  rw [if_neg (by simpa using hzero)]
  refine ⟨fun fault huntold => by rw [huntold], fun hthere => ?_⟩
  rw [hthere]
  cases faultBelow? d suffixes top <;> rfl

section

variable (hunder : d.IsUnder top) (hwalk : d.walk path = .ok top)
  (hdir : d.entryAt? top = some .directory)

include hunder hwalk hdir

theorem files_of_not_obstructs (hnone : ∀ relative fault, ¬ Obstructs d suffixes top relative fault) :
    files d suffixes exclude path = .ok (filesBelow d suffixes exclude top) := by
  have hthere : d.isDirectory (pathOf top) = .ok true :=
    (test_pathOf_cases hunder hdir Entry.isDirectory).resolve_right
      fun ⟨fault, huntold⟩ => hnone [] fault (.start huntold)
  have hdown : ∀ c ∈ top, Path.IsDown c := isDown_of_entryAt? (by rw [hdir]; rfl)
  rw [(files_of_walk hwalk hdir).2 hthere,
    (faultBelow?_eq_none_iff_not_obstructs hdown hthere).2 hnone]
  rfl

theorem files_of_obstructs (h : Obstructs d suffixes top relative fault) :
    ∃ relative fault, Obstructs d suffixes top relative fault
      ∧ files d suffixes exclude path = .error fault := by
  rcases test_pathOf_cases hunder hdir Entry.isDirectory with hthere | ⟨first, huntold⟩
  · have hdown : ∀ c ∈ top, Path.IsDown c := isDown_of_entryAt? (by rw [hdir]; rfl)
    rw [(files_of_walk hwalk hdir).2 hthere]
    cases hbelow : faultBelow? d suffixes top with
    | none =>
      have hnone := (faultBelow?_eq_none_iff_not_obstructs hdown hthere).1 hbelow
      exact absurd h (hnone relative fault)
    | some first =>
      obtain ⟨other, hobstacle⟩ := exists_obstacle_of_faultBelow? hdown hthere hbelow
      exact ⟨other, first, hobstacle, rfl⟩
  · exact ⟨[], first, .start huntold, (files_of_walk hwalk hdir).1 first huntold⟩

end

/-- The search under an existing directory, on a disk whose working directory is under directories.  Unless
something obstructs it, the search finds the source files that a descent meets, each once and in the order
of their paths; in particular no file with an excluded name on the way down to it.  Otherwise it ends with
the fault of an obstacle. -/
theorem files_exact {path : Text} (hcwd : d.IsUnder d.cwd) (hdirectory : d.isDirectory path = .ok true)
    (suffixes exclude : List Text) :
    ∃ top, d.walk path = .ok top
      ∧ ((∀ relative fault, ¬ Obstructs d suffixes top relative fault) →
          ∃ found, files d suffixes exclude path = .ok found ∧ found.Pairwise (· < ·)
            ∧ (∀ file, file ∈ found ↔ ∃ relative,
                IsSourceFile d suffixes exclude top relative ∧ file = pathOf (top ++ relative))
            ∧ ∀ pattern ∈ exclude, ∀ relative, (∀ name ∈ relative, isEntryName name = true) →
                (∃ name ∈ relative, Wildcard.covers pattern name = true) →
                  pathOf (top ++ relative) ∉ found)
      ∧ ((∃ relative fault, Obstructs d suffixes top relative fault) →
          ∃ relative fault, Obstructs d suffixes top relative fault
            ∧ files d suffixes exclude path = .error fault) := by
  obtain ⟨top, hwalk, hdir⟩ := isDirectory_eq_true.1 hdirectory
  have hunder := isUnder_of_walk hcwd hwalk
  have hdown : ∀ name ∈ top, Path.IsDown name := isDown_of_entryAt? (by rw [hdir]; rfl)
  refine ⟨top, hwalk, ?_, ?_⟩
  · intro hnone
    refine ⟨filesBelow d suffixes exclude top, files_of_not_obstructs hunder hwalk hdir hnone,
      pairwise_filesBelow, fun file => mem_filesBelow_iff_isSourceFile hnone hdir, ?_⟩
    rintro pattern hpattern relative hnames ⟨name, hname, hcovers⟩
    refine not_mem_filesBelow_of_covers ?_ hdown hpattern hname hcovers
    exact fun name hname => Path.isDown_of_isEntryName (hnames name hname)
  · rintro ⟨relative, fault, hobstacle⟩
    exact files_of_obstructs hunder hwalk hdir hobstacle

/-- A directory with an excluded directory, one that cannot be listed, and one with a file whose name is a
point and an extension. -/
def guardedDisk : Disk where
  entries := [
    (["proj"], .directory),
    (["proj", "a.js"], .file (.text [])),
    (["proj", "dist"], .directory),
    (["proj", "dist", "b.js"], .file (.text [])),
    (["proj", "locked"], .directory),
    (["proj", "locked", "c.js"], .file (.text [])),
    (["proj", "src"], .directory),
    (["proj", "src", ".js"], .file (.text [])),
    (["proj", "src", "d.js"], .file (.text []))]
  denied := [["proj", "locked"]]
  cwd := ["proj"]
  nodup := by decide +kernel
  named := by decide +kernel

/-- By a path that leads into a directory and back, a file in this directory is found, and none in an
excluded one. -/
theorem files_exact_guarded :
    guardedDisk.IsUnder guardedDisk.cwd ∧ guardedDisk.isDirectory "src/.." = .ok true
      ∧ ∃ found, files guardedDisk [".js"] ["dist"] "src/.." = .ok found ∧ found.Pairwise (· < ·)
        ∧ pathOf ["proj", "src", "d.js"] ∈ found ∧ pathOf ["proj", "dist", "b.js"] ∉ found := by
  have hcwd : guardedDisk.IsUnder guardedDisk.cwd := by decide +kernel
  have hdirectory : guardedDisk.isDirectory "src/.." = .ok true := by decide +kernel
  obtain ⟨top, hwalk, hfiles, _⟩ := files_exact hcwd hdirectory [".js"] ["dist"]
  have hplace : guardedDisk.walk "src/.." = .ok ["proj"] := by decide +kernel
  obtain rfl : top = ["proj"] := Except.ok.inj (hwalk.symm.trans hplace)
  have hdir : guardedDisk.entryAt? ["proj"] = some .directory := by decide +kernel
  have hnone : ∀ relative fault, ¬ Obstructs guardedDisk [".js"] ["proj"] relative fault :=
    (faultBelow?_eq_none_iff_not_obstructs (isDown_of_entryAt? (by rw [hdir]; rfl))
      (by decide +kernel)).1 (by decide +kernel)
  obtain ⟨found, hfound, hsorted, hmem, hexcluded⟩ := hfiles hnone
  refine ⟨hcwd, hdirectory, found, hfound, hsorted, ?_, ?_⟩
  · refine (hmem _).2 ⟨["src", "d.js"], ⟨?_, ?_, ?_, ?_⟩, rfl⟩
    · exact (isMet_iff hdir).2 ⟨by decide +kernel, by decide +kernel⟩
    · decide +kernel
    · decide +kernel
    · decide +kernel
  · exact hexcluded "dist" (by decide +kernel) ["dist", "b.js"] (by decide +kernel)
      ⟨"dist", by decide +kernel, by decide +kernel⟩

/-- A file beside directories below each other whose names have 252 bytes, down to where a path is too
long. -/
def nestedDisk : Disk where
  entries := (["proj"], .directory) :: (["proj", "a.js"], .file (.text []))
    :: (List.range 17).map fun n => ("proj" :: List.replicate (n + 1) (List.replicate 63 '𝄞'), .directory)
  cwd := ["proj"]
  nodup := by decide +kernel
  named := by decide +kernel

/-- The file is met and wanted, but the search fails at the last directory. -/
theorem files_below_long_path_fail :
    nestedDisk.IsUnder nestedDisk.cwd ∧ nestedDisk.isDirectory "/proj" = .ok true
      ∧ IsSourceFile nestedDisk [".js"] [] ["proj"] ["a.js"]
      ∧ ∀ found, files nestedDisk [".js"] [] "/proj" ≠ .ok found := by
  have hfails : (files nestedDisk [".js"] [] "/proj").isOk = false := by decide +kernel
  refine ⟨by decide +kernel, by decide +kernel, ⟨?_, by decide +kernel, by decide +kernel, by simp⟩, ?_⟩
  · have hnames : nestedDisk.list (pathOf ([("proj" : Text)] ++ [])) = .ok (nestedDisk.namesIn ["proj"]) := by
      decide +kernel
    exact .down .here hnames (by decide +kernel)
  · intro found hfound
    rw [hfound] at hfails
    exact absurd hfails (by simp [Except.isOk, Except.toBool])

end SpecifierLint.SourceTree
