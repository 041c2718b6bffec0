/-
Searches that fail.

The search for the file of a specifier tests one path after the other.  What is not there does not end
it, but a path that cannot be tested does, and so does the description of a package that is nested too
deep, or a directory that cannot be resolved.  A search fails at the first of these that it comes to.  On
a disk the paths that cannot be tested are those that are blocked.  Main statements:

* **`firstFile_eq_error`** — a list of candidates fails at one that cannot be tested behind misses;
* **`load_eq_error`** — what looking a target up fails at;
* **`resolve_eq_error`** — what resolving a specifier fails at;
* **`SearchFault.blockedOrNesting`** — on a disk it fails at a blocked path or a deep description.
-/
import SpecifierLint.Proofs.Resolution.Search
import SpecifierLint.Proofs.Disk.Blocked

namespace SpecifierLint.Resolution

/-! ### What a search fails at -/

/-- Behind candidates that are no files comes one that cannot be tested. -/
inductive CandidateFault (isFile : Text → Except Fault Bool) (candidates : List Text) (fault : Fault) :
    Prop
  | intro {before after : List Text} {candidate : Text}
      (split : candidates = before ++ candidate :: after) (missed : Misses isFile before)
      (fails : isFile candidate = .error fault) : CandidateFault isFile candidates fault

/-- The description of the package at a place cannot be tested, or is nested too deep. -/
inductive PackageFault (fs : FileSystem) (place : Text) : Fault → Prop
  | untested {fault : Fault} (fails : fs.isFile (Path.joined place "package.json") = .error fault) :
      PackageFault fs place fault
  | nesting {document : Text} (there : fs.isFile (Path.joined place "package.json") = .ok true)
      (text : fs.readText (Path.joined place "package.json") = .ok document)
      (deep : Json.read spelledOdd fs.packageRoom document = .error .tooDeep) :
      PackageFault fs place .nesting

/-- What looking a directory up fails at. -/
inductive DirectoryFault (fs : FileSystem) (extensions : List Text) (place : Text) : Fault → Prop
  | package {fault : Fault} (found : PackageFault fs place fault) :
      DirectoryFault fs extensions place fault
  | main {name : Text} {fault : Fault} (package : packageMain fs place = .ok (some name))
      (found : CandidateFault fs.isSpelledFile (mainCandidates extensions place name) fault) :
      DirectoryFault fs extensions place fault
  | index {main : Option Text} {fault : Fault} (package : packageMain fs place = .ok main)
      (silent : mainFile fs extensions place main = .ok none)
      (found : CandidateFault fs.isFile (indexCandidates extensions place) fault) :
      DirectoryFault fs extensions place fault

/-- What looking a target up fails at. -/
inductive PlaceFault (fs : FileSystem) (extensions : List Text) (place : Text) : Fault → Prop
  | file {fault : Fault} (found : CandidateFault fs.isFile (fileCandidates extensions place) fault) :
      PlaceFault fs extensions place fault
  | untested {fault : Fault} (missed : Misses fs.isFile (fileCandidates extensions place))
      (fails : fs.isDirectory place = .error fault) : PlaceFault fs extensions place fault
  | inside {fault : Fault} (missed : Misses fs.isFile (fileCandidates extensions place))
      (directory : fs.isDirectory place = .ok true) (found : DirectoryFault fs extensions place fault) :
      PlaceFault fs extensions place fault

/-- Resolving a specifier fails at one of its places, behind places that lead nowhere, or at the directory
that its package is looked for from. -/
inductive SearchFault (fs : FileSystem) (extensions : List Text) (directory specifier : Text)
    (fault : Fault) : Prop
  | place {nearer further : List Text} {place : Text} (searched : IsSearched specifier)
      (split : places fs directory specifier = nearer ++ place :: further)
      (silent : ∀ n ∈ nearer, load fs extensions n = .ok none)
      (found : PlaceFault fs extensions place fault) :
      SearchFault fs extensions directory specifier fault
  | directory (searched : IsSearched specifier) (package : isPathLike specifier = false)
      (fails : fs.resolved directory = .error fault) :
      SearchFault fs extensions directory specifier fault

variable {fs : FileSystem} {isFile : Text → Except Fault Bool} {extensions : List Text} {fault : Fault}

/-! ### Candidates -/

theorem candidateFault_cons {c : Text} {rest : List Text} :
    CandidateFault isFile (c :: rest) fault ↔
      isFile c = .error fault ∨ (isFile c = .ok false ∧ CandidateFault isFile rest fault) := by
  constructor
  · rintro ⟨hsplit, hmissed, hfails⟩
    rename_i before after candidate
    cases before with
    | nil =>
      obtain ⟨rfl, rfl⟩ := List.cons.inj hsplit
      exact .inl hfails
    | cons b before =>
      obtain ⟨rfl, rfl⟩ := List.cons.inj hsplit
      obtain ⟨hmiss, hmissed⟩ := List.forall_mem_cons.1 hmissed
      exact .inr ⟨hmiss, .intro rfl hmissed hfails⟩
  · rintro (hfails | ⟨hmiss, hsplit, hmissed, hfails⟩)
    · have hfront : c :: rest = [] ++ c :: rest := rfl
      exact .intro hfront (by simp [Misses]) hfails
    · rw [hsplit, ← List.cons_append]
      exact .intro rfl (List.forall_mem_cons.2 ⟨hmiss, hmissed⟩) hfails

/-- A list of candidates fails at one that cannot be tested behind misses. -/
theorem firstFile_eq_error {candidates : List Text} :
    firstFile fs isFile candidates = .error fault ↔ CandidateFault isFile candidates fault := by
  induction candidates with
  | nil =>
    rw [firstFile]
    refine ⟨fun h => absurd h (by simp), ?_⟩
    rintro ⟨hsplit, _⟩
    exact absurd hsplit (by simp)
  | cons c rest ih =>
    rw [firstFile, candidateFault_cons]
    cases hfile : isFile c with
    | error e => simp
    | ok there =>
      cases there with
      | true => simp
      | false => simpa using ih

/-! ### Packages -/

theorem mainFile_eq_error {place : Text} {main : Option Text} :
    mainFile fs extensions place main = .error fault ↔
      ∃ name, main = some name
        ∧ CandidateFault fs.isSpelledFile (mainCandidates extensions place name) fault := by
  cases main with
  | none => simp [mainFile]
  | some name =>
    simp only [mainFile, Option.some.injEq, exists_eq_left']
    exact firstFile_eq_error

theorem mainOf_eq_error {room : Nat} {document : Text} :
    mainOf room document = .error fault ↔
      Json.read spelledOdd room document = .error .tooDeep ∧ fault = .nesting := by
  rw [mainOf]
  cases hread : Json.read spelledOdd room document with
  | error e => cases e <;> simp [eq_comm]
  | ok value => simp

theorem packageMain_eq_error {place : Text} :
    packageMain fs place = .error fault ↔ PackageFault fs place fault := by
  rw [packageMain]
  constructor
  · intro h
    split at h
    · next hfault =>
      cases h
      exact .untested hfault
    · exact absurd h (by simp)
    · next hthere =>
      split at h
      · exact absurd h (by simp)
      · next document htext =>
        obtain ⟨hdeep, rfl⟩ := mainOf_eq_error.1 h
        exact .nesting hthere htext hdeep
  · intro h
    cases h with
    | untested fails => rw [fails]
    | nesting there text deep =>
      rw [there]
      dsimp only
      rw [text]
      exact mainOf_eq_error.2 ⟨deep, rfl⟩

/-! ### Targets -/

theorem loadDirectory_eq_error {place : Text} (hdirectory : fs.isDirectory place = .ok true) :
    loadDirectory fs extensions place = .error fault ↔ DirectoryFault fs extensions place fault := by
  rw [loadDirectory, hdirectory]
  dsimp only
  constructor
  · intro h
    cases hpackage : packageMain fs place with
    | error e =>
      rw [hpackage] at h
      cases h
      exact .package (packageMain_eq_error.1 hpackage)
    | ok main =>
      rw [hpackage] at h
      simp only [Except.bind] at h
      split at h
      · next hmain =>
        cases h
        obtain ⟨name, rfl, hfault⟩ := mainFile_eq_error.1 hmain
        exact .main hpackage hfault
      · exact absurd h (by simp)
      · -- the main file of the package leads nowhere, so the index is looked up
        next hsilent => exact .index hpackage hsilent (firstFile_eq_error.1 h)
  · intro h
    cases h with
    | package found =>
      rw [packageMain_eq_error.2 found]
      rfl
    | main package found =>
      rw [package]
      simp only [Except.bind, mainFile_eq_error.2 ⟨_, rfl, found⟩]
    | index package silent found =>
      rw [package]
      simp only [Except.bind, silent]
      exact firstFile_eq_error.2 found

/-- What looking a target up fails at. -/
theorem load_eq_error {place : Text} :
    load fs extensions place = .error fault ↔ PlaceFault fs extensions place fault := by
  rw [load]
  constructor
  · intro h
    split at h
    · next hfault =>
      cases h
      exact .file (firstFile_eq_error.1 hfault)
    · exact absurd h (by simp)
    · -- no file has the path of the place, so it is looked up as a directory
      next hnone =>
      have hmissed := firstFile_eq_none.1 hnone
      cases hdirectory : fs.isDirectory place with
      | error e =>
        rw [loadDirectory, hdirectory] at h
        cases h
        exact .untested hmissed hdirectory
      | ok there =>
        cases there with
        | true => exact .inside hmissed hdirectory ((loadDirectory_eq_error hdirectory).1 h)
        | false =>
          rw [loadDirectory, hdirectory] at h
          exact absurd h (by simp)
  · intro h
    cases h with
    | file found => rw [firstFile_eq_error.2 found]
    | untested missed fails =>
      rw [firstFile_eq_none.2 missed]
      dsimp only
      rw [loadDirectory, fails]
    | inside missed directory found =>
      rw [firstFile_eq_none.2 missed]
      exact (loadDirectory_eq_error directory).2 found

/-! ### Specifiers -/

theorem loadFirst_eq_error {places : List Text} :
    loadFirst fs extensions places = .error fault ↔
      ∃ nearer place further, places = nearer ++ place :: further
        ∧ (∀ n ∈ nearer, load fs extensions n = .ok none) ∧ PlaceFault fs extensions place fault := by
  simp only [← load_eq_error]
  -- as for the candidates of one place: a failure is that of the first place that is not silent
  induction places with
  | nil => simp [loadFirst]
  | cons place rest ih =>
    rw [loadFirst]
    constructor
    · intro h
      split at h
      · next hfault =>
        cases h
        exact ⟨[], place, rest, rfl, by simp, hfault⟩
      · exact absurd h (by simp)
      · next hsilent =>
        obtain ⟨nearer, x, further, rfl, hnearer, hx⟩ := ih.1 h
        exact ⟨place :: nearer, x, further, rfl, List.forall_mem_cons.2 ⟨hsilent, hnearer⟩, hx⟩
    · rintro ⟨nearer, x, further, hsplit, hnearer, hx⟩
      cases nearer with
      | nil =>
        obtain ⟨rfl, rfl⟩ := List.cons.inj hsplit
        rw [hx]
      | cons n nearer =>
        obtain ⟨rfl, rfl⟩ := List.cons.inj hsplit
        obtain ⟨hsilent, hnearer⟩ := List.forall_mem_cons.1 hnearer
        rw [hsilent]
        exact ih.2 ⟨nearer, x, further, rfl, hnearer, hx⟩

/-- What resolving a specifier fails at. -/
theorem resolve_eq_error {directory specifier : Text} :
    resolve fs extensions directory specifier = .error fault ↔
      SearchFault fs extensions directory specifier fault := by
  constructor
  · intro h
    by_cases hskip : IsSearched specifier
    · by_cases hresolved : IsResolved fs directory specifier
      · rw [resolve_eq_loadFirst hskip hresolved, loadFirst_eq_error] at h
        obtain ⟨_, _, _, hsplit, hsilent, hfound⟩ := h
        exact .place hskip hsplit hsilent hfound
      · rw [IsResolved, Classical.not_imp, not_exists] at hresolved
        obtain ⟨hpath, hnone⟩ := hresolved
        rw [resolve, if_neg (by simpa [IsSearched] using hskip), hpath] at h
        cases hreal : fs.resolved directory with
        | ok real => exact absurd hreal (hnone real)
        | error e =>
          rw [hreal] at h
          cases h
          exact .directory hskip hpath hreal
    · rw [resolve, if_pos (by simpa [IsSearched, Decidable.or_iff_not_imp_left] using hskip)] at h
      exact absurd h (by simp)
  · intro h
    cases h with
    | place searched split silent found =>
      have hresolved : IsResolved fs directory specifier := by
        -- there is a place, so the directory is resolved
        intro hpath
        rw [places, hpath] at split
        cases hreal : fs.resolved directory with
        | ok real => exact ⟨real, rfl⟩
        | error e =>
          rw [hreal] at split
          exact absurd split (by simp [Except.toOption])
      rw [resolve_eq_loadFirst searched hresolved, loadFirst_eq_error]
      exact ⟨_, _, _, split, silent, found⟩
    | directory searched package fails =>
      rw [resolve, if_neg (by simpa [IsSearched] using searched), package, fails]
      rfl

/-! ### Searches on a disk -/

/-- A fault of a disk: something is nested too deep, or a path that stands for a blocked one is tested. -/
def BlockedOrNesting (d : Disk) (fault : Fault) : Prop :=
  fault = .nesting ∨ ∃ path e, d.Blocked (Path.unspelled path) e ∧ fault = .access e path

section

variable {d : Disk}

theorem blockedOrNesting_of_test {passes : Entry → Bool} {path : Text}
    (h : d.test passes path = .error fault) : BlockedOrNesting d fault := by
  obtain ⟨hplain, e, hblocked, rfl⟩ := Disk.test_eq_error.1 h
  exact .inr ⟨path, e, by rwa [Path.unspelled_of_plain hplain], rfl⟩

theorem blockedOrNesting_of_isSpelledFile {path : Text} (h : d.isSpelledFile path = .error fault) :
    BlockedOrNesting d fault := by
  obtain ⟨_, e, hblocked, rfl⟩ := Disk.isSpelledFile_eq_error.1 h
  exact .inr ⟨path, e, hblocked, rfl⟩

theorem CandidateFault.blockedOrNesting {candidates : List Text}
    (hfails : ∀ path, isFile path = .error fault → BlockedOrNesting d fault)
    (h : CandidateFault isFile candidates fault) : BlockedOrNesting d fault := by
  cases h with
  | intro _ _ fails => exact hfails _ fails

theorem PlaceFault.blockedOrNesting {place : Text} (h : PlaceFault d extensions place fault) :
    BlockedOrNesting d fault := by
  have hfile : ∀ path, d.isFile path = .error fault → BlockedOrNesting d fault :=
    fun _ => blockedOrNesting_of_test
  cases h with
  | file found => exact found.blockedOrNesting hfile
  | untested _ fails => exact blockedOrNesting_of_test fails
  | inside _ _ found =>
    cases found with
    | package found =>
      cases found with
      | untested fails => exact hfile _ fails
      | nesting => exact .inl rfl
    | main _ found => exact found.blockedOrNesting fun _ => blockedOrNesting_of_isSpelledFile
    | index _ _ found => exact found.blockedOrNesting hfile

/-- On a disk a search from a directory without U+0000 fails at a blocked path or a deep description. -/
theorem SearchFault.blockedOrNesting {directory specifier : Text} (hzero : '\x00' ∉ directory)
    (h : SearchFault d extensions directory specifier fault) : BlockedOrNesting d fault := by
  cases h with
  | place _ _ _ found => exact found.blockedOrNesting
  | directory _ _ fails =>
    rw [d.fileSystem_resolved hzero] at fails
    exact absurd fails (by simp)

end

end SpecifierLint.Resolution
