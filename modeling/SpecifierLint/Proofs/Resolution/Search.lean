/-
The search for the file of a specifier.

A specifier has places at which its file is looked for: one if it is a path of its own, and else one
for every `node_modules` directory above.  A place leads to the file that it is, or, if it is none, to
the first file behind it: the place with an extension to try, the main file of a package, or an index.
The search answers what the first place that leads anywhere leads to.  Main statements:

* **`firstFile_eq_some`** — the first file of a list of candidates has only misses before it;
* **`load_eq_some`** — looking a target up finds the file that its place leads to, and only that;
* **`resolve_eq_some`** — so does resolving a specifier, from the first place that is not silent.
-/
import SpecifierLint.Resolution

namespace SpecifierLint.Resolution

/-! ### What a place leads to -/

/-- The candidate is the first of a list that passes a test for files. -/
def Hits (isFile : Text → Except Fault Bool) (candidates : List Text) (candidate : Text) : Prop :=
  ∃ before after, candidates = before ++ candidate :: after
    ∧ (∀ b ∈ before, isFile b = .ok false) ∧ isFile candidate = .ok true

/-- No candidate is a file. -/
def Misses (isFile : Text → Except Fault Bool) (candidates : List Text) : Prop :=
  ∀ c ∈ candidates, isFile c = .ok false

/-- A place with each of the extensions to try. -/
def triedAt (extensions : List Text) (place : Text) : List Text :=
  extensions.map fun e => Path.clean (place ++ e)

/-- The directory at a place leads to a file: to the main file of its package, or to its index. -/
inductive InDirectory (fs : FileSystem) (extensions : List Text) (place : Text) : Text → Prop
  | main {main : Option Text} {path : Text} (directory : fs.isDirectory place = .ok true)
      (package : packageMain fs place = .ok main)
      (found : mainFile fs extensions place main = .ok (some path)) :
      InDirectory fs extensions place path
  | index {main : Option Text} {candidate : Text} (directory : fs.isDirectory place = .ok true)
      (package : packageMain fs place = .ok main)
      (silent : mainFile fs extensions place main = .ok none)
      (hit : Hits fs.isFile (indexCandidates extensions place) candidate) :
      InDirectory fs extensions place (Path.absolute fs.cwdPath candidate)

/-- A place that is no file leads to a file: with an extension to try, or as a directory. -/
inductive Behind (fs : FileSystem) (extensions : List Text) (place : Text) : Text → Prop
  | tried {candidate : Text} (hit : Hits fs.isFile (triedAt extensions place) candidate) :
      Behind fs extensions place (Path.absolute fs.cwdPath candidate)
  | inside {path : Text} (missed : Misses fs.isFile (triedAt extensions place))
      (found : InDirectory fs extensions place path) : Behind fs extensions place path

/-- A place leads to the file that it is, or to one behind it. -/
inductive Leads (fs : FileSystem) (extensions : List Text) (place : Text) : Text → Prop
  | file (here : fs.isFile place = .ok true) :
      Leads fs extensions place (Path.absolute fs.cwdPath place)
  | behind {path : Text} (absent : fs.isFile place = .ok false)
      (found : Behind fs extensions place path) : Leads fs extensions place path

/-! ### First files -/

variable {fs : FileSystem} {isFile : Text → Except Fault Bool} {extensions : List Text}

theorem hits_cons {candidate c : Text} {rest : List Text} :
    Hits isFile (c :: rest) candidate ↔
      (isFile c = .ok true ∧ candidate = c) ∨ (isFile c = .ok false ∧ Hits isFile rest candidate) := by
  constructor
  · rintro ⟨before, after, heq, hbefore, hfile⟩
    cases before with
    | nil =>
      obtain ⟨rfl, _⟩ := List.cons.inj heq
      exact .inl ⟨hfile, rfl⟩
    | cons b before =>
      obtain ⟨rfl, hrest⟩ := List.cons.inj heq
      exact .inr ⟨hbefore c (by simp), before, after, hrest, fun x hx => hbefore x (by simp [hx]), hfile⟩
  · rintro (⟨hfile, rfl⟩ | ⟨hmiss, before, after, rfl, hbefore, hfile⟩)
    · exact ⟨[], rest, rfl, by simp, hfile⟩
    · exact ⟨c :: before, after, rfl, List.forall_mem_cons.2 ⟨hmiss, hbefore⟩, hfile⟩

/-- The first file of a list of candidates has only misses before it. -/
theorem firstFile_eq_some {candidates : List Text} {path : Text} :
    firstFile fs isFile candidates = .ok (some path) ↔
      ∃ c, Hits isFile candidates c ∧ path = Path.absolute fs.cwdPath c := by
  induction candidates with
  | nil => simp [firstFile, Hits]
  | cons c rest ih =>
    rw [firstFile]
    simp only [hits_cons]
    cases hfile : isFile c with
    | error fault => simp
    | ok there =>
      cases there with
      | true => simp [eq_comm]
      | false => simpa using ih

theorem firstFile_eq_none {candidates : List Text} :
    firstFile fs isFile candidates = .ok none ↔ Misses isFile candidates := by
  induction candidates with
  | nil => simp [firstFile, Misses]
  | cons c rest ih =>
    rw [firstFile, Misses, List.forall_mem_cons, ← Misses]
    cases hfile : isFile c with
    | error fault => simp
    | ok there =>
      cases there with
      | true => simp
      | false => simpa using ih

/-! ### Targets -/

theorem exists_hit_of_mainFile {directory path : Text} {main : Option Text}
    (h : mainFile fs extensions directory main = .ok (some path)) :
    ∃ name, main = some name
      ∧ ∃ c, Hits fs.isSpelledFile (mainCandidates extensions directory name) c
        ∧ path = Path.absolute fs.cwdPath c := by
  cases main with
  | none => exact absurd h (by simp [mainFile])
  | some name => exact ⟨name, rfl, firstFile_eq_some.1 h⟩

theorem loadDirectory_eq_some {place path : Text} :
    loadDirectory fs extensions place = .ok (some path) ↔ InDirectory fs extensions place path := by
  constructor
  · intro h
    rw [loadDirectory] at h
    split at h
    · exact absurd h (by simp)
    · exact absurd h (by simp)
    · next hdirectory =>
      cases hpackage : packageMain fs place with
      | error fault =>
        rw [hpackage] at h
        exact absurd h (by simp [Except.bind])
      | ok main =>
        rw [hpackage] at h
        simp only [Except.bind] at h
        split at h
        · exact absurd h (by simp)
        · next found hfound =>
          cases h
          exact .main hdirectory hpackage hfound
        · next hsilent =>
          obtain ⟨c, hit, rfl⟩ := firstFile_eq_some.1 h
          exact .index hdirectory hpackage hsilent hit
  · intro h
    cases h with
    | main directory package found =>
      simp only [loadDirectory, directory, package, Except.bind, found]
    | index directory package silent hit =>
      simp only [loadDirectory, directory, package, Except.bind, silent]
      exact firstFile_eq_some.2 ⟨_, hit, rfl⟩

/-- Looking a target up finds the file that its place leads to, and only that. -/
theorem load_eq_some {place path : Text} :
    load fs extensions place = .ok (some path) ↔ Leads fs extensions place path := by
  have htried : fileCandidates extensions place = place :: triedAt extensions place := rfl
  rw [load, htried]
  constructor
  · intro h
    split at h
    · exact absurd h (by simp)
    · next found hfound =>
      cases h
      obtain ⟨c, hit, rfl⟩ := firstFile_eq_some.1 hfound
      rcases hits_cons.1 hit with ⟨hfile, rfl⟩ | ⟨habsent, hit⟩
      · exact .file hfile
      · exact .behind habsent (.tried hit)
    · next hnone =>
      obtain ⟨habsent, hmissed⟩ := List.forall_mem_cons.1 (firstFile_eq_none.1 hnone)
      exact .behind habsent (.inside hmissed (loadDirectory_eq_some.1 h))
  · intro h
    cases h with
    | file here => rw [firstFile_eq_some.2 ⟨_, hits_cons.2 (.inl ⟨here, rfl⟩), rfl⟩]
    | behind absent found =>
      cases found with
      | tried hit => rw [firstFile_eq_some.2 ⟨_, hits_cons.2 (.inr ⟨absent, hit⟩), rfl⟩]
      | inside missed found =>
        rw [firstFile_eq_none.2 (List.forall_mem_cons.2 ⟨absent, missed⟩)]
        exact loadDirectory_eq_some.2 found

/-! ### Specifiers -/

/-- The first place that is not silent leads to the path. -/
def FirstLeads (fs : FileSystem) (extensions : List Text) (places : List Text) (path : Text) : Prop :=
  ∃ nearer place further, places = nearer ++ place :: further
    ∧ (∀ n ∈ nearer, load fs extensions n = .ok none) ∧ Leads fs extensions place path

theorem firstLeads_cons {place path : Text} {rest : List Text} :
    FirstLeads fs extensions (place :: rest) path ↔
      Leads fs extensions place path
        ∨ (load fs extensions place = .ok none ∧ FirstLeads fs extensions rest path) := by
  constructor
  · rintro ⟨nearer, x, further, heq, hnearer, hleads⟩
    cases nearer with
    | nil =>
      obtain ⟨rfl, _⟩ := List.cons.inj heq
      exact .inl hleads
    | cons n nearer =>
      obtain ⟨rfl, hrest⟩ := List.cons.inj heq
      exact .inr ⟨hnearer place (by simp), nearer, x, further, hrest,
        fun y hy => hnearer y (by simp [hy]), hleads⟩
  · rintro (hleads | ⟨hsilent, nearer, x, further, rfl, hnearer, hleads⟩)
    · exact ⟨[], place, rest, rfl, by simp, hleads⟩
    · exact ⟨place :: nearer, x, further, rfl, List.forall_mem_cons.2 ⟨hsilent, hnearer⟩, hleads⟩

theorem firstLeads_singleton {place path : Text} :
    FirstLeads fs extensions [place] path ↔ Leads fs extensions place path := by
  rw [firstLeads_cons]
  simp [FirstLeads]

theorem loadFirst_eq_some {places : List Text} {path : Text} :
    loadFirst fs extensions places = .ok (some path) ↔ FirstLeads fs extensions places path := by
  induction places with
  | nil => simp [loadFirst, FirstLeads]
  | cons place rest ih =>
    rw [loadFirst, firstLeads_cons, ← load_eq_some]
    cases hload : load fs extensions place with
    | error fault => simp
    | ok found =>
      cases found with
      | none => simpa using ih
      | some path' => simp

/-- The places at which the file of a specifier is looked for. -/
def places (fs : FileSystem) (directory specifier : Text) : List Text :=
  if isPathLike specifier then [Path.joined directory specifier]
  else ((fs.resolved directory).toOption.map (packageTargets · specifier)).getD []

theorem places_of_isPathLike (fs : FileSystem) (directory : Text) {specifier : Text}
    (h : isPathLike specifier = true) :
    places fs directory specifier = [Path.joined directory specifier] := by
  rw [places, if_pos h]

/-- A file is looked for: the specifier is not empty and names no core module. -/
def IsSearched (specifier : Text) : Prop := specifier ≠ [] ∧ isCoreModule specifier = false

/-- The directory in which a package is looked for can be resolved. -/
def IsResolved (fs : FileSystem) (directory specifier : Text) : Prop :=
  isPathLike specifier = false → ∃ real, fs.resolved directory = .ok real

/-- Apart from specifiers that are not searched for and directories that cannot be resolved, resolving is
looking for the first place that leads anywhere. -/
theorem resolve_eq_loadFirst {directory specifier : Text} (h : IsSearched specifier)
    (hresolved : IsResolved fs directory specifier) :
    resolve fs extensions directory specifier
      = loadFirst fs extensions (places fs directory specifier) := by
  rw [resolve, places, if_neg (by simpa [IsSearched] using h)]
  by_cases hpath : isPathLike specifier = true
  · rw [if_pos hpath, if_pos hpath, loadFirst]
    cases load fs extensions (Path.joined directory specifier) with
    | error fault => rfl
    | ok found => cases found <;> rfl
  · obtain ⟨real, hreal⟩ := hresolved (by simpa using hpath)
    rw [if_neg hpath, if_neg hpath, hreal]
    rfl

/-- A specifier resolves to the file that its first place that is not silent leads to. -/
theorem resolve_eq_some {directory specifier path : Text} :
    resolve fs extensions directory specifier = .ok (some path) ↔
      IsSearched specifier ∧ FirstLeads fs extensions (places fs directory specifier) path := by
  by_cases hskip : IsSearched specifier
  · by_cases hresolved : IsResolved fs directory specifier
    · rw [resolve_eq_loadFirst hskip hresolved, loadFirst_eq_some]
      exact (and_iff_right hskip).symm
    · -- without a resolved directory there are no places
      rw [IsResolved, Classical.not_imp, not_exists] at hresolved
      obtain ⟨hpath, hnone⟩ := hresolved
      rw [resolve, places, if_neg (by simpa [IsSearched] using hskip), hpath]
      cases hreal : fs.resolved directory with
      | ok real => exact absurd hreal (hnone real)
      | error fault => simp [FirstLeads, Except.toOption]
  · rw [resolve, if_pos (by simpa [IsSearched, Decidable.or_iff_not_imp_left] using hskip)]
    simp [hskip]

end SpecifierLint.Resolution
