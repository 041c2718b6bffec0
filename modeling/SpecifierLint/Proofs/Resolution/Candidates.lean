/-
The candidates of a search.

The search for the file of a specifier looks at one list of candidates, in which the targets of the
specifier follow each other: each target itself, the target with each extension to try, and, if it is a
directory, the main file that its package names and its index.  What the search answers is the first
regular file of this list.  This holds on everything that answers the questions of a search, whatever links
there are.  Main statements:

* **`packageTargets_eq`** — the places of a package lie at and above a directory, nearest first;
* **`load_eq_ok`**, **`loadFirst_eq_ok`** — what is found at a target, and at several;
* **`resolve_eq_ok_iff`** — a search that nothing it looks at makes fail answers the first regular file
  of the candidates, and every other search fails;
* **`resolve_passes_lexical_site`** — the places of a package lie above the resolved directory, not above
  the directory as it is written.
-/
import Mathlib.Data.List.Infix
import SpecifierLint.Proofs.Resolution.Faults

namespace SpecifierLint.Resolution

/-! ### Candidates -/

/-- A path that is tested, and whether it is a spelled one. -/
structure Candidate where
  path : Text
  isSpelled : Bool := false
  deriving DecidableEq, Repr

/-- The candidate is a regular file. -/
def Candidate.isFile (fs : FileSystem) (c : Candidate) : Except Fault Bool :=
  if c.isSpelled then fs.isSpelledFile c.path else fs.isFile c.path

/-- The main file that the description of a package names: the description can be parsed, and has a
text under the key `main` that is not empty. -/
def named (room : Nat) (document : Text) : Option Text :=
  ((Json.read spelledOdd room document).toOption.bind mainText?).filter (! ·.isEmpty)

/-- The main file that the package of a directory names, if its description is a file that can be read. -/
def namedMain (fs : FileSystem) (directory : Text) : Option Text :=
  let description := Path.joined directory "package.json"
  if fs.isFile description = .ok true then
    (fs.readText description).toOption.bind (named fs.packageRoom)
  else none

/-- The candidates in a directory: those for the main file of its package, and its index. -/
def candidatesIn (fs : FileSystem) (extensions : List Text) (directory : Text) : List Candidate :=
  (((namedMain fs directory).map (mainCandidates extensions directory)).getD []).map (⟨·, true⟩)
    ++ (indexCandidates extensions directory).map (⟨·, false⟩)

/-- The candidates of a target: the target, the target with each extension, and what is in it if it is
a directory. -/
def candidatesAt (fs : FileSystem) (extensions : List Text) (target : Text) : List Candidate :=
  (fileCandidates extensions target).map (⟨·, false⟩)
    ++ if fs.isDirectory target = .ok true then candidatesIn fs extensions target else []

/-- The directories at and above a resolved one whose packages are looked at, by their parts, nearest
first; one that is itself called `node_modules` is passed over. -/
def packageSites (real : Text) : List Location :=
  (Path.parts real).inits.reverse.filter fun l => l.getLast? ≠ some ("node_modules" : Text)

/-- The targets of a specifier: a path is seen from the directory of the importing file, and anything
else is looked for in the `node_modules` of each site of the resolved directory. -/
def targetsFrom (fs : FileSystem) (directory specifier : Text) : List Text :=
  if isPathLike specifier then [Path.joined directory specifier]
  else
    match fs.resolved directory with
    | .error _ => []
    | .ok real => (packageSites real).map fun l =>
        Path.joined (Path.render (Path.root real) (l ++ [("node_modules" : Text)])) specifier

/-- All candidates of a specifier. -/
def candidates (fs : FileSystem) (extensions : List Text) (directory specifier : Text) :
    List Candidate :=
  (targetsFrom fs directory specifier).flatMap (candidatesAt fs extensions)

/-- The first regular file among candidates, as an absolute path. -/
def firstRegular (fs : FileSystem) (cs : List Candidate) : Option Text :=
  (cs.find? fun c => c.isFile fs = .ok true).map fun c => Path.absolute fs.cwdPath c.path

/-- The specifier names no file: it is empty, has the scheme of the core modules, or its first segment
is the name of one. -/
def NamesNoFile (specifier : Text) : Prop :=
  specifier = [] ∨ ("node:" : Text) <+: specifier
    ∨ ∃ name ∈ coreModules, (Text.split '/' specifier).head? = some name

instance (specifier : Text) : Decidable (NamesNoFile specifier) :=
  inferInstanceAs (Decidable (specifier = [] ∨ ("node:" : Text) <+: specifier
    ∨ ∃ name ∈ coreModules, (Text.split '/' specifier).head? = some name))

variable {fs : FileSystem} {extensions : List Text} {directory specifier : Text}

/-! ### Targets -/

/-- The places of a package are in the `node_modules` of the sites. -/
theorem packageTargets_eq (real specifier : Text) :
    packageTargets real specifier
      = (packageSites real).map fun l =>
          Path.joined (Path.render (Path.root real) (l ++ [("node_modules" : Text)])) specifier := by
  have hroot := Path.isRoot_root real
  have hpart : ∀ c ∈ Path.parts real, Path.IsPart c := fun c hc => Path.isPart_of_mem_parts hc
  have hfront : ∀ m ∈ (Path.parts real).inits.reverse, ∀ c ∈ m, Path.IsPart c := by
    intro m hm c hc
    exact hpart c (((List.mem_inits m _).1 (List.mem_reverse.1 hm)).subset hc)
  -- the ancestors are the fronts of the parts, the longest one first
  have hancestry : Path.ancestry real
      = (Path.parts real).inits.reverse.map (Path.render (Path.root real)) := by
    have hinits : (Path.parts real).inits
        = (List.range ((Path.parts real).length + 1)).map ((Path.parts real).take ·) := by
      refine List.ext_getElem (by simp) fun n hn _ => ?_
      rw [List.getElem_inits]
      simp
    rw [Path.ancestry, hinits, ← List.map_reverse, List.map_map]
    rfl
  rw [packageTargets, packageSites, hancestry, List.filter_map, List.map_map]
  -- a path is kept by its last part, which is the last name of the front
  have hkept : (Path.parts real).inits.reverse.filter
        ((fun path => decide (Path.lastPart path ≠ ("node_modules" : Text)))
          ∘ Path.render (Path.root real))
      = (Path.parts real).inits.reverse.filter
          fun m => decide (m.getLast? ≠ some ("node_modules" : Text)) := by
    refine List.filter_congr fun m hm => ?_
    rw [Function.comp_apply, Path.lastPart, Path.parts_render hroot (hfront m hm), decide_eq_decide,
      List.getLastD_eq_getLast?]
    cases m.getLast? with
    | none => simp
    | some name => simp
  rw [hkept]
  refine List.map_congr_left fun m hm => ?_
  have hm := hfront m (List.mem_filter.1 hm).1
  have hmodules : Path.IsPart ("node_modules" : Text) := by decide
  rw [Function.comp_apply, Path.joined_eq (Path.render (Path.root real) m), if_neg (by decide),
    Path.parts_render hroot hm, Path.root_render hroot hm, Path.parts_of_isPart hmodules]

theorem targetsFrom_eq (fs : FileSystem) (directory specifier : Text) :
    targetsFrom fs directory specifier = places fs directory specifier := by
  rw [targetsFrom, places]
  simp only [packageTargets_eq]
  cases fs.resolved directory <;> rfl

example : targetsFrom ({} : Disk) "/a/node_modules/b" "x"
    = ["/a/node_modules/b/node_modules/x", "/a/node_modules/x", "/node_modules/x"].map String.toList := by
  decide +kernel

/-! ### What is found -/

theorem firstRegular_append (as bs : List Candidate) :
    firstRegular fs (as ++ bs) = (firstRegular fs as).or (firstRegular fs bs) := by
  rw [firstRegular, List.find?_append, Option.map_or]
  rfl

theorem firstFile_eq_ok {isFile : Text → Except Fault Bool} {isSpelled : Bool} {paths : List Text}
    {r : Option Text} (htest : ∀ path, Candidate.isFile fs ⟨path, isSpelled⟩ = isFile path)
    (h : firstFile fs isFile paths = .ok r) :
    r = firstRegular fs (paths.map (⟨·, isSpelled⟩)) := by
  induction paths with
  | nil =>
    cases h
    rfl
  | cons path rest ih =>
    rw [firstFile] at h
    split at h
    · exact absurd h (by simp)
    · next hfile =>
      cases h
      simp [firstRegular, htest, hfile]
    · next hfile =>
      rw [ih h]
      simp [firstRegular, htest, hfile]

theorem firstFile_isFile_eq_ok {paths : List Text} {r : Option Text}
    (h : firstFile fs fs.isFile paths = .ok r) : r = firstRegular fs (paths.map (⟨·, false⟩)) :=
  firstFile_eq_ok (fun _ => rfl) h

/-! ### Packages -/

theorem mainOf_eq_ok {room : Nat} {document : Text} {main : Option Text}
    (h : mainOf room document = .ok main) : main = named room document := by
  rw [mainOf] at h
  rw [named]
  cases hread : Json.read spelledOdd room document with
  | error e =>
    rw [hread] at h
    cases e with
    | tooDeep => exact absurd h (by simp)
    | malformed =>
      cases h
      rfl
  | ok value =>
    rw [hread] at h
    cases h
    rfl

theorem packageMain_eq_ok {main : Option Text} (h : packageMain fs directory = .ok main) :
    main = namedMain fs directory := by
  rw [packageMain] at h
  rw [namedMain]
  split at h
  · exact absurd h (by simp)
  · next hno =>
    cases h
    rw [hno, if_neg (by simp)]
  · next hthere =>
    rw [if_pos hthere]
    cases htext : fs.readText (Path.joined directory "package.json") with
    | error fault =>
      rw [htext] at h
      cases h
      rfl
    | ok document =>
      rw [htext] at h
      exact mainOf_eq_ok h

theorem mainFile_eq_ok {main : Option Text} {r : Option Text}
    (hpackage : packageMain fs directory = .ok main)
    (h : mainFile fs extensions directory main = .ok r) :
    r = firstRegular fs ((((namedMain fs directory).map
      (mainCandidates extensions directory)).getD []).map (⟨·, true⟩)) := by
  rw [← packageMain_eq_ok hpackage]
  cases main with
  | none =>
    cases h
    rfl
  | some name => exact firstFile_eq_ok (fun _ => rfl) h

/-! ### Targets -/

/-- In a directory, the candidates of its package come before its index. -/
theorem loadDirectory_eq_ok {r : Option Text} (h : loadDirectory fs extensions directory = .ok r) :
    r = firstRegular fs
      (if fs.isDirectory directory = .ok true then candidatesIn fs extensions directory else []) := by
  rw [loadDirectory] at h
  split at h
  · exact absurd h (by simp)
  · next hno =>
    cases h
    rw [hno, if_neg (by simp)]
    rfl
  · next hdirectory =>
    rw [if_pos hdirectory, candidatesIn, firstRegular_append]
    cases hpackage : packageMain fs directory with
    | error fault =>
      rw [hpackage] at h
      exact absurd h (by simp [Except.bind])
    | ok main =>
      rw [hpackage] at h
      simp only [Except.bind] at h
      split at h
      · exact absurd h (by simp)
      · next path hmain =>
        cases h
        rw [← mainFile_eq_ok hpackage hmain]
        rfl
      · -- none of the candidates of the package is a file
        next hmain =>
        rw [← mainFile_eq_ok hpackage hmain, firstFile_isFile_eq_ok h]
        rfl

/-- What is found at a target is the first file of its candidates. -/
theorem load_eq_ok {target : Text} {r : Option Text} (h : load fs extensions target = .ok r) :
    r = firstRegular fs (candidatesAt fs extensions target) := by
  rw [load] at h
  rw [candidatesAt, firstRegular_append]
  split at h
  · exact absurd h (by simp)
  · next path hfile =>
    cases h
    rw [← firstFile_isFile_eq_ok hfile]
    rfl
  · next hfile =>
    rw [← firstFile_isFile_eq_ok hfile, loadDirectory_eq_ok h]
    rfl

/-- What is found at several targets is the first file of their candidates, one after the other. -/
theorem loadFirst_eq_ok {targets : List Text} {r : Option Text}
    (h : loadFirst fs extensions targets = .ok r) :
    r = firstRegular fs (targets.flatMap (candidatesAt fs extensions)) := by
  induction targets with
  | nil =>
    cases h
    rfl
  | cons target rest ih =>
    rw [loadFirst] at h
    rw [List.flatMap_cons, firstRegular_append]
    split at h
    · exact absurd h (by simp)
    · next path hload =>
      cases h
      rw [← load_eq_ok hload]
      rfl
    · next hload =>
      rw [← load_eq_ok hload, ← ih h]
      rfl

/-! ### Specifiers -/

theorem isSearched_iff : IsSearched specifier ↔ ¬ NamesNoFile specifier := by
  have hnone : isCoreModule specifier = true ↔ ("node:" : Text) <+: specifier
      ∨ ∃ name ∈ coreModules, (Text.split '/' specifier).head? = some name := by
    rw [isCoreModule, Text.head?_split]
    simp
  rw [IsSearched, NamesNoFile, not_or, ← hnone, Bool.not_eq_true]

/-- A search that comes to an end answers the first regular file of the candidates. -/
theorem eq_firstRegular_of_resolve {r : Option Text}
    (h : resolve fs extensions directory specifier = .ok r) :
    r = if NamesNoFile specifier then none
        else firstRegular fs (candidates fs extensions directory specifier) := by
  split
  · next hnone =>
    have hskip : ¬ IsSearched specifier := fun hsearched => isSearched_iff.1 hsearched hnone
    rw [resolve, if_pos (by simpa [IsSearched, Decidable.or_iff_not_imp_left] using hskip)] at h
    exact (Except.ok.inj h).symm
  · next hsome =>
    have hsearched : IsSearched specifier := isSearched_iff.2 hsome
    have hresolved : IsResolved fs directory specifier := by
      intro hpath
      cases hreal : fs.resolved directory with
      | ok real => exact ⟨real, rfl⟩
      | error fault =>
        rw [resolve_eq_error.2 (.directory hsearched hpath hreal)] at h
        exact absurd h (by simp)
    rw [resolve_eq_loadFirst hsearched hresolved] at h
    rw [candidates, targetsFrom_eq]
    exact loadFirst_eq_ok h

/-- A search that nothing it looks at makes fail has an answer: nothing, if the specifier names no file,
and else the first regular file of the candidates, or nothing if none of them is one.  Every other search
fails. -/
theorem resolve_eq_ok_iff (fs : FileSystem) (extensions : List Text) (directory specifier : Text)
    (r : Option Text) :
    resolve fs extensions directory specifier = .ok r ↔
      (∀ fault, ¬ SearchFault fs extensions directory specifier fault)
        ∧ r = if NamesNoFile specifier then none
              else firstRegular fs (candidates fs extensions directory specifier) := by
  constructor
  · intro h
    refine ⟨fun fault hfault => ?_, eq_firstRegular_of_resolve h⟩
    rw [resolve_eq_error.2 hfault] at h
    exact absurd h (by simp)
  · rintro ⟨hends, rfl⟩
    cases hresolve : resolve fs extensions directory specifier with
    | error fault => exact absurd (resolve_eq_error.1 hresolve) (hends fault)
    | ok found => rw [← eq_firstRegular_of_resolve hresolve]

/-- The targets of a package in the `node_modules` of a directory as it is written, and of those above. -/
def lexicalTargets (directory specifier : Text) : List Text :=
  ((Path.ancestry directory).filter (Path.lastPart · ≠ ("node_modules" : Text))).map fun site =>
    Path.joined (Path.joined site "node_modules") specifier

/-- A package in a directory that a path goes through and leaves again. -/
def leftDisk : Disk where
  entries :=
    [(["lib".toList], .directory), (["lib".toList, "node_modules".toList], .directory),
     (["lib".toList, "node_modules".toList, "x.js".toList], .file (.text []))]

/-- The package stands in the `node_modules` above the directory as it is written, but not above the
resolved directory, and is not found. -/
theorem resolve_passes_lexical_site :
    NamesNoFile "x" = False ∧ isPathLike "x" = false
      ∧ firstRegular leftDisk ((lexicalTargets "/lib/.." "x").flatMap
          (candidatesAt leftDisk [(".js" : Text)])) = some "/lib/node_modules/x.js"
      ∧ resolve leftDisk [(".js" : Text)] "/lib/.." "x" = .ok none := by
  refine ⟨?_, by decide, by decide +kernel, by decide +kernel⟩
  exact eq_false (by decide +kernel)

end SpecifierLint.Resolution
