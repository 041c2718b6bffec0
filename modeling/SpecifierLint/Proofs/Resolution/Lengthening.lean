/-
Specifiers that are lengthened.

A specifier that is no package name and the specifier with an extension behind it are looked for in
the same way.  If the specifier ends in a name, its places with the extension behind them are those of
the longer specifier, and what the places lead to can be told from one directory each.  Main
statements:

* **`isSearched_append`** — a longer specifier is looked up if the specifier is;
* **`places_append`** — the places of a longer specifier are those of the specifier, lengthened;
* **`exists_directory_of_leads`** — a place that leads to a file stands in a directory;
* **`leads_append_iff`** — when a lengthened place leads where the place leads.
-/
import SpecifierLint.Proofs.Disk.Spelled
import SpecifierLint.Proofs.Resolution.Search
import SpecifierLint.Rule.Exemption

namespace SpecifierLint.Resolution

/-! ### The kind of a specifier -/

/-- What a specifier that is not all points starts with decides whether it is a path. -/
theorem isPathLike_append {s : Text} (h : s.all (· = '.') = false) (t : Text) :
    isPathLike (s ++ t) = isPathLike s := by
  -- the first three characters decide, and a shorter specifier has one that is no point
  match s, h with
  | a :: b :: c :: rest, _ => simp [isPathLike, Path.isAbsolute, List.isPrefixOf]
  | [a, b], h =>
    by_cases ha : a = '.'
    · have hb : ¬ b = '.' := by simpa [ha] using h
      have hpoint : ('.' == b) = false := by simpa using Ne.symm hb
      simp [isPathLike, Path.isAbsolute, List.isPrefixOf, hb, hpoint]
    · have hpoint : ('.' == a) = false := by simpa using Ne.symm ha
      simp [isPathLike, Path.isAbsolute, List.isPrefixOf, ha, hpoint]
  | [a], h =>
    have ha : a ≠ '.' := by simpa using h
    have hpoint : ('.' == a) = false := by simpa using ha.symm
    simp [isPathLike, Path.isAbsolute, List.isPrefixOf, ha, hpoint]

theorem exists_cons_of_isPathLike {s : Text} (h : isPathLike s = true) :
    ∃ c rest, s = c :: rest ∧ (c = '.' ∨ c = '/') := by
  cases s with
  | nil => exact absurd h (by decide)
  | cons c rest =>
    refine ⟨c, rest, rfl, ?_⟩
    simp only [isPathLike, Bool.or_eq_true, decide_eq_true_eq, List.isPrefixOf_iff_prefix] at h
    rcases h with (((h | h) | h) | h) | h
    · exact .inl (List.cons.inj h).1
    · exact .inl (List.cons.inj h).1
    · exact .inl (List.cons_prefix_cons.1 h).1.symm
    · exact .inl (List.cons_prefix_cons.1 h).1.symm
    · exact .inr (by simpa [Path.isAbsolute] using h)

theorem isCoreModule_of_isPathLike {s : Text} (h : isPathLike s = true) : isCoreModule s = false := by
  obtain ⟨c, rest, rfl, hc⟩ := exists_cons_of_isPathLike h
  have hnone : coreModules.any (fun name => name = [] || name.head? = some '.') = false := by decide
  rw [isCoreModule, Bool.or_eq_false_iff, List.contains_eq_mem, decide_eq_false_iff_not]
  refine ⟨?_, fun hmem => List.any_eq_false.1 hnone _ hmem ?_⟩
  · rcases hc with rfl | rfl <;> rfl
  · rcases hc with rfl | rfl <;> simp

theorem exists_isSlash_of_not_isPackageName {s : Text} (hne : s ≠ [])
    (h : Rule.isPackageName s = false) : ∃ c ∈ s, Rule.isSlash c = true := by
  simp only [Rule.isPackageName, Bool.or_eq_false_iff] at h
  simpa [Rule.isSegment, hne] using h.1

theorem not_all_points_of_isSlash {s : Text} (h : ∃ c ∈ s, Rule.isSlash c = true) :
    s.all (· = '.') = false := by
  obtain ⟨c, hc, hslash⟩ := h
  rw [List.all_eq_false]
  refine ⟨c, hc, ?_⟩
  intro hdot
  rw [decide_eq_true_eq] at hdot
  rw [hdot] at hslash
  exact absurd hslash (by decide)

theorem isCoreModule_append {s : Text} (hslash : ∃ c ∈ s, Rule.isSlash c = true)
    (h : isCoreModule s = false) (t : Text) : isCoreModule (s ++ t) = false := by
  rw [isCoreModule, Bool.or_eq_false_iff] at h ⊢
  obtain ⟨c, hc, hslash⟩ := hslash
  refine ⟨?_, ?_⟩
  · rw [Bool.eq_false_iff, ne_eq, List.isPrefixOf_iff_prefix]
    intro hprefix
    rcases List.prefix_or_prefix_of_prefix hprefix (List.prefix_append s t) with hp | hp
    · rw [← List.isPrefixOf_iff_prefix, h.1] at hp
      exact absurd hp (by simp)
    · -- the specifier would stop inside the scheme, which has no slash
      have hmem := hp.subset hc
      have hnone : ("node:" : Text).any Rule.isSlash = false := by decide
      exact absurd hslash (List.any_eq_false.1 hnone c hmem)
  · rw [List.takeWhile_append]
    split
    · -- without a slash the character is a backslash, which no name of a core module has
      have hnone : coreModules.any (·.any Rule.isSlash) = false := by decide
      rw [List.contains_eq_mem, decide_eq_false_iff_not]
      intro hmem
      have hname := List.any_eq_false.1 hnone _ hmem
      exact hname (List.any_eq_true.2 ⟨c, List.mem_append_left _ hc, hslash⟩)
    · exact h.2

/-- A longer specifier is looked up if the specifier is and has a slash. -/
theorem isSearched_append {s : Text} (hslash : ∃ c ∈ s, Rule.isSlash c = true)
    (h : IsSearched s) (t : Text) : IsSearched (s ++ t) := by
  obtain ⟨hne, hcore⟩ := h
  exact ⟨by simp [hne], isCoreModule_append hslash hcore t⟩

/-! ### Places -/

variable {d : Disk} {fs : FileSystem} {extensions : List Text} {directory s t : Text}

/-- The places of a longer specifier are those of the specifier, lengthened. -/
theorem places_append (hs : Path.EndsInName s) (hpoints : s.all (· = '.') = false) (ht : '/' ∉ t) :
    places fs directory (s ++ t) = (places fs directory s).map (· ++ t) := by
  rw [places, places, isPathLike_append hpoints]
  split
  · rw [Path.joined_append directory hs ht]
    rfl
  · cases fs.resolved directory with
    | error fault => rfl
    | ok real =>
      simp only [Except.toOption, Option.map_some, Option.getD_some, packageTargets, List.map_map]
      refine List.map_congr_left fun place _ => ?_
      exact Path.joined_append _ hs ht

/-- Every place of a specifier that ends in a name ends in this name. -/
theorem hasLast_of_mem_places (hs : Path.EndsInName s) {place : Text}
    (h : place ∈ places fs directory s) : ∃ front, Path.HasLast place front (Path.baseName s) := by
  rw [places] at h
  split at h
  · rw [List.mem_singleton.1 h]
    exact Path.hasLast_joined directory hs
  · cases hreal : fs.resolved directory with
    | error fault =>
      rw [hreal] at h
      exact absurd h (by simp [Except.toOption])
    | ok real =>
      rw [hreal] at h
      obtain ⟨at', _, rfl⟩ := List.mem_map.1 h
      exact Path.hasLast_joined _ hs

/-! ### What lengthened places lead to -/

/-- A place leads to the absolute form of a spelled path that leads to a file. -/
theorem exists_file_of_leads {place path : Text} (h : Leads d extensions place path) :
    ∃ x l content, d.walk (Path.unspelled x) = .ok l ∧ d.entryAt? l = some (.file content)
      ∧ path = Path.absolute d.cwdPath x := by
  have hplain {x : Text} (hx : d.isFile x = .ok true) :
      ∃ l content, d.walk (Path.unspelled x) = .ok l ∧ d.entryAt? l = some (.file content) := by
    obtain ⟨l, content, hwalk, hentry⟩ := Disk.isFile_eq_true.1 hx
    refine ⟨l, content, ?_, hentry⟩
    rwa [Path.unspelled_of_plain (Disk.walk_eq_ok.1 hwalk).1]
  cases h with
  | file here =>
    obtain ⟨l, content, hwalk, hentry⟩ := hplain here
    exact ⟨_, l, content, hwalk, hentry, rfl⟩
  | behind absent found =>
    cases found with
    | tried hit =>
      obtain ⟨_, _, _, _, hfile⟩ := hit
      obtain ⟨l, content, hwalk, hentry⟩ := hplain hfile
      exact ⟨_, l, content, hwalk, hentry, rfl⟩
    | inside missed found =>
      cases found with
      | main directory package found =>
        -- only here the path can be a spelled one
        obtain ⟨_, _, c, ⟨_, _, _, _, hfile⟩, hpath⟩ := exists_hit_of_mainFile found
        obtain ⟨_, l, content, hwalk, hentry⟩ := Disk.isSpelledFile_eq_true.1 hfile
        exact ⟨c, l, content, hwalk, hentry, hpath⟩
      | index directory package silent hit =>
        obtain ⟨_, _, _, _, hfile⟩ := hit
        obtain ⟨l, content, hwalk, hentry⟩ := hplain hfile
        exact ⟨_, l, content, hwalk, hentry, rfl⟩

variable {place path name : Text} {front : List Text}

theorem base_append (h : place ≠ []) (t : Text) : d.base (place ++ t) = d.base place := by
  rw [Disk.base, Disk.base, Path.isAbsolute_append h]

theorem base_clean (path : Text) : d.base (Path.clean path) = d.base path := by
  rw [Disk.base, Disk.base, Path.isAbsolute_clean]

/-- A place that leads to a file stands in a directory. -/
theorem exists_directory_of_leads (h : Path.HasLast place front name)
    (hleads : Leads d extensions place path) :
    ∃ m, d.walkFrom (d.base place) front = .ok m ∧ d.entryAt? m = some .directory := by
  have hwalk : ∀ {l : Location}, d.walk place = .ok l →
      ∃ m, d.walkFrom (d.base place) front = .ok m ∧ d.entryAt? m = some .directory := by
    intro l hl
    obtain ⟨_, _, m, hfront, hlast⟩ := (Disk.walk_eq_ok_of_hasLast h).1 hl
    exact ⟨m, hfront, (Disk.walkFrom_cons_eq_ok.1 hlast).1⟩
  cases hleads with
  | file here =>
    obtain ⟨l, _, hl, _⟩ := Disk.isFile_eq_true.1 here
    exact hwalk hl
  | behind absent found =>
    cases found with
    | tried hit =>
      -- whatever extension was tried, the walk went along the front first
      obtain ⟨before, after, heq, _, hfile⟩ := hit
      obtain ⟨e, _, rfl⟩ := List.mem_map.1 (heq ▸ List.mem_append_right before (List.mem_cons_self ..))
      obtain ⟨l, _, hl, _⟩ := Disk.isFile_eq_true.1 hfile
      obtain ⟨_, _, _, hfrom⟩ := Disk.walk_eq_ok.1 hl
      have hparts := Disk.walkFrom_parts hfrom
      obtain ⟨c, rest, hlong⟩ := h.exists_parts_append e
      rw [← Disk.base, Path.parts_clean, hlong, base_clean, base_append h.ne_nil,
        Disk.walkFrom_append_eq_ok] at hparts
      obtain ⟨m, hfront, hmore⟩ := hparts
      exact ⟨m, hfront, (Disk.walkFrom_cons_eq_ok.1 hmore).1⟩
    | inside missed found =>
      have hdirectory : d.isDirectory place = .ok true := by
        cases found with
        | main directory package found => exact directory
        | index directory package silent hit => exact directory
      obtain ⟨l, hl, _⟩ := Disk.isDirectory_eq_true.1 hdirectory
      exact hwalk hl

/-- A place finds the file of a path again: it has no stray bytes, can be tested and spells the path, or it is
no file and has the path behind it. -/
def Refinds (d : Disk) (extensions : List Text) (place path : Text) : Prop :=
  ('\x00' ∉ path ∧ d.isTestable place = true ∧ Path.absolute d.cwdPath place = path)
    ∨ (d.isFile place = .ok false ∧ Behind d extensions place path)

/-- If a place leads to a path, the lengthened place leads there too exactly if it finds it again. -/
theorem leads_append_iff (hd : d.HasPlace) (h : Path.HasLast place front name) (ht : '/' ∉ t)
    (hne : t ≠ []) (hleads : Leads d extensions place path) :
    Leads d extensions (place ++ t) path ↔ Refinds d extensions (place ++ t) path := by
  constructor
  · intro hlong
    cases hlong with
    | file here =>
      obtain ⟨l, content, hwalk, hentry⟩ := Disk.isFile_eq_true.1 here
      refine .inl ⟨Disk.zero_not_mem_absolute hd hwalk (by rw [hentry]; rfl), ?_, rfl⟩
      rw [Disk.isTestable, ← Disk.fileSystem_isFile, here]
      rfl
    | behind absent found => exact .inr ⟨absent, found⟩
  · rintro (⟨hplain, hshort, hpath⟩ | ⟨habsent, hfound⟩)
    · obtain ⟨x, l, content, hl, hentry, hx⟩ := exists_file_of_leads hleads
      obtain ⟨m, hfront, hdir⟩ := exists_directory_of_leads h hleads
      have hdown := Path.isDown_append h.isPart_name ht hne
      -- the longer place is spelled like the file, so the file stands in its directory
      have hplace : m ++ [name ++ t] = l := by
        rw [← Disk.parts_absolute_of_walk_unspelled hd (hx ▸ hplain) hl, ← hx, ← hpath,
          ← Disk.foldl_follow_base hd, (h.append ht).parts_eq, base_append h.ne_nil,
          List.foldl_append, ← Disk.eq_follow_of_walkFrom hfront]
        exact (Path.follow_of_isDown hdown).symm
      have hhere : d.isFile (place ++ t) = .ok true := by
        refine Disk.isFile_of_entryAt? (h.append ht) hdown ?_ hdir (hplace ▸ hentry) hshort
        rw [base_append h.ne_nil]
        exact hfront
      exact hpath ▸ .file hhere
    · exact .behind habsent hfound

end SpecifierLint.Resolution
