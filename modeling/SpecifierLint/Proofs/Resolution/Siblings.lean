/-
Siblings and the extensions to try.

The siblings of a file are the names in its directory that its stem starts.  A place with an extension
behind it that leads to a file of the same stem therefore shows up among them, so a file with a single
sibling is the only one that the place with an extension to try can lead to.  Main statements:

* **`mem_extensions_of_isFile`** — a file at the same place with another extension is a sibling;
* **`eq_of_single_sibling`** — if there is one sibling only, no other extension leads to a file;
* **`leads_iff_of_single_sibling`** — when the place without the extension still leads to the file.
-/
import SpecifierLint.Proofs.Resolution.Lengthening
import SpecifierLint.Proofs.Rule.Fix
import SpecifierLint.Run.Check

namespace SpecifierLint

variable {d : Disk}

/-! ### Listed names -/

namespace Run

theorem exists_directory_of_listing {directory : Text} {names : List Text}
    (h : listing d directory = some names) :
    ∃ m, d.walk (if directory.isEmpty then ['.'] else Path.unspelled directory) = .ok m
      ∧ names = d.namesIn m := by
  rw [listing, Disk.list] at h
  cases hreach : d.reach (if directory.isEmpty then ['.'] else Path.unspelled directory) with
  | error e =>
    rw [hreach] at h
    exact absurd h (by simp [Except.toOption])
  | ok found =>
    obtain ⟨m, entry⟩ := found
    rw [hreach] at h
    cases entry with
    | file content => exact absurd h (by simp [Except.toOption])
    | directory =>
      dsimp only at h
      split at h
      · exact absurd h (by simp [Except.toOption])
      · cases h
        exact ⟨m, (Disk.reach_eq_ok.1 hreach).1, rfl⟩

theorem slash_not_mem_of_listing {directory name : Text} {names : List Text}
    (h : listing d directory = some names) (hname : name ∈ names) : '/' ∉ name := by
  obtain ⟨m, _, rfl⟩ := exists_directory_of_listing h
  have hentry := Disk.isEntryName_of_entryAt? (Disk.mem_namesIn.1 hname) name (by simp)
  exact (Path.isDown_of_isEntryName hentry).1.2.2

/-- The directory of an absolute clean path lists the names at the location that its front spells. -/
theorem eq_namesIn_of_listing {path name : Text} {m names : List Text}
    (habs : Path.isAbsolute path = true) (hlast : Path.HasLast path m name)
    (hdown : ∀ c ∈ m, Path.IsDown c) (hnames : listing d (Path.dirName path) = some names) :
    names = d.namesIn (m.map Path.spelledName) := by
  have hparts : Path.parts (Path.dirName path) = m := by
    rw [Path.dirName_of_hasLast hlast habs,
      Path.parts_render (Path.isRoot_root path) hlast.isPart_front]
  have hdirectory := Path.isAbsolute_dirName habs
  obtain ⟨l, hwalk, rfl⟩ := exists_directory_of_listing hnames
  rw [if_neg (by simpa using Path.ne_nil_of_isAbsolute hdirectory)] at hwalk
  rw [← Disk.map_spelledName_climbed hdirectory hwalk, hparts, Path.climbed_of_isDown hdown]

end Run

theorem Rule.Breaks.slash_not_mem_extension {p : Policy} {t : Target} {v : Violation}
    (h : Rule.Breaks p (Run.listing d) t v) : '/' ∉ v.extension := by
  have hcanonical : ∀ found : Text, '/' ∉ found → '/' ∉ Rule.canonical p.esm found := by
    intro found hfound
    rw [Rule.canonical]
    split
    · decide
    · exact hfound
  obtain ⟨found, hfound, heq⟩ := h.found
  rw [heq]
  refine hcanonical found ?_
  rcases Rule.foundExtension?_eq_some hfound with ⟨hne, rfl⟩ | ⟨_, hmem⟩
  · obtain ⟨_, stem, after, _, hext, _, _, hslash, _⟩ := Path.exists_name_of_extension hne
    rw [hext]
    intro hc
    exact hslash (List.mem_append_right _ hc)
  · obtain ⟨_, names, hnames, hname⟩ := Sibling.mem_extensions hmem
    intro hc
    exact Run.slash_not_mem_of_listing hnames hname (List.mem_append_right _ hc)

/-! ### Files with the same stem -/

theorem Sibling.stem_eq {path name extension : Text} (h : Path.baseName path = name ++ extension)
    (hextension : Path.nameExtension (name ++ extension) = extension) : Sibling.stem path = name := by
  have hbase := Sibling.stem_append_extension path
  rw [Path.extension, h, hextension] at hbase
  exact List.append_cancel_right hbase

namespace Resolution

variable {place name ext path : Text} {front : List Text} (hd : d.HasPlace)
  (h : Path.HasLast place front name) (hslash : '/' ∉ ext) (hne : ext ≠ [])
  (hfile : d.isFile (place ++ ext) = .ok true)
  (hpath : Path.absolute d.cwdPath (place ++ ext) = path)

include hd h hslash hne hfile hpath

/-- The file at a place with an extension behind it stands in the directory of its path. -/
theorem exists_directory_of_path :
    ∃ m content, d.walkFrom (d.base place) front = .ok m ∧ Path.HasLast path m (name ++ ext)
      ∧ d.entryAt? (m ++ [name ++ ext]) = some (.file content) := by
  have hdown := Path.isDown_append h.isPart_name hslash hne
  obtain ⟨m, content, hfront, _, hentry⟩ :=
    Disk.exists_directory_of_isFile (h.append hslash) hdown hfile
  rw [base_append h.ne_nil] at hfront
  refine ⟨m, content, hfront, Path.hasLast_of_parts ?_ ?_, hentry⟩
  · rw [← hpath, Path.clean_absolute _ d.isAbsolute_cwdPath]
  · rw [← hpath, ← Disk.foldl_follow_base hd, (h.append hslash).parts_eq, base_append h.ne_nil,
      List.foldl_append, ← Disk.eq_follow_of_walkFrom hfront]
    exact Path.follow_of_isDown hdown

theorem eq_namesIn_of_path {m : Location} {names : List Text}
    (hfront : d.walkFrom (d.base place) front = .ok m)
    (hnames : Run.listing d (Path.dirName path) = some names) : names = d.namesIn m := by
  obtain ⟨m', content, hfront', hlast, hentry⟩ :=
    exists_directory_of_path hd h hslash hne hfile hpath
  rw [hfront] at hfront'
  cases hfront'
  have hsome : (d.entryAt? (m ++ [name ++ ext])).isSome := by
    rw [hentry]
    rfl
  have hname : ∀ c ∈ m, isEntryName c = true := fun c hc =>
    Disk.isEntryName_of_entryAt? hsome c (List.mem_append_left _ hc)
  rw [Run.eq_namesIn_of_listing (hpath ▸ Path.isAbsolute_absolute _ d.isAbsolute_cwdPath) hlast
    (fun c hc => Path.isDown_of_isEntryName (hname c hc)) hnames,
    Path.map_spelledName_of_plain fun c hc => Disk.zero_not_mem_of_isEntryName (hname c hc)]

/-- A file at the same place with another extension is a sibling. -/
theorem mem_extensions_of_isFile {other : Text} (hother : '/' ∉ '.' :: other) {names : List Text}
    (hnames : Run.listing d (Path.dirName path) = some names)
    (hthere : d.isFile (place ++ '.' :: other) = .ok true)
    (hext : Path.nameExtension (name ++ ext) = ext) :
    '.' :: other ∈ Sibling.extensions (Run.listing d) path := by
  have hdown := Path.isDown_append h.isPart_name hother (by simp)
  obtain ⟨m, content, hfront, _, hentry⟩ :=
    Disk.exists_directory_of_isFile (h.append hother) hdown hthere
  rw [base_append h.ne_nil] at hfront
  obtain ⟨_, _, _, hlast, _⟩ := exists_directory_of_path hd h hslash hne hfile hpath
  refine Sibling.mem_extensions_of_mem hnames ?_
  rw [Sibling.stem_eq hlast.baseName_eq hext,
    eq_namesIn_of_path hd h hslash hne hfile hpath hfront hnames, Disk.mem_namesIn, hentry]
  rfl

/-- If a file has one sibling only, no other extension at its place leads to a file. -/
theorem eq_of_single_sibling {other : Text} (hother : '/' ∉ '.' :: other)
    (hthere : d.isFile (place ++ '.' :: other) = .ok true)
    (hext : Path.nameExtension (name ++ ext) = ext)
    (hsingle : (Sibling.extensions (Run.listing d) path).length = 1) : '.' :: other = ext := by
  obtain ⟨x, hx⟩ := List.length_eq_one_iff.1 hsingle
  obtain ⟨names, hnames⟩ : ∃ names, Run.listing d (Path.dirName path) = some names := by
    cases hlisting : Run.listing d (Path.dirName path) with
    | some names => exact ⟨names, rfl⟩
    | none =>
      rw [Sibling.extensions_of_not_listed hlisting] at hsingle
      exact absurd hsingle (by simp)
  have hmem := mem_extensions_of_isFile hd h hslash hne hfile hpath hother hnames hthere hext
  -- the extension itself starts with a point and is a sibling as well
  obtain ⟨stem, after, _, hafter, _, _⟩ := Path.exists_stem_of_nameExtension (hext ▸ hne)
  rw [hext] at hafter
  have hself := mem_extensions_of_isFile hd h hslash hne hfile hpath (hafter ▸ hslash) hnames
    (hafter ▸ hfile) hext
  rw [hx, List.mem_singleton] at hmem hself
  rw [hmem, hafter, hself]

/-- If a file has one sibling only, the other extensions to try miss at its place. -/
theorem isFile_eq_false_of_single_sibling {e : Text} (hpoint : e.head? = some '.') (he : '/' ∉ e)
    (hother : e ≠ ext) (hshort : d.isTestable (place ++ e) = true)
    (hext : Path.nameExtension (name ++ ext) = ext)
    (hsingle : (Sibling.extensions (Run.listing d) path).length = 1) :
    d.isFile (place ++ e) = .ok false := by
  obtain ⟨rest, rfl⟩ := List.head?_eq_some_iff.1 hpoint
  cases hthere : d.isFile (place ++ '.' :: rest) with
  | error fault =>
    rw [Disk.isTestable, hthere] at hshort
    exact absurd hshort (by simp [Except.isOk, Except.toBool])
  | ok there =>
    cases there with
    | false => rfl
    | true =>
      exact absurd (eq_of_single_sibling hd h hslash hne hfile hpath he hthere hext hsingle) hother

/-- A file and its place without the extension have different paths. -/
theorem absolute_ne_of_extension (hname : Path.IsDown name) :
    Path.absolute d.cwdPath place ≠ path := by
  intro heq
  obtain ⟨m, content, hfront, hlast, _⟩ := exists_directory_of_path hd h hslash hne hfile hpath
  have hparts := Disk.foldl_follow_base hd place
  rw [h.parts_eq, List.foldl_append, ← Disk.eq_follow_of_walkFrom hfront, heq, hlast.parts_eq,
    List.foldl_cons, List.foldl_nil, Path.follow_of_isDown hname] at hparts
  have hsame : name ++ [] = name ++ ext := by
    rw [List.append_nil]
    exact List.singleton_inj.1 (List.append_cancel_left hparts)
  exact hne (List.append_cancel_left hsame).symm

/-- If a file has one sibling only, its place without the extension leads to it exactly if there is no
file at this place and the extension is one of those to try, or the directory there leads to it. -/
theorem leads_iff_of_single_sibling {extensions : List Text} (hname : Path.IsDown name)
    (hext : Path.nameExtension (name ++ ext) = ext)
    (hsingle : (Sibling.extensions (Run.listing d) path).length = 1)
    (hplain : ∀ e ∈ extensions, e.head? = some '.' ∧ '/' ∉ e)
    (hshort : ∀ e ∈ extensions, d.isTestable (place ++ e) = true) :
    Leads d extensions place path ↔
      d.isFile place = .ok false ∧ (ext ∈ extensions ∨ InDirectory d extensions place path) := by
  have hclean : ∀ e ∈ extensions, Path.clean (place ++ e) = place ++ e := fun e he =>
    (h.append (hplain e he).2).clean_eq
  have hmiss : ∀ e ∈ extensions, e ≠ ext → d.isFile (place ++ e) = .ok false := fun e he hother =>
    isFile_eq_false_of_single_sibling hd h hslash hne hfile hpath (hplain e he).1 (hplain e he).2 hother
      (hshort e he) hext hsingle
  constructor
  · intro hleads
    cases hleads with
    | file here =>
      exact absurd rfl (absolute_ne_of_extension hd h hslash hne hfile hpath hname)
    | behind absent found =>
      refine ⟨absent, ?_⟩
      cases found with
      | tried hit =>
        -- an extension that was found is that of the file, as all others miss
        obtain ⟨before, after, heq, _, hthere⟩ := hit
        obtain ⟨e, he, rfl⟩ :=
          List.mem_map.1 (heq ▸ List.mem_append_right before (List.mem_cons_self ..))
        refine .inl (Decidable.byContradiction fun hnone => ?_)
        have hother : e ≠ ext := fun heq => hnone (heq ▸ he)
        rw [hclean e he, d.fileSystem_isFile, hmiss e he hother] at hthere
        exact absurd hthere (by simp)
      | inside missed found => exact .inr found
  · rintro ⟨habsent, hor⟩
    by_cases hmem : ext ∈ extensions
    · -- the siblings leave every extension that is tried before without a file
      obtain ⟨before, after, rfl, hbefore⟩ := List.eq_append_cons_of_mem hmem
      have hhere := hclean ext hmem
      have hit : Hits d.isFile (triedAt (before ++ ext :: after) place) (place ++ ext) := by
        refine ⟨triedAt before place, triedAt after place, ?_, ?_, hfile⟩
        · simp [triedAt, hhere]
        · intro c hc
          obtain ⟨e, he, rfl⟩ := List.mem_map.1 hc
          have he' : e ∈ before ++ ext :: after := List.mem_append_left _ he
          rw [hclean e he']
          exact hmiss e he' fun heq => hbefore (heq ▸ he)
      exact hpath ▸ .behind habsent (.tried hit)
    · have hfound := hor.resolve_left hmem
      refine .behind habsent (.inside (fun c hc => ?_) hfound)
      obtain ⟨e, he, rfl⟩ := List.mem_map.1 hc
      rw [hclean e he]
      exact hmiss e he fun heq => hmem (heq ▸ he)

end Resolution

end SpecifierLint
