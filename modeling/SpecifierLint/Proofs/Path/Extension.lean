/-
Names and extensions of paths.

The extension of a path is the end of its last component, from the last point on.  Main statements:

* **`cutAtLast_append`** — a text is cut at a separator after which there is no other;
* **`baseName_append`** — the name of a path is what stands after its last slash;
* **`nameExtension_append`** — the extension of a name starts at its last point, if something other
  than points stands before it;
* **`exists_name_of_extension`** — a path with an extension ends in a name that has it;
* **`extension_append_iff`** — when an extension behind a path is the extension of what comes out.
-/
import SpecifierLint.Sibling

namespace SpecifierLint.Path

/-! ### Cutting at the last occurrence -/

/-- A text is cut at a separator after which there is no other. -/
theorem cutAtLast_append {c : Char} (before : Text) {after : Text} (h : c ∉ after) :
    cutAtLast c (before ++ c :: after) = some (before, after) := by
  induction before with
  | nil => simp [cutAtLast, cutAtLast_eq_none_iff.2 h]
  | cons x before ih => simp [cutAtLast, ih]

/-! ### The last component -/

theorem baseName_of_not_mem {name : Text} (h : '/' ∉ name) : baseName name = name := by
  rw [baseName, cutAtLast_eq_none_iff.2 h]

/-- The name of a path is what stands after its last slash. -/
theorem baseName_append (directory : Text) {name : Text} (h : '/' ∉ name) :
    baseName (directory ++ '/' :: name) = name := by
  rw [baseName, cutAtLast_append directory h]

theorem eq_baseName_or (path : Text) :
    path = baseName path ∨ ∃ directory, path = directory ++ '/' :: baseName path := by
  rw [baseName]
  cases hcut : cutAtLast '/' path with
  | none => exact .inl rfl
  | some cut => exact .inr ⟨cut.1, (cutAtLast_eq_some hcut).1⟩

theorem slash_not_mem_baseName (path : Text) : '/' ∉ baseName path := by
  rw [baseName]
  cases hcut : cutAtLast '/' path with
  | none => exact cutAtLast_eq_none_iff.1 hcut
  | some cut => exact (cutAtLast_eq_some hcut).2

/-! ### Extensions -/

/-- The extension of a name starts at its last point, if something other than points stands before
it. -/
theorem nameExtension_append {stem after : Text} (hstem : stem.all (· = '.') = false)
    (hafter : '.' ∉ after) : nameExtension (stem ++ '.' :: after) = '.' :: after := by
  rw [nameExtension, cutAtLast_append stem hafter]
  simp [hstem]

/-- A name with an extension is a stem, which is not all points, and the extension. -/
theorem exists_stem_of_nameExtension {name : Text} (h : nameExtension name ≠ []) :
    ∃ stem after, name = stem ++ '.' :: after ∧ nameExtension name = '.' :: after
      ∧ stem.all (· = '.') = false ∧ '.' ∉ after := by
  cases hcut : cutAtLast '.' name with
  | none =>
    rw [nameExtension, hcut] at h
    exact absurd rfl h
  | some cut =>
    obtain ⟨stem, after⟩ := cut
    obtain ⟨hname, hafter⟩ := cutAtLast_eq_some hcut
    by_cases hstem : stem.all (· = '.')
    · rw [nameExtension, hcut] at h
      simp [hstem] at h
    · rw [Bool.not_eq_true] at hstem
      refine ⟨stem, after, hname, ?_, hstem, hafter⟩
      rw [hname, nameExtension_append hstem hafter]

/-- A path with an extension ends in a name that has it. -/
theorem exists_name_of_extension {path : Text} (h : extension path ≠ []) :
    ∃ front stem after, path = front ++ stem ++ '.' :: after ∧ extension path = '.' :: after
      ∧ (front = [] ∨ ∃ directory, front = directory ++ ['/']) ∧ stem.all (· = '.') = false
      ∧ '/' ∉ stem ++ '.' :: after ∧ '.' ∉ after := by
  obtain ⟨stem, after, hname, hext, hstem, hafter⟩ := exists_stem_of_nameExtension h
  have hslash : '/' ∉ stem ++ '.' :: after := hname ▸ slash_not_mem_baseName path
  rcases eq_baseName_or path with hpath | ⟨directory, hpath⟩
  · refine ⟨[], stem, after, ?_, hext, .inl rfl, hstem, hslash, hafter⟩
    rw [hpath, hname]
    simp
  · refine ⟨directory ++ ['/'], stem, after, ?_, hext, .inr ⟨directory, rfl⟩, hstem, hslash, hafter⟩
    rw [hpath, hname]
    simp

/-! ### Paths with an extension behind them -/

theorem baseName_append_of_not_mem (path : Text) {t : Text} (h : '/' ∉ t) :
    baseName (path ++ t) = baseName path ++ t := by
  have hname : '/' ∉ baseName path ++ t := by
    rw [List.mem_append, not_or]
    exact ⟨slash_not_mem_baseName path, h⟩
  rcases eq_baseName_or path with hpath | ⟨directory, hpath⟩
  · have hlong := baseName_of_not_mem hname
    rwa [← hpath] at hlong ⊢
  · have hlong : path ++ t = directory ++ '/' :: (baseName path ++ t) := by
      rw [← List.cons_append, ← List.append_assoc, ← hpath]
    rw [hlong, baseName_append directory hname]

/-- An extension is a point and what no point or slash is in. -/
def IsExtension (extension : Text) : Prop :=
  ∃ after, extension = '.' :: after ∧ '.' ∉ after ∧ '/' ∉ after

/-- A path takes an extension: the extension has one point and no slash, and the name that the path
ends in is not all points. -/
def Takes (path extension : Text) : Prop :=
  IsExtension extension ∧ (baseName path).all (· = '.') = false

theorem extension_eq_iff {path ext : Text} (hne : ext ≠ []) :
    extension path = ext ↔ ∃ front, path = front ++ ext ∧ Takes front ext := by
  constructor
  · rintro rfl
    obtain ⟨front, stem, after, hpath, hext, hfront, hstem, hslash, hafter⟩ :=
      exists_name_of_extension hne
    simp only [List.mem_append, List.mem_cons, not_or] at hslash
    have hname : baseName (front ++ stem) = stem := by
      rcases hfront with rfl | ⟨directory, rfl⟩
      · exact baseName_of_not_mem hslash.1
      · rw [List.append_assoc, List.singleton_append, baseName_append directory hslash.1]
    refine ⟨front ++ stem, by rw [hext, ← hpath], ⟨after, hext, hafter, hslash.2.2⟩, ?_⟩
    rw [hname, hstem]
  · rintro ⟨front, rfl, ⟨after, rfl, hafter, hslash⟩, hpoints⟩
    have hext : '/' ∉ '.' :: after := by simp [hslash]
    rw [extension, baseName_append_of_not_mem front hext, nameExtension_append hpoints hafter]

/-- An extension behind a path is the extension of what comes out exactly if the path takes it. -/
theorem extension_append_iff (path : Text) {ext : Text} (hne : ext ≠ []) :
    extension (path ++ ext) = ext ↔ Takes path ext := by
  rw [extension_eq_iff hne]
  constructor
  · rintro ⟨front, heq, htakes⟩
    rwa [List.append_cancel_right heq]
  · intro htakes
    exact ⟨path, rfl, htakes⟩

end SpecifierLint.Path

namespace SpecifierLint.Sibling

theorem extensions_of_not_listed {listing : Listing} {path : Text}
    (h : listing (Path.dirName path) = none) : extensions listing path = [] := by
  rw [extensions, h]
  rfl

/-- The extension of a sibling starts with a point, and its directory holds the stem with it. -/
theorem mem_extensions {listing : Listing} {path extension : Text}
    (h : extension ∈ extensions listing path) :
    (∃ rest, extension = '.' :: rest)
      ∧ ∃ names, listing (Path.dirName path) = some names ∧ stem path ++ extension ∈ names := by
  rw [extensions, List.mem_filterMap] at h
  obtain ⟨name, hmem, hname⟩ := h
  split at hname
  · next hfront =>
    obtain ⟨rest, hrest⟩ := List.isPrefixOf_iff_prefix.1 hfront
    simp only [Option.some.injEq] at hname
    subst hname
    subst hrest
    cases hnames : listing (Path.dirName path) with
    | none => simp [hnames] at hmem
    | some names =>
      simp only [hnames, Option.getD_some] at hmem
      refine ⟨⟨rest, by simp⟩, names, rfl, ?_⟩
      simpa using hmem
  · simp at hname

/-- What a listed name has behind the stem, from a point on, is the extension of a sibling. -/
theorem mem_extensions_of_mem {listing : Listing} {path rest : Text} {names : List Text}
    (hnames : listing (Path.dirName path) = some names) (hmem : stem path ++ '.' :: rest ∈ names) :
    '.' :: rest ∈ extensions listing path := by
  have hfront : (stem path ++ ['.']).isPrefixOf (stem path ++ '.' :: rest) = true := by
    rw [List.isPrefixOf_iff_prefix]
    exact ⟨rest, by simp⟩
  rw [extensions, hnames, List.mem_filterMap]
  refine ⟨_, hmem, ?_⟩
  rw [if_pos hfront, List.drop_left' rfl]

theorem stem_append_extension (path : Text) : stem path ++ Path.extension path = Path.baseName path := by
  -- the name has no slash, so it is the name that it ends in itself
  have hname : Path.extension (Path.baseName path) = Path.extension path := by
    rw [Path.extension, Path.baseName_of_not_mem (Path.slash_not_mem_baseName path), Path.extension]
  rw [stem, Path.splitExtension, hname]
  by_cases hext : Path.extension path = []
  · simp [hext]
  · obtain ⟨before, after, hbase, hafter, _⟩ := Path.exists_stem_of_nameExtension hext
    rw [← Path.extension] at hafter
    rw [hafter, hbase, List.length_append, Nat.add_sub_cancel, List.take_left' rfl]

end SpecifierLint.Sibling
