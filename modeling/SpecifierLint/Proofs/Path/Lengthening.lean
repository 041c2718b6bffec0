/-
Paths that are lengthened.

A text behind a path that ends in a name lengthens this name and changes nothing before it.  Main
statements:

* **`parts_append_of_endsInName`** — the parts of a lengthened path are the same up to the last;
* **`joined_append`** — a lengthened path joined to a directory is the joined path, lengthened;
* **`hasLast_joined`** — a joined path ends in the name that the second path ends in;
* **`dirName_of_hasLast`** — the directory of an absolute clean path is what stands before its name.
-/
import Mathlib.Data.List.DropRight
import SpecifierLint.Proofs.Path.Components
import SpecifierLint.Proofs.Path.Extension

namespace SpecifierLint.Path

/-- The last component of a path counts. -/
def EndsInName (path : Text) : Prop := IsPart (baseName path)

instance (path : Text) : Decidable (EndsInName path) :=
  inferInstanceAs (Decidable (IsPart (baseName path)))

theorem EndsInName.ne_nil {path : Text} (h : EndsInName path) : path ≠ [] := by
  rintro rfl
  exact h.1 rfl

/-! ### Parts and roots -/

/-- What stands behind a path changes its last component only. -/
theorem exists_front_of_parts (path : Text) :
    ∃ front, ∀ t, parts (path ++ t) = front ++ parts (baseName path ++ t) := by
  rcases eq_baseName_or path with hpath | ⟨directory, hpath⟩
  · refine ⟨[], fun t => ?_⟩
    rw [← hpath, List.nil_append]
  · refine ⟨parts directory, fun t => ?_⟩
    have hlong : path ++ t = directory ++ '/' :: (baseName path ++ t) := by
      rw [← List.cons_append, ← List.append_assoc, ← hpath]
    rw [hlong, parts_append_cons]

/-- The parts of a lengthened path are those of the path, with the last one lengthened. -/
theorem parts_append_of_endsInName {path : Text} (h : EndsInName path) :
    ∃ front, (∀ c ∈ front, IsPart c)
      ∧ ∀ t, '/' ∉ t → parts (path ++ t) = front ++ [baseName path ++ t] := by
  obtain ⟨front, hfront⟩ := exists_front_of_parts path
  refine ⟨front, fun c hc => ?_, fun t ht => ?_⟩
  · have hmem : c ∈ parts (path ++ []) := by
      rw [hfront]
      exact List.mem_append_left _ hc
    exact isPart_of_mem_parts hmem
  · rw [hfront, parts_of_isPart (isPart_append h ht)]

theorem isAbsolute_append {path : Text} (h : path ≠ []) (t : Text) :
    isAbsolute (path ++ t) = isAbsolute path := by
  obtain ⟨c, rest, rfl⟩ := List.exists_cons_of_ne_nil h
  rfl

theorem root_append {path : Text} (h : EndsInName path) (t : Text) :
    root (path ++ t) = root path := by
  have hshort : (path.takeWhile (· = '/')).length ≠ path.length := by
    intro hlength
    have hself : path.takeWhile (· = '/') = path :=
      (List.takeWhile_prefix _).eq_of_length hlength
    have hall := List.all_takeWhile (p := fun x => decide (x = '/')) (l := path)
    rw [hself] at hall
    -- a path of slashes has an empty last component
    have hname : ∀ c ∈ baseName path, c ∈ path := by
      intro c hc
      rcases eq_baseName_or path with hpath | ⟨directory, hpath⟩
      · rwa [← hpath] at hc
      · rw [hpath]
        exact List.mem_append_right _ (List.mem_cons_of_mem _ hc)
    obtain ⟨c, rest, hc⟩ := List.exists_cons_of_ne_nil h.1
    have hmem : c ∈ baseName path := by
      rw [hc]
      exact List.mem_cons_self ..
    have hslash : c = '/' := by simpa using List.all_eq_true.1 hall c (hname c hmem)
    exact slash_not_mem_baseName path (hslash ▸ hmem)
  rw [root, root, List.takeWhile_append, if_neg hshort]

/-! ### Clean paths with a last part -/

/-- A clean path, as its parts up to the last one and the last one. -/
structure HasLast (path : Text) (front : List Text) (name : Text) : Prop where
  isPart : ∀ c ∈ front ++ [name], IsPart c
  eq_render : path = render (root path) (front ++ [name])

theorem hasLast_of_parts {path name : Text} {front : List Text} (hclean : clean path = path)
    (h : parts path = front ++ [name]) : HasLast path front name := by
  refine ⟨fun c hc => isPart_of_mem_parts (h ▸ hc), ?_⟩
  rw [← h]
  exact hclean.symm

namespace HasLast

variable {path name t : Text} {front : List Text} (h : HasLast path front name)

include h

theorem isPart_name : IsPart name := h.isPart name (by simp)

theorem isPart_front : ∀ c ∈ front, IsPart c := fun c hc => h.isPart c (by simp [hc])

theorem parts_eq : parts path = front ++ [name] := by
  rw [h.eq_render, parts_render (isRoot_root path) h.isPart]

theorem ne_nil : path ≠ [] := by
  rintro rfl
  have hparts := h.parts_eq
  rw [show parts [] = [] by rfl] at hparts
  exact absurd hparts (by simp)

theorem append_eq (ht : '/' ∉ t) : path ++ t = render (root path) (front ++ [name ++ t]) := by
  rw [← render_append h.isPart ht, ← h.eq_render]

theorem isPart_append (ht : '/' ∉ t) : ∀ c ∈ front ++ [name ++ t], IsPart c := by
  intro c hc
  rcases List.mem_append.1 hc with hc | hc
  · exact h.isPart_front c hc
  · rw [List.mem_singleton.1 hc]
    exact Path.isPart_append h.isPart_name ht

theorem append (ht : '/' ∉ t) : HasLast (path ++ t) front (name ++ t) := by
  refine ⟨h.isPart_append ht, ?_⟩
  rw [h.append_eq ht, root_render (isRoot_root path) (h.isPart_append ht)]

theorem clean_eq : clean path = path := by
  rw [clean, h.parts_eq, ← h.eq_render]

theorem baseName_eq : baseName path = name := by
  have hslash := h.isPart_name.2.2
  have hrender := render_eq h.isPart (r := root path) (by simp)
  rw [← h.eq_render] at hrender
  rw [hrender]
  by_cases hfront : front = []
  · rw [hfront, List.nil_append, Text.join]
    rcases isRoot_root path with hr | hr | hr
    · rw [hr, List.nil_append, baseName_of_not_mem hslash]
    · rw [hr]
      exact baseName_append [] hslash
    · rw [hr]
      exact baseName_append ['/'] hslash
  · rw [Text.join_append hfront (by simp), Text.join, ← List.append_assoc, ← List.append_assoc,
      List.append_assoc _ ['/'], List.singleton_append, baseName_append _ hslash]

theorem not_mem {x : Char} (hx : x ≠ '/') (hparts : ∀ c ∈ front ++ [name], x ∉ c) : x ∉ path := by
  rw [h.eq_render, render_eq h.isPart (by simp), List.mem_append, not_or]
  refine ⟨?_, Text.not_mem_join (by simpa using hx) hparts⟩
  rcases isRoot_root path with hr | hr | hr
  · simp [hr]
  · simp [hr, hx]
  · simp [hr, hx]

/-- What stands behind a clean path leads on from its front. -/
theorem exists_parts_append (t : Text) : ∃ c rest, parts (path ++ t) = front ++ c :: rest := by
  obtain ⟨front', hfront'⟩ := exists_front_of_parts path
  have hplain := hfront' []
  rw [List.append_nil, List.append_nil, h.baseName_eq, h.parts_eq, parts_of_isPart h.isPart_name]
    at hplain
  rw [hfront', h.baseName_eq, ← List.append_cancel_right hplain]
  by_cases hslash : '/' ∈ t
  · obtain ⟨a, b, rfl, ha⟩ := List.eq_append_cons_of_mem hslash
    rw [← List.append_assoc, parts_append_cons, parts_of_isPart (Path.isPart_append h.isPart_name ha)]
    exact ⟨_, _, rfl⟩
  · rw [parts_of_isPart (Path.isPart_append h.isPart_name hslash)]
    exact ⟨_, _, rfl⟩

end HasLast

/-! ### Directories of clean paths -/

theorem exists_concat_of_join {ps : List Text} (h : ∀ c ∈ ps, IsPart c) (hne : ps ≠ []) :
    ∃ before x, Text.join ['/'] ps = before ++ [x] ∧ x ≠ '/' := by
  obtain ⟨init, c, rfl⟩ : ∃ init c, ps = init ++ [c] :=
    ⟨ps.dropLast, ps.getLast hne, (List.dropLast_concat_getLast hne).symm⟩
  obtain ⟨hnil, _, hslash⟩ := h c (by simp)
  have hlast : c = c.dropLast ++ [c.getLast hnil] := (List.dropLast_concat_getLast hnil).symm
  have hx : c.getLast hnil ≠ '/' := by
    intro heq
    exact hslash (heq ▸ List.getLast_mem hnil)
  by_cases hinit : init = []
  · rw [hinit, List.nil_append, Text.join]
    exact ⟨_, _, hlast, hx⟩
  · refine ⟨Text.join ['/'] init ++ ['/'] ++ c.dropLast, c.getLast hnil, ?_, hx⟩
    rw [Text.join_append hinit (by simp), Text.join, List.append_assoc _ c.dropLast, ← hlast]

/-- The directory of an absolute clean path is rendered from its front. -/
theorem dirName_of_hasLast {path name : Text} {front : List Text} (h : HasLast path front name)
    (habs : isAbsolute path = true) : dirName path = render (root path) front := by
  have hslash := h.isPart_name.2.2
  have hne : root path ≠ [] := isAbsolute_iff_root.1 habs
  have hrender := render_eq h.isPart (r := root path) (by simp)
  rw [← h.eq_render] at hrender
  rw [render_eq h.isPart_front (by simp [hne])]
  by_cases hfront : front = []
  · rw [hfront, List.nil_append, Text.join] at hrender
    rw [hfront, Text.join, List.append_nil, dirName]
    rcases root_of_isAbsolute habs with hr | hr
    · have hcut := cutAtLast_append [] hslash
      rw [hr] at hrender ⊢
      rw [hrender, show ['/'] ++ name = [] ++ '/' :: name by rfl, hcut]
      rfl
    · have hcut := cutAtLast_append ['/'] hslash
      rw [hr] at hrender ⊢
      rw [hrender, show ['/', '/'] ++ name = ['/'] ++ '/' :: name by rfl, hcut]
      rfl
  · rw [Text.join_append hfront (by simp), Text.join, ← List.append_assoc, ← List.append_assoc,
      List.append_assoc _ ['/'], List.singleton_append] at hrender
    have hcut := cutAtLast_append (root path ++ Text.join ['/'] front) hslash
    rw [← hrender] at hcut
    -- what stands before the last slash ends in no other slash, so nothing is stripped from it
    obtain ⟨before, x, hjoin, hx⟩ := exists_concat_of_join h.isPart_front hfront
    rw [dirName, hcut, hjoin]
    simp [hx]

theorem isAbsolute_dirName {path : Text} (h : isAbsolute path = true) :
    isAbsolute (dirName path) = true := by
  have hslash : '/' ∈ path := List.mem_of_mem_head? (by simpa [isAbsolute] using h)
  rw [dirName]
  split
  · next before name hcut =>
    obtain ⟨rfl, _⟩ := cutAtLast_eq_some hcut
    have hhead : isAbsolute (before ++ ['/']) = true := by
      cases before with
      | nil => rfl
      | cons c rest => exact h
    dsimp only
    split
    · exact hhead
    · next hnot =>
      -- what is left is a front of it, and not empty
      have hne : List.rdropWhile (· = '/') (before ++ ['/']) ≠ [] := by
        rw [ne_eq, List.rdropWhile_eq_nil_iff, ← List.all_eq_true]
        exact hnot
      obtain ⟨slashes, hslashes⟩ := List.rdropWhile_prefix (· = '/') (before ++ ['/'])
      rwa [← hslashes, isAbsolute_append hne] at hhead
  · next hcut => exact absurd hslash (cutAtLast_eq_none_iff.1 hcut)

/-! ### Joined paths -/

/-- A joined path ends in the name that the second path ends in. -/
theorem hasLast_joined (directory : Text) {path : Text} (h : EndsInName path) :
    ∃ front, HasLast (joined directory path) front (baseName path) := by
  obtain ⟨front, hfront, hparts⟩ := parts_append_of_endsInName h
  have hplain := hparts [] (by simp)
  rw [List.append_nil, List.append_nil] at hplain
  rw [joined_eq, hplain]
  split
  · have hall : ∀ c ∈ front ++ [baseName path], IsPart c := fun c hc =>
      isPart_of_mem_parts (hplain ▸ hc)
    exact ⟨front, hall, by rw [root_render (isRoot_root path) hall]⟩
  · have hall : ∀ c ∈ (parts directory ++ front) ++ [baseName path], IsPart c := by
      intro c hc
      rw [List.append_assoc, ← hplain] at hc
      exact isPart_of_mem_append hc
    rw [← List.append_assoc]
    exact ⟨parts directory ++ front, hall, by rw [root_render (isRoot_root directory) hall]⟩

/-- A lengthened path joined to a directory is the joined path, lengthened. -/
theorem joined_append (directory : Text) {path t : Text} (h : EndsInName path) (ht : '/' ∉ t) :
    joined directory (path ++ t) = joined directory path ++ t := by
  obtain ⟨front, hfront, hparts⟩ := parts_append_of_endsInName h
  have hplain := hparts [] (by simp)
  rw [List.append_nil, List.append_nil] at hplain
  have hall : ∀ c ∈ front ++ [baseName path], IsPart c := fun c hc =>
    isPart_of_mem_parts (hplain ▸ hc)
  rw [joined_eq, joined_eq, isAbsolute_append h.ne_nil, root_append h, hparts t ht, hplain]
  split
  · exact (render_append hall ht).symm
  · rw [← List.append_assoc, ← List.append_assoc]
    refine (render_append (fun c hc => ?_) ht).symm
    rw [List.append_assoc, ← hplain] at hc
    exact isPart_of_mem_append hc

end SpecifierLint.Path
