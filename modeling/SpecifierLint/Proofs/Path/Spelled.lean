/-
Spelled paths and the paths that they stand for.

Names are spelled one by one, and points and slashes are spelled as they are.  The path that a spelled
path stands for therefore has the same root and as many components, and taking components out on paper
does the same to both.  Main statements:

* **`unspelled_of_plain`** — a path without U+0000 stands for itself;
* **`parts_unspelled`**, **`root_unspelled`** — the parts and the root of the path that is meant;
* **`foldl_follow_map`** — spelled components lead where the names lead that they stand for;
* **`normal_unspelled`** — so the normal form can be taken before or after.
-/
import Mathlib.Data.List.Induction
import SpecifierLint.Path.Spelled
import SpecifierLint.Proofs.Path.Components

namespace SpecifierLint.Path

/-! ### Names -/

theorem isDown_of_isEntryName {name : Text} (h : isEntryName name = true) : IsDown name := by
  simp only [isEntryName, Bool.and_eq_true, Bool.not_eq_true', decide_eq_true_eq,
    List.isEmpty_eq_false_iff, ne_eq] at h
  obtain ⟨⟨⟨⟨hne, hdot⟩, hup⟩, hslash⟩, _⟩ := h
  exact ⟨⟨hne, hdot, by simpa using hslash⟩, hup⟩

theorem isDown_replicate_zero {n : Nat} (h : 0 < n) : IsDown (List.replicate n '\x00') := by
  have hmem {c : Char} (hc : c ∈ List.replicate n '\x00') : c = '\x00' := List.eq_of_mem_replicate hc
  refine ⟨⟨?_, ?_, fun hslash => absurd (hmem hslash) (by decide)⟩, ?_⟩
  · exact List.ne_nil_of_length_pos (by rwa [List.length_replicate])
  · intro heq
    exact absurd (hmem (heq ▸ List.mem_cons_self ..)) (by decide)
  · intro heq
    exact absurd (hmem (heq ▸ List.mem_cons_self ..)) (by decide)

theorem isDown_nameOfBytes (bytes : List UInt8) : IsDown (nameOfBytes bytes) := by
  have hlost : IsDown (List.replicate (max 1 bytes.length) '\x00') :=
    isDown_replicate_zero (Nat.lt_of_lt_of_le Nat.one_pos (Nat.le_max_left ..))
  rw [nameOfBytes]
  split
  · split
    · next hname => exact isDown_of_isEntryName hname
    · exact hlost
  · exact hlost

theorem spelledName_of_plain {c : Text} (h : '\x00' ∉ c) : spelledName c = c :=
  if_neg (by simpa using h)

theorem map_spelledName_of_plain {cs : List Text} (h : ∀ c ∈ cs, '\x00' ∉ c) :
    cs.map spelledName = cs :=
  (List.map_congr_left fun c hc => spelledName_of_plain (h c hc)).trans (List.map_id cs)

/-- A component is spelled as it is, or it and the name that it stands for both lead down. -/
theorem spelledName_cases (c : Text) : spelledName c = c ∨ ('\x00' ∈ c ∧ IsDown (spelledName c)) := by
  by_cases h : '\x00' ∈ c
  · refine .inr ⟨h, ?_⟩
    rw [spelledName, if_pos (by simpa using h)]
    exact isDown_nameOfBytes _
  · exact .inl (spelledName_of_plain h)

theorem spelledName_eq_iff {c s : Text} (hs : s = [] ∨ s = ['.'] ∨ s = ['.', '.']) :
    spelledName c = s ↔ c = s := by
  have hplain : '\x00' ∉ s := by rcases hs with rfl | rfl | rfl <;> decide
  constructor
  · intro h
    rcases spelledName_cases c with hc | ⟨_, ⟨hne, hdot, _⟩, hup⟩
    · rw [← hc, h]
    · rw [h] at hne hdot hup
      rcases hs with rfl | rfl | rfl
      · exact absurd rfl hne
      · exact absurd rfl hdot
      · exact absurd rfl hup
  · rintro rfl
    exact spelledName_of_plain hplain

theorem slash_not_mem_spelledName {c : Text} (h : '/' ∉ c) : '/' ∉ spelledName c := by
  rcases spelledName_cases c with hc | ⟨_, hdown⟩
  · rwa [hc]
  · exact hdown.1.2.2

theorem isPart_spelledName {c : Text} (h : IsPart c) : IsPart (spelledName c) :=
  ⟨fun hnil => h.1 ((spelledName_eq_iff (.inl rfl)).1 hnil),
    fun hdot => h.2.1 ((spelledName_eq_iff (.inr (.inl rfl))).1 hdot), slash_not_mem_spelledName h.2.2⟩

/-! ### Paths -/

theorem split_unspelled (path : Text) :
    Text.split '/' (unspelled path) = (Text.split '/' path).map spelledName := by
  refine Text.split_join (by simpa using Text.split_ne_nil '/' path) fun c hc => ?_
  obtain ⟨s, hs, rfl⟩ := List.mem_map.1 hc
  exact slash_not_mem_spelledName (Text.not_mem_of_mem_split hs)

/-- A path without U+0000 stands for itself. -/
theorem unspelled_of_plain {path : Text} (h : '\x00' ∉ path) : unspelled path = path := by
  rw [unspelled, map_spelledName_of_plain fun c hc hzero => h (Text.mem_of_mem_split hc hzero),
    Text.join_split]

theorem parts_unspelled (path : Text) : parts (unspelled path) = (parts path).map spelledName := by
  rw [parts, split_unspelled, List.filter_map, parts]
  congr 1
  refine List.filter_congr fun c _ => ?_
  have hnil : spelledName c = [] ↔ c = [] := spelledName_eq_iff (.inl rfl)
  have hdot : spelledName c = ['.'] ↔ c = ['.'] := spelledName_eq_iff (.inr (.inl rfl))
  rw [Bool.eq_iff_iff]
  simp [hnil, hdot]

theorem unspelled_cons_slash (path : Text) : unspelled ('/' :: path) = '/' :: unspelled path := by
  rw [unspelled, Text.split, if_pos rfl, List.map_cons,
    Text.join_cons (by simpa using Text.split_ne_nil '/' path), spelledName_of_plain (by simp)]
  rfl

/-- A path that does not start with a slash does not stand for one that does. -/
theorem head?_unspelled {path : Text} (h : path.head? ≠ some '/') :
    (unspelled path).head? ≠ some '/' := by
  intro hhead
  -- the first component of the path that is meant would be empty
  have hfirst := Text.head?_split '/' (unspelled path)
  obtain ⟨rest, hrest⟩ := List.head?_eq_some_iff.1 hhead
  rw [split_unspelled, List.head?_map, Text.head?_split, hrest, Option.map_some, Option.some.injEq,
    List.takeWhile_cons_of_neg (by simp), spelledName_eq_iff (.inl rfl)] at hfirst
  cases path with
  | nil => exact absurd hrest (by simp [unspelled_of_plain])
  | cons c path =>
    have hc : c ≠ '/' := by simpa using h
    rw [List.takeWhile_cons_of_pos (by simpa using hc)] at hfirst
    exact absurd hfirst (by simp)

theorem takeWhile_unspelled (path : Text) :
    (unspelled path).takeWhile (· = '/') = path.takeWhile (· = '/') := by
  induction path with
  | nil => decide
  | cons c path ih =>
    by_cases hc : c = '/'
    · rw [hc, unspelled_cons_slash, List.takeWhile_cons_of_pos (by simp),
        List.takeWhile_cons_of_pos (by simp), ih]
    · have hhead : (unspelled (c :: path)).head? ≠ some '/' := head?_unspelled (by simpa using hc)
      rw [List.takeWhile_cons_of_neg (by simpa using hc)]
      cases hpath : unspelled (c :: path) with
      | nil => rfl
      | cons b rest =>
        rw [hpath] at hhead
        exact List.takeWhile_cons_of_neg (by simpa using hhead)

theorem root_unspelled (path : Text) : root (unspelled path) = root path := by
  rw [root, root, takeWhile_unspelled]

theorem isAbsolute_unspelled (path : Text) : isAbsolute (unspelled path) = isAbsolute path := by
  rw [Bool.eq_iff_iff, isAbsolute_iff_root, isAbsolute_iff_root, root_unspelled]

theorem unspelled_render {r : Text} {ps : List Text} (hr : IsRoot r) (h : ∀ c ∈ ps, IsPart c) :
    unspelled (render r ps) = render r (ps.map spelledName) := by
  by_cases hnone : r = [] ∧ ps = []
  · rw [hnone.1, hnone.2]
    decide
  · have hmap : ∀ c ∈ ps.map spelledName, IsPart c := by
      intro c hc
      obtain ⟨s, hs, rfl⟩ := List.mem_map.1 hc
      exact isPart_spelledName (h s hs)
    have hjoin : unspelled (Text.join ['/'] ps) = Text.join ['/'] (ps.map spelledName) := by
      by_cases hps : ps = []
      · rw [hps]
        decide
      · rw [unspelled, Text.split_join hps fun c hc => (h c hc).2.2]
    rw [render_eq h hnone, render_eq hmap (by simpa using hnone), ← hjoin]
    rcases hr with rfl | rfl | rfl
    · rfl
    · exact unspelled_cons_slash _
    · exact (unspelled_cons_slash _).trans (congrArg _ (unspelled_cons_slash _))

/-! ### Where spelled components lead -/

/-- Spelled components lead to a front of the place where they start and to names behind it; the names that
they stand for lead to the same front, and to the names that are meant. -/
theorem foldl_follow_map (location ps : List Text) :
    ∃ n names, ps.foldl follow location = location.take n ++ names
      ∧ (ps.map spelledName).foldl follow location = location.take n ++ names.map spelledName := by
  -- from the end: the last component stays, goes up or goes down, and so does the name it stands for
  induction ps using List.reverseRecOn with
  | nil => exact ⟨location.length, [], by simp, by simp⟩
  | append_singleton ps c ih =>
    obtain ⟨n, names, hhere, hthere⟩ := ih
    have hnil := spelledName_eq_iff (c := c) (.inl rfl)
    have hdot := spelledName_eq_iff (c := c) (.inr (.inl rfl))
    have hup := spelledName_eq_iff (c := c) (.inr (.inr rfl))
    simp only [List.map_append, List.map_cons, List.map_nil, List.foldl_append, List.foldl_cons,
      List.foldl_nil, hhere, hthere, follow, hnil, hdot, hup]
    split
    · exact ⟨n, names, rfl, rfl⟩
    · split
      · -- up, by the last name, or out of the front if there is none
        cases names using List.reverseRecOn with
        | nil =>
          have hlast : (location.take n).dropLast = location.take (min n location.length - 1) := by
            rw [List.dropLast_eq_take, List.take_take, List.length_take]
            congr 1
            omega
          exact ⟨_, [], by simpa using hlast, by simpa using hlast⟩
        | append_singleton names last =>
          refine ⟨n, names, ?_, ?_⟩
          · rw [← List.append_assoc, List.dropLast_concat]
          · rw [List.map_append, ← List.append_assoc, List.map_singleton, List.dropLast_concat]
      · exact ⟨n, names ++ [c], by simp, by simp⟩

/-- If the place where spelled components lead has no name with U+0000, the names lead there too. -/
theorem foldl_follow_of_plain {location ps : List Text}
    (h : ∀ c ∈ ps.foldl follow location, '\x00' ∉ c) :
    (ps.map spelledName).foldl follow location = ps.foldl follow location := by
  obtain ⟨n, names, hhere, hthere⟩ := foldl_follow_map location ps
  have hplain : ∀ c ∈ names, '\x00' ∉ c := fun c hc => h c (hhere ▸ List.mem_append_right _ hc)
  rw [hthere, hhere, map_spelledName_of_plain hplain]

theorem climbed_map {ps : List Text} (h : ∀ c ∈ ps, IsPart c) :
    climbed true (ps.map spelledName) = (climbed true ps).map spelledName := by
  have hmap : ∀ c ∈ ps.map spelledName, IsPart c := by
    intro c hc
    obtain ⟨s, hs, rfl⟩ := List.mem_map.1 hc
    exact isPart_spelledName (h s hs)
  obtain ⟨n, names, hhere, hthere⟩ := foldl_follow_map [] ps
  rw [climbed_eq_follow hmap, climbed_eq_follow h, hhere, hthere]
  simp

/-- The normal form of an absolute path can be taken before or after looking for what it stands for. -/
theorem normal_unspelled {path : Text} (h : isAbsolute path = true) :
    normal (unspelled path) = unspelled (normal path) := by
  have hparts : ∀ c ∈ parts path, IsPart c := fun c hc => isPart_of_mem_parts hc
  rw [normal, normal, isAbsolute_unspelled, h, root_unspelled, parts_unspelled, climbed_map hparts,
    unspelled_render (isRoot_root path) fun c hc => isPart_of_mem_climbed hc]

end SpecifierLint.Path
