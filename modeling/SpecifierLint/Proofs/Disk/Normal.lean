/-
Normal paths on a disk.

Making a path normal takes components out of it on paper, without looking at the disk.  On a disk
without links this is harmless: if a path leads somewhere, its normal form leads there too, and it is
no longer than the path.  The directories above a normal path are the fronts of its location.  Main
statements:

* **`utf8Length_normal_le`** — an absolute path gets no longer by being made normal;
* **`walkFrom_of_isBelow`** — a location whose names are short can be walked to from the root;
* **`walk_normal`** — the normal form of a path leads where the path leads;
* **`ancestry_pathOf`** — the directories at and above a path are the fronts of its location.
-/
import Mathlib.Data.List.Infix
import SpecifierLint.Proofs.Disk.LastStep

namespace SpecifierLint

/-! ### Lengths -/

namespace Text

theorem utf8Length_append (a b : Text) : utf8Length (a ++ b) = utf8Length a + utf8Length b := by
  induction a with
  | nil => simp [utf8Length]
  | cons c a ih =>
    simp only [utf8Length, List.cons_append, List.map_cons, List.foldr_cons] at ih ⊢
    omega

theorem utf8Length_join_le {sep : Text} {ts us : List Text} (h : ts.Sublist us) :
    utf8Length (join sep ts) ≤ utf8Length (join sep us) := by
  induction h with
  | slnil => exact Nat.le_refl _
  | @cons ts us u _ ih =>
    refine Nat.le_trans ih ?_
    by_cases hus : us = []
    · rw [hus]
      exact Nat.zero_le _
    · rw [join_cons hus, utf8Length_append]
      omega
  | @cons_cons ts us u hsub ih =>
    by_cases hts : ts = []
    · rw [hts]
      by_cases hus : us = []
      · rw [hus]
      · rw [join_cons hus, utf8Length_append, utf8Length_append]
        show utf8Length u ≤ _
        omega
    · have hus : us ≠ [] := by
        rintro rfl
        exact hts (List.sublist_nil.1 hsub)
      rw [join_cons hts, join_cons hus, utf8Length_append, utf8Length_append _ (join sep us)]
      omega

end Text

namespace Path

theorem foldl_follow_sublist (location ps : List Text) :
    (ps.foldl follow location).Sublist (location ++ ps) := by
  induction ps generalizing location with
  | nil => simp
  | cons p rest ih =>
    rw [List.foldl_cons]
    refine (ih (follow location p)).trans ?_
    have hstep : (follow location p).Sublist (location ++ [p]) := by
      rw [follow]
      split
      · exact List.sublist_append_left location [p]
      · split
        · exact (List.dropLast_sublist location).trans (List.sublist_append_left location [p])
        · exact List.Sublist.refl _
    have hlong := hstep.append_right rest
    rwa [List.append_assoc, List.singleton_append] at hlong

theorem exists_root_append (path : Text) : ∃ rest, path = root path ++ rest := by
  have hall : ∀ c ∈ path.takeWhile (· = '/'), c = '/' := by
    intro c hc
    simpa using List.all_eq_true.1 List.all_takeWhile c hc
  have hsplit := List.takeWhile_append_dropWhile (p := fun c => decide (c = '/')) (l := path)
  rw [root]
  revert hall hsplit
  generalize path.takeWhile (fun c => decide (c = '/')) = slashes
  generalize path.dropWhile (fun c => decide (c = '/')) = rest
  intro hall hsplit
  -- none, one, two, or more slashes in front
  rcases slashes with _ | ⟨a, _ | ⟨b, _ | ⟨c, more⟩⟩⟩
  · exact ⟨path, rfl⟩
  · rw [hall a (by simp)] at hsplit
    exact ⟨rest, hsplit.symm⟩
  · rw [hall a (by simp), hall b (by simp)] at hsplit
    exact ⟨rest, hsplit.symm⟩
  · rw [hall a (by simp)] at hsplit
    exact ⟨b :: c :: more ++ rest, hsplit.symm⟩

theorem normal_of_isAbsolute {path : Text} (h : isAbsolute path = true) :
    normal path = root path ++ Text.join ['/'] (climbed true (parts path)) := by
  have hroot : root path ≠ [] := isAbsolute_iff_root.1 h
  rw [normal, h, render_eq (fun _ hc => isPart_of_mem_climbed hc) (by simp [hroot])]

/-- An absolute path gets no longer by being made normal. -/
theorem utf8Length_normal_le {path : Text} (h : isAbsolute path = true) :
    Text.utf8Length (normal path) ≤ Text.utf8Length path := by
  obtain ⟨rest, hrest⟩ := exists_root_append path
  have hparts : parts path = parts rest := by
    conv => lhs; rw [hrest]
    exact parts_root_append (isRoot_root path) rest
  -- what is left after going up are some of the components, in their order
  have hsub : (climbed true (parts path)).Sublist (Text.split '/' rest) := by
    rw [hparts, climbed_eq_follow fun c hc => isPart_of_mem_parts hc]
    exact (foldl_follow_sublist [] (parts rest)).trans List.filter_sublist
  have hjoin : Text.utf8Length (Text.join ['/'] (climbed true (parts path)))
      ≤ Text.utf8Length rest := by
    rw [← Text.join_split '/' rest]
    exact Text.utf8Length_join_le hsub
  rw [normal_of_isAbsolute h, Text.utf8Length_append]
  conv => rhs; rw [hrest, Text.utf8Length_append]
  omega

theorem absolute_of_isAbsolute (cwd : Text) {path : Text} (h : isAbsolute path = true) :
    absolute cwd path = normal path := by
  rw [absolute, within, if_pos h]

end Path

namespace Disk

variable {d : Disk}

/-! ### Walks along locations -/

theorem le_longestName_of_walkFrom {location l : Location} {cs : List Text}
    (hl : ∀ c ∈ location, Text.utf8Length c ≤ longestName) (h : d.walkFrom location cs = .ok l) :
    ∀ c ∈ l, Text.utf8Length c ≤ longestName := by
  induction cs generalizing location with
  | nil =>
    cases h
    exact hl
  | cons c rest ih =>
    obtain ⟨_, _, hdown, hmore⟩ := walkFrom_cons_eq_ok.1 h
    refine ih (fun x hx => ?_) hmore
    rw [Path.follow] at hx
    split at hx
    · exact hl x hx
    · next hskip =>
      split at hx
      · exact hl x (List.dropLast_subset location hx)
      · next hup =>
        rcases List.mem_append.1 hx with hx | hx
        · exact hl x hx
        · rw [List.mem_singleton.1 hx]
          exact (hdown (by rw [Path.follow, if_neg hskip, if_neg hup])).1

/-- A location can be walked to from the root if everything above it is a directory that can be searched,
something is there, and its names are short. -/
theorem walkFrom_of_isBelow {l : Location} (hdown : ∀ c ∈ l, Path.IsDown c) (hbelow : d.IsBelow l)
    (hsome : (d.entryAt? l).isSome) (hshort : ∀ c ∈ l, Text.utf8Length c ≤ longestName) :
    d.walkFrom [] l = .ok l := by
  induction l using List.reverseRecOn with
  | nil => rfl
  | append_singleton l c ih =>
    obtain ⟨habove, hdir, hsearch⟩ := isBelow_append_singleton.1 hbelow
    have hfront := ih (fun x hx => hdown x (by simp [hx])) habove (by rw [hdir]; rfl)
      fun x hx => hshort x (by simp [hx])
    refine walkFrom_append_eq_ok.2 ⟨l, hfront, ?_⟩
    exact (walkFrom_singleton (hdown c (by simp))).2 ⟨hdir, hsearch, hshort c (by simp), hsome, rfl⟩

/-- The normal form of an absolute path that leads below the root leads to the same place. -/
theorem walk_normal {path : Text} {l : Location} (habs : Path.isAbsolute path = true)
    (h : d.walk path = .ok l) (hne : l ≠ []) (hsome : (d.entryAt? l).isSome) :
    d.walk (Path.normal path) = .ok l := by
  obtain ⟨hzero, _, hlimit, hwalk⟩ := walk_eq_ok.1 h
  obtain ⟨hl, hbelow⟩ := eq_climbed_of_walk habs h
  rw [if_pos habs] at hwalk
  have hdown : ∀ c ∈ l, Path.IsDown c := by
    rw [hl]
    exact Path.isDown_of_mem_climbed fun c hc => Path.isPart_of_mem_parts hc
  have hnormal : Path.normal path = Path.render (Path.root path) l := by
    rw [Path.normal, habs, hl]
  have hparts : ∀ c ∈ l, Path.IsPart c := fun c hc => (hdown c hc).1
  have habs' : Path.isAbsolute (Path.normal path) = true := by
    rw [← Path.absolute_of_isAbsolute ['/'] habs]
    exact Path.isAbsolute_absolute path rfl
  refine walk_eq_ok.2 ⟨Path.not_mem_normal (by decide) (by decide) hzero, ?_,
    Nat.lt_of_le_of_lt (Path.utf8Length_normal_le habs) hlimit, ?_⟩
  · intro hnil
    rw [hnil] at habs'
    exact absurd habs' (by decide)
  · rw [if_pos habs', hnormal,
      walkFrom_render (Path.isRoot_root path) hparts hne fun _ => rfl]
    exact walkFrom_of_isBelow hdown hbelow hsome (le_longestName_of_walkFrom (by simp) hwalk)

/-! ### Directories above -/

theorem render_eq_pathOf {l : Location} (h : ∀ c ∈ l, Path.IsDown c) :
    Path.render ['/'] l = pathOf l := by
  rw [Path.render_eq (fun c hc => (h c hc).1) (by simp)]
  rfl

theorem root_pathOf {l : Location} (h : ∀ c ∈ l, Path.IsDown c) : Path.root (pathOf l) = ['/'] := by
  rw [← render_eq_pathOf h, Path.root_render (.inr (.inl rfl)) fun c hc => (h c hc).1]

theorem joined_pathOf {l : Location} {name : Text} (hl : ∀ c ∈ l, Path.IsDown c)
    (hname : Path.IsDown name) : Path.joined (pathOf l) name = pathOf (l ++ [name]) := by
  have hlong : ∀ c ∈ l ++ [name], Path.IsDown c := by
    intro c hc
    rcases List.mem_append.1 hc with hc | hc
    · exact hl c hc
    · rw [List.mem_singleton.1 hc]
      exact hname
  have hrelative : Path.isAbsolute name = false := by
    rw [Path.isAbsolute, decide_eq_false_iff_not]
    intro hhead
    exact hname.1.2.2 (List.mem_of_mem_head? hhead)
  rw [Path.joined_eq, hrelative, if_neg (by simp), parts_pathOf hl, Path.parts_of_isPart hname.1,
    root_pathOf hl, render_eq_pathOf hlong]

/-- The directories at and above a path are the fronts of its location, the longest first. -/
theorem ancestry_pathOf {l : Location} (h : ∀ c ∈ l, Path.IsDown c) :
    Path.ancestry (pathOf l) = l.inits.reverse.map pathOf := by
  have hinits : l.inits = (List.range (l.length + 1)).map (l.take ·) := by
    refine List.ext_getElem (by simp) fun n hn _ => ?_
    rw [List.getElem_inits]
    simp
  rw [Path.ancestry, parts_pathOf h, root_pathOf h, hinits, ← List.map_reverse, List.map_map]
  refine List.map_congr_left fun n _ => ?_
  exact render_eq_pathOf fun c hc => h c (List.mem_of_mem_take hc)

end Disk

end SpecifierLint
