/-
Components of paths.

A path is a root, which is nothing, one slash or two, and a list of parts.  Joining and normalising
work on the list of parts, and the text of the result has exactly these parts again.  Main statements:

* **`parts_render`**, **`root_render`** — a rendered path has the root and the parts it was made of;
* **`parts_joined`** — joined paths have the parts of both;
* **`render_append`** — a text without slashes behind a path lengthens its last part;
* **`climbed_eq_follow`** — going up for double points is the same on a stack and on a location.
-/
import SpecifierLint.Path.Basic

namespace SpecifierLint

/-! ### Pieces of a text -/

namespace Text

theorem not_mem_of_mem_split {sep : Char} {t piece : Text} (h : piece ∈ split sep t) :
    sep ∉ piece := by
  induction t generalizing piece with
  | nil =>
    simp only [split, List.mem_singleton] at h
    simp [h]
  | cons c rest ih =>
    rw [split] at h
    split at h
    · rcases List.mem_cons.1 h with rfl | h
      · simp
      · exact ih h
    · next hc =>
      cases hrest : split sep rest with
      | nil => exact absurd hrest (split_ne_nil sep rest)
      | cons first pieces =>
        rw [hrest] at h ih
        rcases List.mem_cons.1 h with rfl | h
        · rw [List.mem_cons, not_or]
          exact ⟨Ne.symm hc, ih (List.mem_cons_self ..)⟩
        · exact ih (List.mem_cons_of_mem _ h)

theorem mem_of_mem_split {sep x : Char} {t piece : Text} (h : piece ∈ split sep t) (hx : x ∈ piece) :
    x ∈ t := by
  induction t generalizing piece with
  | nil =>
    rw [split, List.mem_singleton] at h
    rwa [h] at hx
  | cons c rest ih =>
    rw [split] at h
    split at h
    · rcases List.mem_cons.1 h with rfl | h
      · exact absurd hx (by simp)
      · exact List.mem_cons_of_mem _ (ih h hx)
    · cases hrest : split sep rest with
      | nil => exact absurd hrest (split_ne_nil sep rest)
      | cons first pieces =>
        rw [hrest] at h ih
        rcases List.mem_cons.1 h with rfl | h
        · rcases List.mem_cons.1 hx with rfl | hx
          · exact List.mem_cons_self ..
          · exact List.mem_cons_of_mem _ (ih (List.mem_cons_self ..) hx)
        · exact List.mem_cons_of_mem _ (ih (List.mem_cons_of_mem _ h) hx)

theorem head?_split (sep : Char) (t : Text) :
    (Text.split sep t).head? = some (t.takeWhile (· ≠ sep)) := by
  induction t with
  | nil => rfl
  | cons c rest ih =>
    by_cases hc : c = sep
    · rw [Text.split, if_pos hc]
      simp [hc]
    · rw [Text.split, if_neg hc]
      cases hrest : Text.split sep rest with
      | nil => exact absurd hrest (Text.split_ne_nil sep rest)
      | cons piece pieces =>
        rw [hrest] at ih
        have hpiece : piece = rest.takeWhile (· ≠ sep) := Option.some.inj ih
        simp [hpiece, hc]

theorem split_append_cons (sep : Char) (a b : Text) :
    split sep (a ++ sep :: b) = split sep a ++ split sep b := by
  induction a with
  | nil => simp [split]
  | cons c a ih =>
    by_cases hc : c = sep
    · simp [split, hc, ih]
    · cases ha : split sep a with
      | nil => exact absurd ha (split_ne_nil sep a)
      | cons first pieces => simp [split, hc, ih, ha]

theorem split_of_not_mem {sep : Char} {t : Text} (h : sep ∉ t) : split sep t = [t] := by
  induction t with
  | nil => rfl
  | cons c rest ih =>
    rw [List.mem_cons, not_or] at h
    rw [split, if_neg (Ne.symm h.1), ih h.2]

theorem join_cons {sep t : Text} {rest : List Text} (h : rest ≠ []) :
    join sep (t :: rest) = t ++ sep ++ join sep rest := by
  cases rest with
  | nil => exact absurd rfl h
  | cons u rest => rfl

theorem split_join {sep : Char} {ts : List Text} (hne : ts ≠ []) (h : ∀ t ∈ ts, sep ∉ t) :
    split sep (join [sep] ts) = ts := by
  induction ts with
  | nil => exact absurd rfl hne
  | cons t rest ih =>
    by_cases hrest : rest = []
    · subst hrest
      exact split_of_not_mem (h t (by simp))
    · rw [join_cons hrest, List.append_assoc, List.singleton_append, split_append_cons]
      rw [split_of_not_mem (h t (by simp)), ih hrest fun u hu => h u (by simp [hu])]
      rfl

theorem not_mem_join {x : Char} {sep : Text} {ts : List Text} (hsep : x ∉ sep)
    (h : ∀ t ∈ ts, x ∉ t) : x ∉ join sep ts := by
  induction ts with
  | nil => simp [join]
  | cons t rest ih =>
    obtain ⟨ht, hrest⟩ := List.forall_mem_cons.1 h
    by_cases hnil : rest = []
    · rw [hnil]
      exact ht
    · rw [join_cons hnil]
      simp [ht, hsep, ih hrest]

theorem join_append {sep : Text} {ts us : List Text} (hts : ts ≠ []) (hus : us ≠ []) :
    join sep (ts ++ us) = join sep ts ++ sep ++ join sep us := by
  induction ts with
  | nil => exact absurd rfl hts
  | cons t rest ih =>
    by_cases hrest : rest = []
    · subst hrest
      exact join_cons hus
    · rw [List.cons_append, join_cons (by simp [hrest]), join_cons hrest, ih hrest]
      simp

end Text

namespace Path

/-! ### Parts -/

/-- A component that counts: it is not empty, no single point, and has no slash. -/
def IsPart (c : Text) : Prop := c ≠ [] ∧ c ≠ ['.'] ∧ '/' ∉ c

instance (c : Text) : Decidable (IsPart c) :=
  inferInstanceAs (Decidable (c ≠ [] ∧ c ≠ ['.'] ∧ '/' ∉ c))

theorem isPart_append {c t : Text} (h : IsPart c) (ht : '/' ∉ t) : IsPart (c ++ t) := by
  obtain ⟨hne, hdot, hslash⟩ := h
  refine ⟨by simp [hne], fun heq => ?_, by simp [hslash, ht]⟩
  rcases List.append_eq_singleton_iff.1 heq with ⟨hc, _⟩ | ⟨hc, _⟩
  · exact hne hc
  · exact hdot hc

/-- The slashes that a path can start with. -/
def IsRoot (root : Text) : Prop := root = [] ∨ root = ['/'] ∨ root = ['/', '/']

theorem isPart_of_mem_parts {path c : Text} (h : c ∈ parts path) : IsPart c := by
  rw [parts, List.mem_filter] at h
  obtain ⟨hmem, hc⟩ := h
  simp only [Bool.and_eq_true, Bool.not_eq_true', List.isEmpty_eq_false_iff, decide_eq_true_eq] at hc
  exact ⟨hc.1, hc.2, Text.not_mem_of_mem_split hmem⟩

theorem isRoot_root (path : Text) : IsRoot (root path) := by
  rw [root]
  split
  · exact .inl rfl
  · exact .inr (.inr rfl)
  · exact .inr (.inl rfl)

theorem parts_append_cons (a b : Text) : parts (a ++ '/' :: b) = parts a ++ parts b := by
  rw [parts, Text.split_append_cons, List.filter_append]
  rfl

theorem parts_cons_slash (t : Text) : parts ('/' :: t) = parts t := by
  have h := parts_append_cons [] t
  rw [show parts [] = [] by rfl] at h
  simpa using h

theorem parts_of_isPart {c : Text} (h : IsPart c) : parts c = [c] := by
  obtain ⟨hne, hdot, hslash⟩ := h
  rw [parts, Text.split_of_not_mem hslash]
  simp [hne, hdot]

theorem parts_root_append {r : Text} (h : IsRoot r) (t : Text) : parts (r ++ t) = parts t := by
  rcases h with rfl | rfl | rfl
  · rfl
  · exact parts_cons_slash t
  · show parts ('/' :: '/' :: t) = parts t
    rw [parts_cons_slash, parts_cons_slash]

theorem parts_join {ps : List Text} (h : ∀ c ∈ ps, IsPart c) : parts (Text.join ['/'] ps) = ps := by
  by_cases hne : ps = []
  · subst hne
    rfl
  · rw [parts, Text.split_join hne fun c hc => (h c hc).2.2, List.filter_eq_self]
    intro c hc
    obtain ⟨hnil, hdot, _⟩ := h c hc
    simp [hnil, hdot]

/-! ### Rendered paths -/

theorem join_ne_nil {ps : List Text} (h : ∀ c ∈ ps, IsPart c) (hne : ps ≠ []) :
    Text.join ['/'] ps ≠ [] := by
  obtain ⟨c, rest, rfl⟩ := List.exists_cons_of_ne_nil hne
  have hc := (h c (by simp)).1
  by_cases hrest : rest = []
  · subst hrest
    exact hc
  · rw [Text.join_cons hrest]
    simp [hc]

theorem render_eq {r : Text} {ps : List Text} (h : ∀ c ∈ ps, IsPart c) (hne : ¬ (r = [] ∧ ps = [])) :
    render r ps = r ++ Text.join ['/'] ps := by
  have hsome : (r ++ Text.join ['/'] ps).isEmpty = false := by
    rw [List.isEmpty_eq_false_iff]
    intro hnil
    obtain ⟨hr, hjoin⟩ := List.append_eq_nil_iff.1 hnil
    exact join_ne_nil h (fun hps => hne ⟨hr, hps⟩) hjoin
  rw [render]
  simp only [hsome, Bool.false_eq_true, if_false]

/-- A rendered path has the parts it was made of. -/
theorem parts_render {r : Text} {ps : List Text} (hr : IsRoot r) (h : ∀ c ∈ ps, IsPart c) :
    parts (render r ps) = ps := by
  by_cases hne : r = [] ∧ ps = []
  · rw [hne.1, hne.2]
    rfl
  · rw [render_eq h hne, parts_root_append hr, parts_join h]

theorem takeWhile_join {ps : List Text} (h : ∀ c ∈ ps, IsPart c) :
    (Text.join ['/'] ps).takeWhile (· = '/') = [] := by
  cases ps with
  | nil => rfl
  | cons c rest =>
    obtain ⟨x, c', rfl⟩ := List.exists_cons_of_ne_nil (h c (by simp)).1
    have hx : x ≠ '/' := by
      have hslash := (h (x :: c') (by simp)).2.2
      rw [List.mem_cons, not_or] at hslash
      exact Ne.symm hslash.1
    by_cases hrest : rest = []
    · subst hrest
      simp [Text.join, hx]
    · rw [Text.join_cons hrest]
      simp [hx]

/-- A rendered path has the root it was made of. -/
theorem root_render {r : Text} {ps : List Text} (hr : IsRoot r) (h : ∀ c ∈ ps, IsPart c) :
    root (render r ps) = r := by
  by_cases hne : r = [] ∧ ps = []
  · rw [hne.1, hne.2]
    rfl
  · -- the joined parts do not start with a slash, so the slashes in front are those of the root
    have hjoin := takeWhile_join h
    rw [render_eq h hne, root]
    rcases hr with rfl | rfl | rfl
    · simp [hjoin]
    · simp [hjoin]
    · simp [hjoin]

theorem isAbsolute_iff_root {path : Text} : isAbsolute path = true ↔ root path ≠ [] := by
  rw [isAbsolute, root]
  cases path with
  | nil => simp
  | cons c rest =>
    by_cases hc : c = '/'
    · subst hc
      simp only [List.head?_cons, decide_true, List.takeWhile_cons, if_true, List.length_cons,
        true_iff]
      split
      · next hlen => exact absurd hlen (by omega)
      · simp
      · simp
    · simp [hc]

theorem ne_nil_of_isAbsolute {path : Text} (h : isAbsolute path = true) : path ≠ [] := by
  rintro rfl
  exact absurd h (by decide)

theorem root_of_isAbsolute {path : Text} (h : isAbsolute path = true) :
    root path = ['/'] ∨ root path = ['/', '/'] := by
  rcases isRoot_root path with hr | hr | hr
  · exact absurd hr (isAbsolute_iff_root.1 h)
  · exact .inl hr
  · exact .inr hr

theorem clean_render {r : Text} {ps : List Text} (hr : IsRoot r) (h : ∀ c ∈ ps, IsPart c) :
    clean (render r ps) = render r ps := by
  rw [clean, root_render hr h, parts_render hr h]

/-- A text without slashes behind a path lengthens its last part. -/
theorem render_append {r c t : Text} {ps : List Text} (h : ∀ x ∈ ps ++ [c], IsPart x) (ht : '/' ∉ t) :
    render r (ps ++ [c]) ++ t = render r (ps ++ [c ++ t]) := by
  have h' : ∀ x ∈ ps ++ [c ++ t], IsPart x := by
    intro x hx
    rcases List.mem_append.1 hx with hx | hx
    · exact h x (by simp [hx])
    · rw [List.mem_singleton.1 hx]
      exact isPart_append (h c (by simp)) ht
  rw [render_eq h (by simp), render_eq h' (by simp)]
  by_cases hps : ps = []
  · subst hps
    simp [Text.join]
  · rw [Text.join_append hps (by simp), Text.join_append hps (by simp)]
    simp [Text.join]

theorem parts_clean (path : Text) : parts (clean path) = parts path :=
  parts_render (isRoot_root path) fun _ hc => isPart_of_mem_parts hc

theorem isAbsolute_clean (path : Text) : isAbsolute (clean path) = isAbsolute path := by
  rw [Bool.eq_iff_iff, isAbsolute_iff_root, isAbsolute_iff_root, clean,
    root_render (isRoot_root path) fun c hc => isPart_of_mem_parts hc]

/-! ### Joined paths -/

theorem isPart_of_mem_append {a b c : Text} (h : c ∈ parts a ++ parts b) : IsPart c := by
  rcases List.mem_append.1 h with h | h
  · exact isPart_of_mem_parts h
  · exact isPart_of_mem_parts h

/-- A path joined to a directory is rendered from the parts of both, unless it is absolute. -/
theorem joined_eq (first second : Text) :
    joined first second
      = if isAbsolute second then render (root second) (parts second)
        else render (root first) (parts first ++ parts second) := by
  rw [joined]
  split
  · rfl
  · rfl

theorem parts_joined {first second : Text} (h : isAbsolute second = false) :
    parts (joined first second) = parts first ++ parts second := by
  rw [joined_eq, h]
  exact parts_render (isRoot_root first) fun c hc => isPart_of_mem_append hc

theorem isAbsolute_joined (first second : Text) :
    isAbsolute (joined first second) = (isAbsolute first || isAbsolute second) := by
  rw [joined]
  split
  · next hsecond => rw [isAbsolute_clean, hsecond, Bool.or_true]
  · next hsecond =>
    rw [Bool.not_eq_true] at hsecond
    rw [hsecond, Bool.or_false, Bool.eq_iff_iff, isAbsolute_iff_root, isAbsolute_iff_root,
      root_render (isRoot_root first) fun _ hc => isPart_of_mem_append hc]

/-! ### Going up -/

/-- One step along a component: nowhere, up, or down. -/
def follow (location : List Text) (c : Text) : List Text :=
  if c = [] ∨ c = ['.'] then location
  else if c = ['.', '.'] then location.dropLast
  else location ++ [c]

/-- A part that leads down. -/
def IsDown (c : Text) : Prop := IsPart c ∧ c ≠ ['.', '.']

instance (c : Text) : Decidable (IsDown c) :=
  inferInstanceAs (Decidable (IsPart c ∧ c ≠ ['.', '.']))

theorem follow_of_isDown {location : List Text} {c : Text} (h : IsDown c) :
    follow location c = location ++ [c] := by
  obtain ⟨⟨hne, hdot, _⟩, hup⟩ := h
  rw [follow, if_neg (by simp [hne, hdot]), if_neg hup]

theorem foldl_follow_of_isDown {location ps : List Text} (h : ∀ c ∈ ps, IsDown c) :
    ps.foldl follow location = location ++ ps := by
  induction ps generalizing location with
  | nil => simp
  | cons c rest ih =>
    rw [List.foldl_cons, follow_of_isDown (h c (by simp)), ih fun x hx => h x (by simp [hx])]
    simp

theorem isDown_append {c t : Text} (h : IsPart c) (ht : '/' ∉ t) (hne : t ≠ []) :
    IsDown (c ++ t) := by
  refine ⟨isPart_append h ht, fun heq => ?_⟩
  -- only a single point can be lengthened to two points, and it is no part
  obtain ⟨hnil, hdot, _⟩ := h
  obtain ⟨x, rest, rfl⟩ := List.exists_cons_of_ne_nil hnil
  cases rest with
  | nil =>
    obtain ⟨rfl, _⟩ := List.cons.inj heq
    exact hdot rfl
  | cons y rest =>
    have hlength := congrArg List.length heq
    have htlength := List.length_pos_iff.2 hne
    simp only [List.length_append, List.length_cons, List.length_nil] at hlength
    omega

theorem foldl_follow_parts (location : List Text) (path : Text) :
    (parts path).foldl follow location = (Text.split '/' path).foldl follow location := by
  rw [parts]
  induction Text.split '/' path generalizing location with
  | nil => rfl
  | cons c rest ih =>
    by_cases hc : c = [] ∨ c = ['.']
    · have hskip : follow location c = location := by rw [follow, if_pos hc]
      rw [List.filter_cons_of_neg (by rcases hc with rfl | rfl <;> simp), List.foldl_cons, hskip]
      exact ih location
    · rw [not_or] at hc
      rw [List.filter_cons_of_pos (by simp [hc.1, hc.2]), List.foldl_cons, List.foldl_cons]
      exact ih _

theorem isDown_of_mem_foldl {location ps : List Text} (hl : ∀ c ∈ location, IsDown c)
    (hps : ∀ c ∈ ps, IsPart c) : ∀ c ∈ ps.foldl follow location, IsDown c := by
  induction ps generalizing location with
  | nil => exact hl
  | cons p rest ih =>
    rw [List.foldl_cons]
    refine ih ?_ fun c hc => hps c (by simp [hc])
    intro c hc
    rw [follow] at hc
    split at hc
    · exact hl c hc
    · split at hc
      · exact hl c (List.dropLast_subset location hc)
      · next hup =>
        rcases List.mem_append.1 hc with hc | hc
        · exact hl c hc
        · rw [List.mem_singleton.1 hc]
          exact ⟨hps p (by simp), hup⟩

theorem foldl_climb {ps stack : List Text} (hstack : ['.', '.'] ∉ stack)
    (h : ∀ c ∈ ps, IsPart c) :
    (ps.foldl (climb true) stack).reverse = ps.foldl follow stack.reverse := by
  induction ps generalizing stack with
  | nil => rfl
  | cons c rest ih =>
    obtain ⟨hne, hdot, _⟩ := h c (by simp)
    have hrest : ∀ x ∈ rest, IsPart x := fun x hx => h x (by simp [hx])
    rw [List.foldl_cons, List.foldl_cons, follow, if_neg (by simp [hne, hdot])]
    by_cases hup : c = ['.', '.']
    · rw [if_pos hup, climb.eq_def, if_pos hup]
      cases stack with
      | nil =>
        simp only [if_true]
        exact ih (by simp) hrest
      | cons top below =>
        -- a stack without double points is left by its top, as a location by its last part
        rw [List.mem_cons, not_or] at hstack
        simp only [if_neg (Ne.symm hstack.1)]
        rw [ih hstack.2 hrest]
        simp
    · rw [if_neg hup, climb.eq_def, if_neg hup]
      rw [ih (by rw [List.mem_cons, not_or]; exact ⟨Ne.symm hup, hstack⟩) hrest]
      simp

/-- Going up for double points is the same on a stack and on a location. -/
theorem climbed_eq_follow {ps : List Text} (h : ∀ c ∈ ps, IsPart c) :
    climbed true ps = ps.foldl follow [] := by
  rw [climbed, foldl_climb (by simp) h]
  rfl

theorem isDown_of_mem_climbed {ps : List Text} (h : ∀ c ∈ ps, IsPart c) :
    ∀ c ∈ climbed true ps, IsDown c := by
  rw [climbed_eq_follow h]
  exact isDown_of_mem_foldl (by simp) h

theorem climbed_of_isDown {ps : List Text} (h : ∀ c ∈ ps, IsDown c) : climbed true ps = ps := by
  rw [climbed_eq_follow fun c hc => (h c hc).1, foldl_follow_of_isDown h]
  rfl

/-! ### Normal paths -/

theorem parts_within {directory path : Text} (h : isAbsolute path = false) :
    parts (within directory path) = parts directory ++ parts path := by
  rw [within, h]
  simp only [Bool.false_eq_true, if_false]
  split
  · next hend =>
    rw [Bool.or_eq_true, decide_eq_true_eq] at hend
    rcases hend with hnil | hlast
    · rw [List.isEmpty_iff.1 hnil]
      rfl
    · obtain ⟨front, rfl⟩ := List.getLast?_eq_some_iff.1 hlast
      have hfront : parts (front ++ ['/']) = parts front := by
        rw [parts_append_cons, show parts [] = [] by rfl, List.append_nil]
      rw [hfront, List.append_assoc, List.singleton_append, parts_append_cons]
  · rw [List.append_assoc, List.singleton_append, parts_append_cons]

theorem isAbsolute_within {directory : Text} (path : Text) (h : isAbsolute directory = true) :
    isAbsolute (within directory path) = true := by
  rw [within]
  split
  · assumption
  · have hhead : ∀ t : Text, isAbsolute (directory ++ t) = true := by
      intro t
      cases directory with
      | nil => exact absurd h (by simp [isAbsolute])
      | cons c rest => simpa [isAbsolute] using h
    split
    · exact hhead path
    · rw [List.append_assoc]
      exact hhead _

/-- The absolute form of a path, as its root and what is left after going up. -/
theorem absolute_eq {cwd : Text} (path : Text) (h : isAbsolute cwd = true) :
    absolute cwd path = render (root (within cwd path)) (climbed true (parts (within cwd path))) := by
  rw [absolute, normal, isAbsolute_within path h]

theorem isPart_of_mem_climbed {path c : Text} (h : c ∈ climbed true (parts path)) : IsPart c :=
  (isDown_of_mem_climbed (fun _ hx => isPart_of_mem_parts hx) c h).1

theorem parts_absolute {cwd : Text} (path : Text) (h : isAbsolute cwd = true) :
    parts (absolute cwd path) = climbed true (parts (within cwd path)) := by
  rw [absolute_eq path h]
  exact parts_render (isRoot_root _) fun _ hc => isPart_of_mem_climbed hc

theorem clean_absolute {cwd : Text} (path : Text) (h : isAbsolute cwd = true) :
    clean (absolute cwd path) = absolute cwd path := by
  rw [absolute_eq path h]
  exact clean_render (isRoot_root _) fun _ hc => isPart_of_mem_climbed hc

theorem isAbsolute_absolute {cwd : Text} (path : Text) (h : isAbsolute cwd = true) :
    isAbsolute (absolute cwd path) = true := by
  rw [absolute_eq path h, isAbsolute_iff_root,
    root_render (isRoot_root _) fun _ hc => isPart_of_mem_climbed hc]
  exact isAbsolute_iff_root.1 (isAbsolute_within path h)

theorem dropWhile_render {r : Text} {ps : List Text} (hr : r = ['/'] ∨ r = ['/', '/'])
    (h : ∀ c ∈ ps, IsPart c) : (render r ps).dropWhile (· = '/') = Text.join ['/'] ps := by
  have hjoin : (Text.join ['/'] ps).dropWhile (· = '/') = Text.join ['/'] ps := by
    have hsplit := @List.takeWhile_append_dropWhile _ (· = '/') (Text.join ['/'] ps)
    rwa [takeWhile_join h, List.nil_append] at hsplit
  rcases hr with rfl | rfl
  · rw [render_eq h (by simp)]
    simpa using hjoin
  · rw [render_eq h (by simp)]
    simpa using hjoin

/-- A resolved path has one slash in front, and parts that lead down only. -/
theorem resolved_eq {cwd : Text} (path : Text) (h : isAbsolute cwd = true) :
    resolved cwd path = render ['/'] (climbed true (parts (within cwd path))) := by
  have hparts : ∀ c ∈ climbed true (parts (within cwd path)), IsPart c :=
    fun _ hc => isPart_of_mem_climbed hc
  have hroot := root_of_isAbsolute (isAbsolute_within path h)
  rw [resolved, absolute_eq path h, dropWhile_render hroot hparts, render_eq hparts (by simp)]
  rfl

/-! ### Characters of paths -/

theorem mem_of_mem_foldl_climb {rooted : Bool} {ps stack : List Text} {c : Text}
    (h : c ∈ ps.foldl (climb rooted) stack) : c ∈ stack ∨ c ∈ ps := by
  induction ps generalizing stack with
  | nil => exact .inl h
  | cons p rest ih =>
    rcases ih h with h | h
    · -- going up puts the double point on the stack or takes something off it
      rw [climb.eq_def] at h
      split at h
      · split at h
        · split at h
          · exact absurd h (by simp)
          · rw [List.mem_singleton.1 h]
            exact .inr (List.mem_cons_self ..)
        · next top below =>
          split at h
          · rcases List.mem_cons.1 h with rfl | h
            · exact .inr (List.mem_cons_self ..)
            · exact .inl h
          · exact .inl (List.mem_cons_of_mem _ h)
      · rcases List.mem_cons.1 h with rfl | h
        · exact .inr (List.mem_cons_self ..)
        · exact .inl h
    · exact .inr (List.mem_cons_of_mem _ h)

theorem not_mem_render {x : Char} {r : Text} {ps : List Text} (hslash : x ≠ '/') (hdot : x ≠ '.')
    (hr : IsRoot r) (h : ∀ c ∈ ps, x ∉ c) : x ∉ render r ps := by
  rw [render]
  split
  · simpa using hdot
  · rw [List.mem_append, not_or]
    refine ⟨?_, Text.not_mem_join (by simpa using hslash) h⟩
    rcases hr with rfl | rfl | rfl
    · simp
    · simpa using hslash
    · simpa using hslash

/-- Slashes and points apart, every character of a path is in one of its parts. -/
theorem exists_part_of_mem {x : Char} {path : Text} (hslash : x ≠ '/') (hdot : x ≠ '.') (h : x ∈ path) :
    ∃ c ∈ parts path, x ∈ c := by
  refine Classical.byContradiction fun hnone => ?_
  rw [← Text.join_split '/' path] at h
  refine Text.not_mem_join (by simpa using hslash) (fun c hc hx => hnone ?_) h
  refine ⟨c, List.mem_filter.2 ⟨hc, ?_⟩, hx⟩
  have hnil : c ≠ [] := List.ne_nil_of_mem hx
  have hpoint : c ≠ ['.'] := by
    rintro rfl
    exact hdot (List.mem_singleton.1 hx)
  simp [hnil, hpoint]

theorem not_mem_normal {x : Char} {path : Text} (hslash : x ≠ '/') (hdot : x ≠ '.') (h : x ∉ path) :
    x ∉ normal path := by
  refine not_mem_render hslash hdot (isRoot_root path) fun c hc hx => h ?_
  rw [climbed, List.mem_reverse] at hc
  rcases mem_of_mem_foldl_climb hc with hc | hc
  · exact absurd hc (by simp)
  · exact Text.mem_of_mem_split (List.mem_filter.1 hc).1 hx

theorem not_mem_dirName {x : Char} {path : Text} (h : x ∉ path) : x ∉ dirName path := by
  rw [dirName]
  split
  · next before name hcut =>
    obtain ⟨rfl, _⟩ := cutAtLast_eq_some hcut
    have hhead : x ∉ before ++ ['/'] := by
      intro hx
      refine h ?_
      rw [List.append_cons]
      exact List.mem_append_left name hx
    dsimp only
    split
    · exact hhead
    · intro hx
      refine hhead (List.mem_reverse.1 ?_)
      exact (List.dropWhile_sublist _).subset (List.mem_reverse.1 hx)
  · simp

end Path

end SpecifierLint
