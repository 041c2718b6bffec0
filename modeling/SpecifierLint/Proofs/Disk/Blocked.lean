/-
Paths that cannot be tested.

A test whether a path leads somewhere takes whatever is not there for "no", with two exceptions: it fails
if the path is too long, or a name in it that it comes to look for in a directory, and if it comes to a
directory that cannot be searched.  Main statements:

* **`walkFrom_eq_error`** — a walk is given up at the first name that stops it;
* **`isFile_eq_error`** — a test fails exactly at a path that is blocked;
* **`isSpelledFile_eq_error`** — so does the test of a spelled path.
-/
import SpecifierLint.Proofs.Disk.Walk

namespace SpecifierLint

/-- The errors that a test does not take for "no". -/
def AccessError.EndsTest (e : AccessError) : Prop := e = .nameTooLong ∨ e = .permission

namespace Disk

variable {d : Disk} {e : AccessError}

/-! ### Walks that are given up -/

/-- At a location the walk on to a name is given up. -/
inductive Stops (d : Disk) (l : Location) (name : Text) : AccessError → Prop
  | closed (directory : d.entryAt? l = some .directory) (named : name ≠ [])
      (closed : d.isSearchable l = false) : Stops d l name .permission
  | long (directory : d.entryAt? l = some .directory) (searchable : d.isSearchable l = true)
      (long : longestName < Text.utf8Length name) : Stops d l name .nameTooLong

/-- The path is too long, or a name in it stops the walk. -/
inductive Blocked (d : Disk) (path : Text) : AccessError → Prop
  | whole (long : pathLimit ≤ Text.utf8Length path) : Blocked d path .nameTooLong
  | name {before after : List Text} {name : Text} {l : Location} {e : AccessError}
      (short : Text.utf8Length path < pathLimit)
      (split : Text.split '/' path = before ++ name :: after)
      (reached : d.walkFrom (if Path.isAbsolute path then [] else d.cwd) before = .ok l)
      (stops : d.Stops l name e) : Blocked d path e

theorem Stops.endsTest {l : Location} {name : Text} (h : d.Stops l name e) : e.EndsTest := by
  cases h with
  | closed => exact .inr rfl
  | long => exact .inl rfl

theorem Blocked.endsTest {path : Text} (h : d.Blocked path e) : e.EndsTest := by
  cases h with
  | whole => exact .inl rfl
  | name _ _ _ stops => exact stops.endsTest

theorem Stops.walkFrom_cons {l : Location} {name : Text} (h : d.Stops l name e) (rest : List Text) :
    d.walkFrom l (name :: rest) = .error e := by
  cases h with
  | closed directory named closed => rw [walkFrom, if_neg (by simp [directory]), if_pos (by simp [named, closed])]
  | long directory searchable long =>
    have hnil : name ≠ [] := by
      rintro rfl
      exact absurd long (by decide)
    have hdot : name ≠ ['.'] := by
      rintro rfl
      exact absurd long (by decide)
    have hup : name ≠ ['.', '.'] := by
      rintro rfl
      exact absurd long (by decide)
    rw [walkFrom, if_neg (by simp [directory]), if_neg (by simp [searchable]),
      if_neg (by simp [hnil, hdot]), if_neg hup, if_pos long]

/-- A walk is given up at the first name that stops it. -/
theorem walkFrom_eq_error (he : e.EndsTest) {location : Location} {cs : List Text} :
    d.walkFrom location cs = .error e ↔
      ∃ before name after l, cs = before ++ name :: after ∧ d.walkFrom location before = .ok l
        ∧ d.Stops l name e := by
  constructor
  · intro h
    induction cs generalizing location with
    | nil => exact absurd h (by simp [walkFrom])
    | cons c rest ih =>
      -- a step that does not fail comes before the steps to the name
      have hlater {next : Location}
          (hnext : ∀ before, d.walkFrom location (c :: before) = d.walkFrom next before)
          (h : d.walkFrom next rest = .error e) :
          ∃ before name after l, c :: rest = before ++ name :: after
            ∧ d.walkFrom location before = .ok l ∧ d.Stops l name e := by
        obtain ⟨before, name, after, l, rfl, hwalk, hstops⟩ := ih h
        exact ⟨c :: before, name, after, l, rfl, (hnext before).trans hwalk, hstops⟩
      rw [walkFrom] at h
      split at h
      · cases h
        exact absurd he (by simp [AccessError.EndsTest])
      · next hdir =>
        have hdirectory : d.entryAt? location = some .directory := by simpa using hdir
        split at h
        · next hclosed =>
          cases h
          obtain ⟨hnamed, hclosed⟩ := Bool.and_eq_true_iff.1 hclosed
          exact ⟨[], c, rest, location, rfl, rfl,
            .closed hdirectory (by simpa using hnamed) (by simpa using hclosed)⟩
        · next hopen =>
          split at h
          · next hskip =>
            exact hlater (fun before => by rw [walkFrom, if_neg hdir, if_neg hopen, if_pos hskip]) h
          · next hskip =>
            split at h
            · next hup =>
              exact hlater (fun before => by
                rw [walkFrom, if_neg hdir, if_neg hopen, if_neg hskip, if_pos hup]) h
            · next hup =>
              split at h
              · next hlong =>
                cases h
                have hnamed : c ≠ [] := fun hc => hskip (by simp [hc])
                exact ⟨[], c, rest, location, rfl, rfl,
                  .long hdirectory (by simpa [hnamed] using hopen) hlong⟩
              · next hshort =>
                split at h
                · next hthere =>
                  refine hlater (fun before => ?_) h
                  rw [walkFrom, if_neg hdir, if_neg hopen, if_neg hskip, if_neg hup, if_neg hshort,
                    if_pos hthere]
                · cases h
                  exact absurd he (by simp [AccessError.EndsTest])
  · rintro ⟨before, name, after, l, rfl, hwalk, hstops⟩
    rw [walkFrom_append, hwalk]
    exact hstops.walkFrom_cons after

theorem walkBytes_eq_error (he : e.EndsTest) {path : Text} :
    d.walkBytes path = .error e ↔ d.Blocked path e := by
  rw [walkBytes]
  constructor
  · intro h
    split at h
    · cases h
      exact absurd he (by simp [AccessError.EndsTest])
    · split at h
      · next hlong =>
        cases h
        exact .whole hlong
      · next hshort =>
        obtain ⟨_, _, _, _, hsplit, hwalk, hstops⟩ := (walkFrom_eq_error he).1 h
        exact .name (Nat.lt_of_not_le hshort) hsplit hwalk hstops
  · intro h
    split
    · next hnil =>
      rw [List.isEmpty_iff] at hnil
      subst hnil
      cases h with
      | whole long => exact absurd long (by decide)
      | @name before after name _ _ _ split _ stops =>
        -- the one component of the empty path is empty
        have hone : name ∈ Text.split '/' [] := by rw [split]; simp
        rw [show Text.split '/' [] = [[]] by rfl, List.mem_singleton] at hone
        subst hone
        cases stops with
        | closed _ named _ => exact absurd rfl named
        | long _ _ long => exact absurd long (by decide)
    · split
      · next hlong =>
        cases h with
        | whole _ => rfl
        | name short _ _ _ => exact absurd hlong (Nat.not_le.2 short)
      · next hshort =>
        cases h with
        | whole long => exact absurd long hshort
        | name _ split reached stops =>
          exact (walkFrom_eq_error he).2 ⟨_, _, _, _, split, reached, stops⟩

theorem walk_eq_error (he : e.EndsTest) {path : Text} :
    d.walk path = .error e ↔ '\x00' ∉ path ∧ d.Blocked path e := by
  rw [walk, ← walkBytes_eq_error he]
  by_cases hzero : '\x00' ∈ path
  · rw [if_pos (by simpa using hzero)]
    refine ⟨fun h => ?_, fun h => absurd hzero h.1⟩
    cases h
    exact absurd he (by simp [AccessError.EndsTest])
  · rw [if_neg (by simpa using hzero)]
    simp [hzero]

/-! ### Tests that fail -/

theorem arrive_eq_error (he : e.EndsTest) {walked : Except AccessError Location} :
    d.arrive walked = .error e ↔ walked = .error e := by
  cases walked with
  | error e' => simp [arrive]
  | ok l =>
    rw [arrive]
    split
    · simp
    · refine ⟨fun h => ?_, fun h => absurd h (by simp)⟩
      cases h
      exact absurd he (by simp [AccessError.EndsTest])

theorem verdict_eq_error {passes : Entry → Bool} {path : Text} {fault : Fault}
    {walked : Except AccessError Location} :
    verdict passes path (d.arrive walked) = .error fault ↔
      ∃ e : AccessError, e.EndsTest ∧ walked = .error e ∧ fault = .access e path := by
  constructor
  · intro h
    cases hreached : d.arrive walked with
    | ok found =>
      rw [hreached] at h
      exact absurd h (by simp [verdict])
    | error e =>
      rw [hreached] at h
      cases e <;> simp only [verdict, Except.error.injEq, reduceCtorEq] at h
      case nameTooLong =>
        exact ⟨_, .inl rfl, (arrive_eq_error (.inl rfl)).1 hreached, h.symm⟩
      case permission =>
        exact ⟨_, .inr rfl, (arrive_eq_error (.inr rfl)).1 hreached, h.symm⟩
  · rintro ⟨e, he, hwalk, rfl⟩
    rw [(arrive_eq_error he).2 hwalk]
    rcases he with rfl | rfl <;> rfl

theorem test_eq_error {passes : Entry → Bool} {path : Text} {fault : Fault} :
    d.test passes path = .error fault ↔
      '\x00' ∉ path ∧ ∃ e, d.Blocked path e ∧ fault = .access e path := by
  rw [test, reach, verdict_eq_error]
  constructor
  · rintro ⟨e, he, hwalk, rfl⟩
    obtain ⟨hzero, hblocked⟩ := (walk_eq_error he).1 hwalk
    exact ⟨hzero, e, hblocked, rfl⟩
  · rintro ⟨hzero, e, hblocked, rfl⟩
    exact ⟨e, hblocked.endsTest, (walk_eq_error hblocked.endsTest).2 ⟨hzero, hblocked⟩, rfl⟩

/-- Whether a path leads to a file cannot be told exactly if it is blocked. -/
theorem isFile_eq_error {path : Text} {fault : Fault} :
    d.isFile path = .error fault ↔
      '\x00' ∉ path ∧ ∃ e, d.Blocked path e ∧ fault = .access e path := test_eq_error

/-- Whether a spelled path leads to a file cannot be told exactly if the path that it stands for is
blocked. -/
theorem isSpelledFile_eq_error {path : Text} {fault : Fault} :
    d.isSpelledFile path = .error fault ↔
      (Path.spelledBytes? path).isSome
        ∧ ∃ e, d.Blocked (Path.unspelled path) e ∧ fault = .access e path := by
  rw [isSpelledFile]
  cases Path.spelledBytes? path with
  | none => simp
  | some bytes =>
    rw [if_neg (by simp), verdict_eq_error]
    simp only [Option.isSome_some, true_and]
    constructor
    · rintro ⟨e, he, hwalk, rfl⟩
      exact ⟨e, (walkBytes_eq_error he).1 hwalk, rfl⟩
    · rintro ⟨e, hblocked, rfl⟩
      exact ⟨e, hblocked.endsTest, (walkBytes_eq_error hblocked.endsTest).2 hblocked, rfl⟩

/-! ### Paths with U+0000 -/

theorem walkFrom_ne_zeroCharacter {location : Location} {cs : List Text} :
    d.walkFrom location cs ≠ .error .zeroCharacter := by
  induction cs generalizing location with
  | nil => simp [walkFrom]
  | cons c rest ih =>
    rw [walkFrom]
    split
    · simp
    · split
      · simp
      · split
        · exact ih
        · split
          · exact ih
          · split
            · simp
            · split
              · exact ih
              · simp

/-- Only a path with U+0000 is refused for it. -/
theorem reach_ne_zeroCharacter {path : Text} (hzero : '\x00' ∉ path) :
    d.reach path ≠ .error .zeroCharacter := by
  have hwalk : d.walk path ≠ .error .zeroCharacter := by
    rw [walk, if_neg (by simpa using hzero), walkBytes]
    split
    · simp
    · split
      · simp
      · exact walkFrom_ne_zeroCharacter
  rw [reach]
  cases hreached : d.walk path with
  | error e =>
    intro h
    cases h
    exact hwalk hreached
  | ok l =>
    rw [arrive]
    split <;> simp

end Disk

end SpecifierLint
