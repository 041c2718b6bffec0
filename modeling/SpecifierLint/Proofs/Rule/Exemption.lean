/-
Specifiers that become exempt.

Behind a specifier that the rule looks at an extension can be written so that the rule leaves it alone
from then on: the empty specifier becomes the name of a package, and so does a scope that ends in its
slash.  No other does, and no directory of a core module has a point in its name.  Main statements:

* **`isPackageName_cut`** — what has a slash is the name of a package exactly if a scope stands before its
  first slash and one segment behind it;
* **`isPackageName_append_iff`** — which specifiers become the name of a package;
* **`isCoreDirectory_append`** — no specifier with an extension is the directory of a core module.
-/
import SpecifierLint.Rule.Exemption

namespace SpecifierLint.Rule

theorem isSegment_iff {t : Text} : isSegment t = true ↔ t ≠ [] ∧ ∀ c ∈ t, isSlash c = false := by
  simp [isSegment]

theorem isPackageName_of_isSegment {s : Text} (h : isSegment s = true) : isPackageName s = true := by
  rw [isPackageName.eq_def, h, Bool.true_or]

/-- What has a slash is the name of a package exactly if a scope stands before its first slash and one
segment behind it. -/
theorem isPackageName_cut {before behind : Text} {c : Char} (hplain : ∀ x ∈ before, isSlash x = false)
    (hc : isSlash c = true) :
    isPackageName (before ++ c :: behind) = true ↔
      ∃ scope, before = '@' :: scope ∧ isSegment scope = true ∧ isSegment behind = true := by
  -- with a slash in it the name is no single segment, so it must be a scope and a segment
  have hsegment : isSegment (before ++ c :: behind) = false := by
    rw [Bool.eq_false_iff, ne_eq, isSegment_iff]
    rintro ⟨_, hall⟩
    rw [hall c (by simp)] at hc
    exact absurd hc (by simp)
  rw [isPackageName.eq_def, hsegment, Bool.false_or]
  cases before with
  | nil =>
    have hat : c ≠ '@' := by
      rintro rfl
      exact absurd hc (by decide)
    rw [List.nil_append]
    split
    · next heq => exact absurd (List.cons.inj heq).1 hat
    · simp
  | cons x scope =>
    rw [List.cons_append]
    split
    · next heq =>
      obtain ⟨rfl, rfl⟩ := List.cons.inj heq
      have hscope : ∀ y ∈ scope, (!isSlash y) = true := by
        intro y hy
        rw [hplain y (List.mem_cons_of_mem _ hy)]
        rfl
      rw [List.takeWhile_append_of_pos hscope, List.dropWhile_append_of_pos hscope]
      simp [hc]
    · next hat =>
      have hx : x ≠ '@' := by
        rintro rfl
        exact hat _ rfl
      simp [hx]

/-- A package scope with the slash that ends it. -/
def IsScope (s : Text) : Prop :=
  ∃ scope c, s = '@' :: (scope ++ [c]) ∧ isSegment scope = true ∧ isSlash c = true

/-- Behind the empty specifier and behind a scope a segment that starts with a point makes the name of
a package, and behind no other specifier that is none. -/
theorem isPackageName_append_iff {s rest : Text} (h : isPackageName s = false) :
    isPackageName (s ++ '.' :: rest) = true ↔
      isSegment ('.' :: rest) = true ∧ (s = [] ∨ IsScope s) := by
  constructor
  · intro hlong
    cases hslash : s.find? isSlash with
    | none =>
      -- without a slash the specifier is empty, for it is no segment
      have hnil : s = [] := by
        refine Decidable.byContradiction fun hne => ?_
        have hs : isSegment s = true :=
          isSegment_iff.2 ⟨hne, fun x hx => by simpa using List.find?_eq_none.1 hslash x hx⟩
        rw [isPackageName_of_isSegment hs] at h
        exact absurd h (by simp)
      subst hnil
      exact ⟨by simpa [isPackageName] using hlong, .inl rfl⟩
    | some c =>
      obtain ⟨hc, before, behind, rfl, hbefore⟩ := List.find?_eq_some_iff_append.1 hslash
      have hplain : ∀ x ∈ before, isSlash x = false := fun x hx => by simpa using hbefore x hx
      rw [List.append_assoc, List.cons_append, isPackageName_cut hplain hc] at hlong
      obtain ⟨scope, rfl, hscope, hname⟩ := hlong
      have hbehind : behind = [] := by
        refine Decidable.byContradiction fun hne => ?_
        have hsegment : isSegment behind = true :=
          isSegment_iff.2 ⟨hne, fun x hx => (isSegment_iff.1 hname).2 x (List.mem_append_left _ hx)⟩
        rw [(isPackageName_cut hplain hc).2 ⟨scope, rfl, hscope, hsegment⟩] at h
        exact absurd h (by simp)
      subst hbehind
      exact ⟨hname, .inr ⟨scope, c, rfl, hscope, hc⟩⟩
  · rintro ⟨hrest, rfl | ⟨scope, c, rfl, hscope, hc⟩⟩
    · exact isPackageName_of_isSegment hrest
    · have hplain : ∀ x ∈ '@' :: scope, isSlash x = false :=
        List.forall_mem_cons.2 ⟨by decide, (isSegment_iff.1 hscope).2⟩
      have hcut := (isPackageName_cut hplain hc).2 ⟨scope, rfl, hscope, hrest⟩
      simpa using hcut

/-- No specifier with an extension behind it is the directory of a core module. -/
theorem isCoreDirectory_append (s rest : Text) : isCoreDirectory (s ++ '.' :: rest) = false := by
  have hnone : coreModules.any (·.contains '.') = false := by decide
  obtain ⟨line, hline⟩ : ∃ line, dropFinalBreak (s ++ '.' :: rest) = s ++ '.' :: line := by
    rw [dropFinalBreak]
    split
    · next hbreak =>
      cases rest with
      | nil => exact absurd hbreak (by simp)
      | cons c rest => exact ⟨(c :: rest).dropLast, by simp⟩
    · exact ⟨rest, rfl⟩
  rw [isCoreDirectory, hline]
  by_cases hempty : line = []
  · subst hempty
    simp [isSlash]
  · -- what stands before the slash has the point in it
    have hpoint : '.' ∈ (s ++ '.' :: line).dropLast := by
      rw [List.dropLast_append_of_ne_nil (by simp), List.dropLast_cons_of_ne_nil hempty]
      simp
    rw [Bool.and_eq_false_iff, List.contains_eq_mem, decide_eq_false_iff_not]
    refine .inr fun hmem => List.any_eq_false.1 hnone _ hmem ?_
    simpa using hpoint

end SpecifierLint.Rule
