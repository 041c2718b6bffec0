/-
What the rule decides and what its fix does.

A violation is about an extension that the target really has: that of the resolved file, or of a
sibling.  The fix of a missing extension adds it at the end of the specifier; the fix of a forbidden
one takes it off there.  Main statements:

* **`decision_eq_violates`** — all that is known about a target that violates the policy;
* **`exists_kept_of_fix`** — a fix keeps the front of its literal and replaces the end of it, and what
  comes out mends the violation.
-/
import SpecifierLint.Rule.Decision
import SpecifierLint.Proofs.Path.Extension

namespace SpecifierLint

/-- The text mends the specifier of the violation: a missing extension is added at its end, a
forbidden one is taken off there. -/
def Violation.Mends (v : Violation) (mended : Text) : Prop :=
  match v.kind with
  | .requireExtension => mended = v.place.value ++ v.extension
  | .forbidExtension => v.place.value = mended ++ v.extension

namespace Rule

/-! ### The extension of a target -/

/-- The siblings that a target has in a listing. -/
def siblingsOf (listing : Sibling.Listing) (t : Target) : List Text :=
  Sibling.extensions listing (t.resolved.getD [])

theorem foundExtension?_eq_some {resolved found : Text} {siblings : List Text}
    (h : foundExtension? resolved siblings = some found) :
    (resolved ≠ [] ∧ found = resolved) ∨ (resolved = [] ∧ found ∈ siblings) := by
  rw [foundExtension?] at h
  cases resolved with
  | cons c rest =>
    simp only [List.isEmpty_cons, Bool.not_false, if_true, Option.some.injEq] at h
    exact .inl ⟨by simp, h.symm⟩
  | nil =>
    refine .inr ⟨rfl, ?_⟩
    simp only [List.isEmpty_nil, Bool.not_true, Bool.false_eq_true, if_false] at h
    split at h
    · rcases Option.or_eq_some_iff.1 h with h | ⟨_, h⟩
      · exact (List.mem_filter.1 (List.mem_of_mem_head? h)).1
      · exact List.mem_of_mem_head? h
    · simp at h

theorem exists_cons_of_foundExtension? {listing : Sibling.Listing} {t : Target} {found : Text}
    (h : foundExtension? (Path.extension (t.resolved.getD [])) (siblingsOf listing t) = some found) :
    ∃ rest, found = '.' :: rest := by
  rcases foundExtension?_eq_some h with ⟨hne, rfl⟩ | ⟨_, hmem⟩
  · obtain ⟨_, after, _, hext, _⟩ := Path.exists_stem_of_nameExtension hne
    exact ⟨after, hext⟩
  · exact (Sibling.mem_extensions hmem).1

theorem canonical_ne_nil {esm : Bool} {extension : Text} (h : extension ≠ []) :
    canonical esm extension ≠ [] := by
  rw [canonical]
  split
  · decide
  · exact h

/-! ### The decision, read backwards -/

theorem eq_violates_of_violation? {decision : Decision} {v : Violation}
    (h : decision.violation? = some v) : decision = .violates v := by
  cases decision with
  | conforms => exact absurd h (by simp [Decision.violation?])
  | violates w =>
    simp only [Decision.violation?, Option.some.injEq] at h
    rw [h]

/-- The parts of a violation, and when the rule makes it. -/
structure Breaks (p : Policy) (listing : Sibling.Listing) (t : Target) (v : Violation) : Prop where
  not_exempt : isExempt t = false
  code : v.code = ruleCode
  place : v.place = t.place
  found : ∃ found,
    foundExtension? (Path.extension (t.resolved.getD [])) (siblingsOf listing t) = some found
      ∧ v.extension = canonical p.esm found
  /-- Either the extension is missing, or it is written and forbidden. -/
  kind :
    (v.kind = .requireExtension ∧ p.styleFor v.extension = .always
      ∧ v.extension ≠ Path.extension t.specifier
      ∧ v.fix = if hasUniqueSibling (siblingsOf listing t)
          then some (.insertAt (t.place.stop - 1) v.extension) else none)
    ∨ (v.kind = .forbidExtension ∧ p.styleFor v.extension = .never
      ∧ v.extension = Path.extension t.specifier
      ∧ v.fix = if (siblingsOf listing t).length = 1
          then
            let start : Int := t.place.start + 1
              + ((Text.lastOffset? v.extension t.specifier).getD 0 : Nat)
            some (.remove start (start + v.extension.length))
          else none)

theorem requireExtension_eq (t : Target) (siblings : List Text) (extension : Text) :
    requireExtension t siblings extension
      = violationOf t .requireExtension extension
          (if hasUniqueSibling siblings then some (.insertAt (t.place.stop - 1) extension) else none)
          (if hasUniqueSibling siblings then none else some ambiguousInsertion) := by
  rw [requireExtension]
  split
  · rfl
  · rfl

theorem forbidExtension_eq (t : Target) (siblings : List Text) (extension : Text) :
    forbidExtension t siblings extension
      = violationOf t .forbidExtension extension
          (if siblings.length = 1 then
            let start : Int := t.place.start + 1
              + ((Text.lastOffset? extension t.specifier).getD 0 : Nat)
            some (.remove start (start + extension.length))
          else none)
          (if siblings.length = 1 then none else some ambiguousRemoval) := by
  rw [forbidExtension]
  split
  · rfl
  · rfl

/-- What the rule decides about a target with an extension. -/
theorem decision_of_found {p : Policy} {listing : Sibling.Listing} {t : Target} {found : Text}
    (h : foundExtension? (Path.extension (t.resolved.getD [])) (siblingsOf listing t) = some found) :
    decision p listing t
      = if isExempt t then .conforms
        else match p.styleFor (canonical p.esm found) with
          | .always =>
            if canonical p.esm found = Path.extension t.specifier then .conforms
            else requireExtension t (siblingsOf listing t) (canonical p.esm found)
          | .never =>
            if canonical p.esm found = Path.extension t.specifier then
              forbidExtension t (siblingsOf listing t) (canonical p.esm found)
            else .conforms := by
  rw [siblingsOf] at h
  rw [decision]
  dsimp only
  rw [h]
  rfl

theorem decision_of_not_found {p : Policy} {listing : Sibling.Listing} {t : Target}
    (h : foundExtension? (Path.extension (t.resolved.getD [])) (siblingsOf listing t) = none) :
    decision p listing t = .conforms := by
  rw [siblingsOf] at h
  rw [decision]
  dsimp only
  rw [h, ite_self]

/-- All that is known about a target that violates the policy. -/
theorem decision_eq_violates {p : Policy} {listing : Sibling.Listing} {t : Target} {v : Violation}
    (h : decision p listing t = .violates v) : Breaks p listing t v := by
  rw [decision] at h
  split at h
  · exact absurd h (by simp)
  · next hexempt =>
    rw [Bool.not_eq_true] at hexempt
    simp only at h
    split at h
    · exact absurd h (by simp)
    · next found hfound =>
      split at h
      · next hstyle =>
        split at h
        · exact absurd h (by simp)
        · next hwritten =>
          rw [requireExtension_eq] at h
          cases h
          exact ⟨hexempt, rfl, rfl, ⟨found, hfound, rfl⟩, .inl ⟨rfl, hstyle, hwritten, rfl⟩⟩
      · next hstyle =>
        split at h
        · next hwritten =>
          rw [forbidExtension_eq] at h
          cases h
          exact ⟨hexempt, rfl, rfl, ⟨found, hfound, rfl⟩, .inr ⟨rfl, hstyle, hwritten, rfl⟩⟩
        · exact absurd h (by simp)

namespace Breaks

variable {p : Policy} {listing : Sibling.Listing} {t : Target} {v : Violation}

theorem extension_ne_nil (h : Breaks p listing t v) : v.extension ≠ [] := by
  obtain ⟨found, hfound, hext⟩ := h.found
  obtain ⟨rest, rfl⟩ := exists_cons_of_foundExtension? hfound
  rw [hext]
  exact canonical_ne_nil (by simp)

theorem exists_cons_extension (h : Breaks p listing t v) : ∃ rest, v.extension = '.' :: rest := by
  obtain ⟨found, hfound, hext⟩ := h.found
  obtain ⟨rest, rfl⟩ := exists_cons_of_foundExtension? hfound
  rw [hext, canonical]
  split
  · exact ⟨['j', 's'], rfl⟩
  · exact ⟨rest, rfl⟩

theorem specifier_of_forbid (h : Breaks p listing t v)
    (hwritten : v.extension = Path.extension t.specifier) :
    ∃ kept, t.specifier = kept ++ v.extension := by
  have hne : Path.extension t.specifier ≠ [] := hwritten ▸ h.extension_ne_nil
  obtain ⟨front, stem, after, hspec, hext, _⟩ := Path.exists_name_of_extension hne
  exact ⟨front ++ stem, by rw [hwritten, hext, hspec]⟩

end Breaks

/-! ### The fix -/

/-- A fix keeps the front of its literal and replaces the end of it, up to the closing quote, and what
comes out mends the violation. -/
theorem exists_kept_of_fix {p : Policy} {listing : Sibling.Listing} {t : Target} {v : Violation}
    {e : Edit} (h : decision p listing t = .violates v) (hfix : v.fix = some e)
    (hvalue : t.specifier = t.place.value)
    (hstop : t.place.stop - 1 = t.place.start + 1 + t.place.value.length) :
    ∃ kept cut, v.place.value = kept ++ cut ∧ e.start = v.place.start + 1 + kept.length
      ∧ e.stop = v.place.start + 1 + v.place.value.length ∧ v.Mends (kept ++ e.text) := by
  have hb := decision_eq_violates h
  rw [hb.place]
  rcases hb.kind with ⟨hkind, _, _, hedit⟩ | ⟨hkind, _, hwritten, hedit⟩
  · rw [hfix] at hedit
    split at hedit
    · -- an insertion keeps the whole specifier
      cases hedit
      refine ⟨t.place.value, [], by simp, hstop, hstop, ?_⟩
      simp only [Violation.Mends, hkind, hb.place]
      rfl
    · exact absurd hedit (by simp)
  · rw [hfix] at hedit
    split at hedit
    · cases hedit
      obtain ⟨kept, hkept⟩ := hb.specifier_of_forbid hwritten
      -- the last occurrence of the extension is the one that ends the specifier
      have hlast : Text.lastOffset? v.extension t.specifier = some kept.length := by
        rw [hkept]
        exact Text.lastOffset?_append kept hb.extension_ne_nil
      have hlength : t.place.value.length = kept.length + v.extension.length := by
        rw [← hvalue, hkept, List.length_append]
      refine ⟨kept, v.extension, by rw [← hvalue, hkept], ?_, ?_, ?_⟩
      · simp [Edit.remove, hlast]
      · simp only [Edit.remove, hlast, Option.getD_some, hlength]
        omega
      · simp only [Violation.Mends, hkind, hb.place, Edit.remove, List.append_nil]
        rw [← hvalue, hkept]
    · exact absurd hedit (by simp)

end Rule

end SpecifierLint
