/-
Reports of a check run.

A file report holds the violations of one source file, or says why the file could not be read.  A
result is the list of the reports of a run.  Main statements:

* **`CheckResult.hasViolations_iff`** — a result has violations exactly if one can be listed;
* **`CheckResult.violations_notable`** — leaving out the quiet reports loses no violation.
-/
import SpecifierLint.Rule.Violation

namespace SpecifierLint

/-- The violations of one source file. -/
structure FileReport where
  path : Text
  violations : List Violation := []
  error : Option Text := none
  deriving DecidableEq, Repr

/-- The report says something: it lists a violation or an error. -/
def FileReport.isNotable (r : FileReport) : Bool :=
  !r.violations.isEmpty || !(r.error.getD []).isEmpty

/-- The reports of a check run. -/
structure CheckResult where
  reports : List FileReport := []
  deriving DecidableEq, Repr

namespace CheckResult

/-- All violations, file by file. -/
def violations (r : CheckResult) : List Violation := r.reports.flatMap (·.violations)

/-- The number of files. -/
def filesChecked (r : CheckResult) : Nat := r.reports.length

/-- The number of violations with an edit. -/
def fixableCount (r : CheckResult) : Nat := (r.violations.filter (·.fixable)).length

/-- Some file has a violation. -/
def hasViolations (r : CheckResult) : Bool := r.reports.any fun f => !f.violations.isEmpty

/-- The reports that say something. -/
def notable (r : CheckResult) : List FileReport := r.reports.filter (·.isNotable)

/-- A result has violations exactly if one can be listed. -/
theorem hasViolations_iff (r : CheckResult) : r.hasViolations ↔ r.violations ≠ [] := by
  simp only [hasViolations, violations, List.any_eq_true, ne_eq, List.flatMap_eq_nil_iff]
  constructor
  · rintro ⟨f, hf, hv⟩ h
    simp [h f hf] at hv
  · intro h
    refine Classical.byContradiction fun hn => h fun f hf => ?_
    refine Classical.byContradiction fun hv => hn ⟨f, hf, ?_⟩
    simpa using hv

/-- Leaving out the quiet reports loses no violation. -/
theorem violations_notable (r : CheckResult) :
    r.notable.flatMap (·.violations) = r.violations := by
  obtain ⟨reports⟩ := r
  simp only [notable, violations]
  induction reports with
  | nil => rfl
  | cons f rest ih =>
    simp only [List.filter_cons, List.flatMap_cons]
    split
    · simp [ih]
    · next h =>
      have hv : f.violations = [] := by
        simp only [FileReport.isNotable, Bool.or_eq_true, not_or] at h
        simpa using h.1
      simp [hv, ih]

end CheckResult

end SpecifierLint
