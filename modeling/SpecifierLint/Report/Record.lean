/-
Reports as data.

The record of a violation, of a file and of a whole result, with their fields in the order of
writing.
-/
import SpecifierLint.Report.Basic
import SpecifierLint.Value.Basic

namespace SpecifierLint

/-- A count as a value. -/
def countValue (n : Nat) : Value := .int n

/-- A text or null. -/
def optionalText : Option Text → Value
  | some t => .text t
  | none => .null

/-- The record of an edit. -/
def Edit.record (e : Edit) : Value :=
  .table [("type", .text e.kind.label), ("range", .list [.int e.start, .int e.stop]),
    ("text", .text e.text)]

/-- The record of a violation. -/
def Violation.record (v : Violation) : Value :=
  .table [("code", .text v.code), ("kind", .text v.kind.label), ("extension", .text v.extension),
    ("message", .text v.message), ("location", .text v.location),
    ("specifier", .text v.place.value), ("import_kind", .text v.importKind.label),
    ("fixable", .bool v.fixable), ("fix", (v.fix.map Edit.record).getD .null),
    ("fix_failure_reason", optionalText v.withheld)]

/-- The record of a file. -/
def FileReport.record (r : FileReport) : Value :=
  .table [("file", .text r.path), ("violations", .list (r.violations.map Violation.record)),
    ("error", optionalText r.error)]

/-- The record of a result; quiet files are counted and left out. -/
def CheckResult.record (r : CheckResult) : Value :=
  .table [("files_checked", countValue r.filesChecked),
    ("violation_count", countValue r.violations.length),
    ("fixable_count", countValue r.fixableCount),
    ("files", .list (r.notable.map FileReport.record))]

end SpecifierLint
