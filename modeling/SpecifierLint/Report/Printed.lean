/-
Printed reports.

A result is printed as an indented record, or for readers: first the files that could not be read,
then a table of the violations by file or by extension, then the counts and, if some violation has no
edit, instructions for mending it by hand.
-/
import SpecifierLint.Console.Table
import SpecifierLint.Json.Printer
import SpecifierLint.Printout
import SpecifierLint.Report.Record
import SpecifierLint.Report.Summary

namespace SpecifierLint.Report

open Console

/-- The result as an indented record; a console of no width shows nothing. -/
def asRecord (width : Nat) (r : CheckResult) : List Text :=
  if width = 0 then [] else Text.split '\n' (Json.indented 0 r.record)

/-- Whether an edit is offered, in words. -/
def fixLabel (v : Violation) : Text := if v.fixable then "✅ Auto" else "⚠️ Manual"

/-- A table of markups. -/
structure MarkupTable where
  title : Text
  heads : List Text
  rows : List (List Text)

namespace MarkupTable

/-- A console has room for a character in a column, between its spaces and the lines of the table. -/
def hasRoom (t : MarkupTable) (console : Nat) : Bool := t.heads.length + 4 ≤ console

/-- The table with empty cells. -/
def emptied (t : MarkupTable) : MarkupTable :=
  { t with rows := t.rows.map fun row => row.map fun _ => [] }

/-- The table of the texts that the markups show. -/
def shown (t : MarkupTable) : Except MarkupFault Console.Table := do
  let title ← plain t.title
  let rows ← t.rows.mapM fun row => row.mapM plain
  return { title := title.text, heads := t.heads, rows := rows }

end MarkupTable

/-- The table of the violations, one row for each, as markup. -/
def fileTable (title : Text) (r : CheckResult) : MarkupTable where
  title := escape ("[" ++ title ++ "]") ++ " Import Specifier Audit"
  heads := ["Location", "Specifier", "Form", "Fix?", "Message"]
  rows := r.violations.map fun v =>
    [escape v.location, escape v.place.value, v.importKind.label, fixLabel v, escape v.message]

/-- The table of the violations, one row for each kind and extension, as markup. -/
def extensionTable (title : Text) (r : CheckResult) : MarkupTable where
  title := escape ("[" ++ title ++ "]") ++ " Violations by Extension"
  heads := ["Kind", "Extension", "Count", "Auto-fixable"]
  rows := r.byExtension.map fun g =>
    [g.kind, g.extension, Text.ofNat g.count, Text.ofNat g.fixable]

/-- Prints a table of markups; the cells are looked at only if there is room for them. -/
def printTable (width : Nat) (expand : Bool) (t : MarkupTable) : PrintStep :=
  match (if t.hasRoom width then t else t.emptied).shown with
  | .error fault => .error (.markup fault)
  | .ok table =>
    if table.isBroken expand width then .error (.markup .badColor)
    else .ok (table.render expand width)

/-- Prints the table in the wanted view; every view but `by_extension` is by file. -/
def table (width : Nat) (view title : Text) (r : CheckResult) : PrintStep :=
  if view = ("by_extension" : Text) then printTable width true (extensionTable title r)
  else printTable width false (fileTable title r)

/-- Prints a line about each file that could not be read. -/
def unreadable (width : Nat) (r : CheckResult) : List PrintStep :=
  r.reports.filterMap fun f =>
    match f.error with
    | some reason =>
      if reason.isEmpty then none
      else
        some (.ofMarkup width
          ("[red]Could not read " ++ escape f.path ++ ": " ++ escape reason ++ "[/]"))
    | none => none

/-- The result for readers. -/
def forReaders (width : Nat) (registry : SpecifierLint.Table) (view : Text) (r : CheckResult) :
    Printout :=
  if !r.hasViolations then
    .ofSteps (unreadable width r ++ [.ofText width ("\n✅ No import extension violations in "
      ++ Text.ofNat r.filesChecked ++ " file(s).")])
  else
    let count := r.violations.length
    let counts := "\n" ++ Text.ofNat count ++ " violation(s), " ++ Text.ofNat r.fixableCount
      ++ " auto-fixable."
    let instructions := Guidance.manualInstructions registry ruleCode
    .ofSteps (unreadable width r
      ++ [.ofGuidance (Guidance.displayName registry ruleCode) fun title => table width view title r,
          .ofText width counts]
      ++ if r.fixableCount = count then [] else [.ofGuidance instructions (.ofMarkup width)])

end SpecifierLint.Report
