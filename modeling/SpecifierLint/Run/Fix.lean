/-
Fix runs.

A fix run checks the files under a path and makes the edits that the violations offer, file by file;
each file that was touched is checked again.  A dry run only counts.  A write that is refused ends
the run, and the disk keeps what was written before.  An extension that was found in a spelled path and has
stray bytes in it cannot be written; the attempt ends the run as well, and leaves the file empty.
-/
import SpecifierLint.Run.Check

namespace SpecifierLint

/-- The result of a fix run. -/
structure FixSummary where
  modified : List Text := []
  applied : Nat := 0
  remaining : List FileReport := []
  deriving DecidableEq, Repr

/-- The number of violations that remain. -/
def FixSummary.remainingCount (s : FixSummary) : Nat :=
  (s.remaining.map (·.violations.length)).foldr (· + ·) 0

/-- A fix run so far: the disk as it is now, what was told, and the result or the fault. -/
structure FixRun where
  disk : Disk
  notices : List Notice := []
  outcome : Except Fault FixSummary := .ok {}

namespace FixRun

/-- Puts the result of one file before that of the files after it. -/
def prepend (notices : List Notice) (first : FixSummary) (run : FixRun) : FixRun :=
  { run with
    notices := notices ++ run.notices
    outcome := run.outcome.map fun rest =>
      { modified := first.modified ++ rest.modified
        applied := first.applied + rest.applied
        remaining := first.remaining ++ rest.remaining } }

end FixRun

namespace Run

/-- Makes edits in a file, and says whether they changed it. -/
def applyEdits (d : Disk) (path : Text) (edits : List Edit) : Except Fault (Disk × Bool) :=
  if edits.isEmpty then .ok (d, false)
  else
    match d.readText path with
    | .error fault => .error fault
    | .ok source =>
      let updated := Edit.applyAll edits source
      if updated = source then .ok (d, false)
      else (d.writeText path updated).map (·, true)

/-- Edits insert stray bytes somewhere. -/
def haveStrays (edits : List Edit) : Bool := edits.any (·.text.contains '\x00')

/-- The attempt to make edits with stray bytes in a file. -/
def spoil (d : Disk) (path : Text) : FixRun :=
  match d.readText path with
  | .error fault => { disk := d, outcome := .error fault }
  | .ok _ =>
    let (next, fault) := d.writeStrays path
    { disk := next, outcome := .error fault }

/-- The edits that the violations of a file offer. -/
def editsFor (r : FileReport) : List Edit := r.violations.filterMap (·.offeredFix)

/-- A report that has violations, as what remains of its file. -/
def remains (r : FileReport) : List FileReport := if r.violations.isEmpty then [] else [r]

/-- Fixes the files of reports one after the other. -/
def fixFiles (p : Policy) (dryRun : Bool) (d : Disk) : List FileReport → FixRun
  | [] => { disk := d }
  | r :: rest =>
    let edits := editsFor r
    if edits.isEmpty then (fixFiles p dryRun d rest).prepend [] { remaining := remains r }
    else if dryRun then
      (fixFiles p dryRun d rest).prepend
        [.step ("Would apply " ++ Text.ofNat edits.length ++ " fix(es) to " ++ r.path)]
        { applied := edits.length, remaining := [r] }
    else if haveStrays edits then spoil d r.path
    else
      match applyEdits d r.path edits with
      | .error fault => { disk := d, outcome := .error fault }
      | .ok (next, changed) =>
        match checkFile next p r.path with
        | .error fault => { disk := next, outcome := .error fault }
        | .ok again =>
          (fixFiles p dryRun next rest).prepend (warnings again)
            { modified := if changed then [r.path] else []
              applied := if changed then edits.length else 0
              remaining := remains again }

/-- The notice at the end of a fix run. -/
def closing (dryRun : Bool) (s : FixSummary) : Notice :=
  let status : Text := if dryRun then "dry run complete" else "complete"
  .step ("🛠️ Fix run " ++ status ++ ". Fixes applied: " ++ Text.ofNat s.applied
    ++ ", files modified: " ++ Text.ofNat s.modified.length)

/-- Fixes the source files under a path. -/
def fix (d : Disk) (c : Configuration) (dryRun : Bool) (path : Text) : FixRun :=
  let opening : Notice := .step ("🔧 Starting fix run on " ++ path)
  let (notices, checked) := check d c path
  match checked with
  | .error fault => { disk := d, notices := opening :: notices, outcome := .error fault }
  | .ok result =>
    let run := fixFiles c.policy dryRun d result.reports
    let last : List Notice :=
      match run.outcome with
      | .ok summary => [closing dryRun summary]
      | .error _ => []
    { run with notices := opening :: notices ++ run.notices ++ last }

end Run

/-- The files of a disk that differ from an earlier state of it, with their content now. -/
def Disk.changedSince (d earlier : Disk) : List (Text × Content) :=
  d.entries.filterMap fun e =>
    match e.2 with
    | .file content =>
      if earlier.entryAt? e.1 = some (.file content) then none
      else some (Disk.pathOf e.1, content)
    | .directory => none

end SpecifierLint
