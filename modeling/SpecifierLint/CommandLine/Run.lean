/-
Runs of the program.

A run takes a disk and arguments.  It reads the configuration first, then the arguments, and ends
with an exit code, or breaks down on a fault that no command deals with.  What was printed and
written before a breakdown stays.  Main statement:

* **`run_disk_of_not_fix`** — only a request for fixes changes the disk.
-/
import SpecifierLint.CommandLine.Request
import SpecifierLint.ConfigFile
import SpecifierLint.Console.Telemetry
import SpecifierLint.Guidance.Explanation
import SpecifierLint.Guidance.Packaged
import SpecifierLint.Report.Printed
import SpecifierLint.Run.Fix

namespace SpecifierLint.CommandLine

open Console

/-- A fault that no command deals with. -/
inductive Breakdown where
  | configuration (trouble : ConfigFile.Trouble)
  | disk (fault : Fault)
  | printing (fault : PrintFault)

/-- How a run ends. -/
inductive Ending where
  | exit (code : Nat)
  | help
  | usage (fault : UsageFault)
  | breakdown (cause : Breakdown)

/-- What a run leaves behind: the disk, the printed lines, and how it ended. -/
structure Outcome where
  disk : Disk
  stdout : List Text := []
  stderr : List Text := []
  ending : Ending := .exit 0

/-- The status lines of the program. -/
def telemetry (columns : Nat) : Telemetry where
  project := "EXT-LINT"
  welcome := "Import specifier audit online"
  width := columns

/-- The lines of notices, one after the other.  The name of the program and the color of its notices
are well-formed, and messages are protected, so every notice can be shown. -/
def noticeLines (columns : Nat) (notices : List Notice) : List Text :=
  notices.flatMap fun n => ((telemetry columns).lines n).toOption.getD []

/-- The lines of the greeting. -/
def greetingLines (columns : Nat) : List Text := (telemetry columns).handshake.toOption.getD []

/-! ### Paths -/

/-- The path that a run looks at: the given one, or `src` if there is such a directory, or the
working directory. -/
def targetPath (d : Disk) (path : Option Text) : Except Fault Text :=
  let given := Path.clean (path.getD [])
  if given ≠ ['.'] then .ok given
  else
    match d.isDirectory (Path.joined d.cwdPath "src") with
    | .error fault => .error fault
    | .ok found => .ok (if found then "src" else ".")

/-- A given path that leads somewhere has to be readable. -/
def pathFault? (d : Disk) (path : Text) : Option Ending :=
  match d.reach path with
  | .ok (location, _) =>
    if d.denied.contains location then some (.usage (.unreadablePath path)) else none
  | .error .zeroCharacter => some (.breakdown (.disk (.access .zeroCharacter path)))
  | .error _ => none

/-- The given path of a request. -/
def Request.path? : Request → Option Text
  | .check path _ _ | .fix path _ _ => path
  | .help | .explain => none

/-! ### Commands -/

/-- The configuration with the overrides of a request. -/
def overridden (c : Configuration) (o : Overrides) : Except ConfigFault Configuration :=
  c.override (o.style.map .text) (o.esm.map .bool)

/-- The end of a run under overrides that are refused, after some lines were printed.  It breaks down
if the fault has no wording. -/
def refused (columns : Nat) (d : Disk) (stderr : List Text) (fault : ConfigFault) : Outcome :=
  match fault.message d.room.form with
  | .ok message =>
    { disk := d, stderr := stderr ++ noticeLines columns [.error message], ending := .exit 2 }
  | .error _ =>
    { disk := d, stderr := stderr, ending := .breakdown (.configuration (.invalid fault)) }

/-- The report of a check. -/
def reportOf (columns : Nat) (p : Presentation) (r : CheckResult) : Printout :=
  if p.format = ("json" : Text) then { lines := Report.asRecord columns r }
  else Report.forReaders columns Guidance.packaged p.view r

/-- How a run ends after a printout, if it would end with a code otherwise. -/
def endingAfter (p : Printout) (code : Nat) : Ending :=
  match p.fault with
  | some fault => .breakdown (.printing fault)
  | none => .exit code

/-- The greeting of a check; a report as a record goes without. -/
def greeting (columns : Nat) (p : Presentation) : List Text :=
  if p.format = ("json" : Text) then [] else greetingLines columns

/-- The end of a check with a result. -/
def checkOutcome (columns : Nat) (d : Disk) (p : Presentation) (stderr : List Text)
    (r : CheckResult) : Outcome :=
  let report := reportOf columns p r
  { disk := d
    stdout := report.lines
    stderr := stderr
    ending := endingAfter report (if r.hasViolations then 1 else 0) }

/-- Checks under a configuration, after some lines were printed. -/
def checkUnder (columns : Nat) (d : Disk) (c : Configuration) (path : Option Text)
    (p : Presentation) (stderr : List Text) : Outcome :=
  match targetPath d path with
  | .error fault => { disk := d, stderr := stderr, ending := .breakdown (.disk fault) }
  | .ok target =>
    match Run.check d c target with
    | (notices, .error fault) =>
      { disk := d
        stderr := stderr ++ noticeLines columns notices
        ending := .breakdown (.disk fault) }
    | (notices, .ok result) =>
      checkOutcome columns d p (stderr ++ noticeLines columns notices) result

/-- Runs a check. -/
def runCheck (columns : Nat) (d : Disk) (c : Configuration) (path : Option Text)
    (p : Presentation) (o : Overrides) : Outcome :=
  match overridden c o with
  | .error fault => refused columns d (greeting columns p) fault
  | .ok c => checkUnder columns d c path p (greeting columns p)

/-- The warnings about violations that remain. -/
def remainingNotices (s : FixSummary) : List Notice :=
  s.remaining.flatMap fun r => r.violations.map fun v =>
    let reason := if (v.withheld.getD []).isEmpty then "fix pending" else v.withheld.getD []
    .warning (v.location ++ ": " ++ v.message ++ " (" ++ reason ++ ")")

/-- Runs a fix. -/
def runFix (columns : Nat) (d : Disk) (c : Configuration) (path : Option Text) (dryRun : Bool)
    (o : Overrides) : Outcome :=
  let opening := greetingLines columns
  match overridden c o with
  | .error fault => refused columns d opening fault
  | .ok c =>
    match targetPath d path with
    | .error fault => { disk := d, stderr := opening, ending := .breakdown (.disk fault) }
    | .ok target =>
      let run := Run.fix d c dryRun target
      let stderr := opening ++ noticeLines columns run.notices
      match run.outcome with
      | .error fault => { disk := run.disk, stderr := stderr, ending := .breakdown (.disk fault) }
      | .ok summary =>
        { disk := run.disk
          stderr := stderr ++ noticeLines columns (remainingNotices summary)
          ending := .exit (if summary.remainingCount ≠ 0 && !dryRun then 1 else 0) }

/-- Runs an explanation. -/
def runExplain (columns : Nat) (d : Disk) (c : Configuration) : Outcome :=
  let explanation := Guidance.explanation columns Guidance.packaged c.policy
  { disk := d, stdout := explanation.lines, ending := endingAfter explanation 0 }

/-! ### The program -/

/-- Runs a request. -/
def runRequest (columns : Nat) (d : Disk) (c : Configuration) : Request → Outcome
  | .help => { disk := d, stdout := usage, ending := .help }
  | .check path p o => runCheck columns d c path p o
  | .fix path dryRun o => runFix columns d c path dryRun o
  | .explain => runExplain columns d c

/-- The end of a run with wrong arguments. -/
def misused (columns : Nat) (d : Disk) (fault : UsageFault) : Outcome where
  disk := d
  stderr := (if fault.showsUsage then usage else []) ++ panel columns "Error" fault.message
  ending := .usage fault

/-- The wording of a trouble that a run reports; at any other it breaks down. -/
def reported? (d : Disk) : ConfigFile.Trouble → Option Text
  | .invalid fault => (fault.message d.room.form).toOption
  | _ => none

/-- The end of a run without a configuration. -/
def misconfigured (columns : Nat) (d : Disk) (t : ConfigFile.Trouble) : Outcome :=
  match reported? d t with
  | some message =>
    { disk := d
      stderr := ((telemetry columns).print ("[bold red]"
        ++ escape ("Invalid [tool.ext-lint] configuration: " ++ message) ++ "[/]")).toOption.getD []
      ending := .exit 2 }
  | none => { disk := d, ending := .breakdown (.configuration t) }

/-- Runs a request, unless its path may not be read. -/
def runReadable (columns : Nat) (d : Disk) (c : Configuration) (request : Request) : Outcome :=
  match request.path?.bind (pathFault? d) with
  | some (.usage fault) => misused columns d fault
  | some ending => { disk := d, ending := ending }
  | none => runRequest columns d c request

/-- Runs the program. -/
def run (columns : Nat) (d : Disk) (args : List Text) : Outcome :=
  match ConfigFile.forDisk d with
  | .error t => misconfigured columns d t
  | .ok c =>
    match Request.ofArguments args with
    | .error fault => misused columns d fault
    | .ok request => runReadable columns d c request

/-! ### What a run changes -/

/-- The request asks for fixes. -/
def Request.isFix : Request → Bool
  | .fix _ _ _ => true
  | _ => false

theorem checkOutcome_disk (columns : Nat) (d : Disk) (p : Presentation) (stderr : List Text)
    (r : CheckResult) : (checkOutcome columns d p stderr r).disk = d := by
  rfl

theorem checkUnder_disk (columns : Nat) (d : Disk) (c : Configuration) (path : Option Text)
    (p : Presentation) (stderr : List Text) :
    (checkUnder columns d c path p stderr).disk = d := by
  unfold checkUnder
  split
  · rfl
  · split
    · rfl
    · exact checkOutcome_disk columns d p _ _

theorem refused_disk (columns : Nat) (d : Disk) (stderr : List Text) (fault : ConfigFault) :
    (refused columns d stderr fault).disk = d := by
  unfold refused
  split <;> rfl

theorem runCheck_disk (columns : Nat) (d : Disk) (c : Configuration) (path : Option Text)
    (p : Presentation) (o : Overrides) : (runCheck columns d c path p o).disk = d := by
  unfold runCheck
  split
  · exact refused_disk columns d _ _
  · exact checkUnder_disk columns d _ path p _

theorem runExplain_disk (columns : Nat) (d : Disk) (c : Configuration) :
    (runExplain columns d c).disk = d := by
  rfl

theorem runRequest_disk {request : Request} (columns : Nat) (d : Disk) (c : Configuration)
    (h : request.isFix = false) : (runRequest columns d c request).disk = d := by
  cases request with
  | help => rfl
  | check path p o => exact runCheck_disk columns d c path p o
  | fix path dryRun o => simp [Request.isFix] at h
  | explain => exact runExplain_disk columns d c

/-- Only a request for fixes changes the disk. -/
theorem run_disk_of_not_fix {args : List Text} (columns : Nat) (d : Disk)
    (h : ∀ request, Request.ofArguments args = .ok request → request.isFix = false) :
    (run columns d args).disk = d := by
  unfold run
  split
  · unfold misconfigured
    split <;> rfl
  · split
    · rfl
    · next request hr =>
      unfold runReadable
      split
      · rfl
      · rfl
      · exact runRequest_disk columns d _ (h request hr)

end SpecifierLint.CommandLine
