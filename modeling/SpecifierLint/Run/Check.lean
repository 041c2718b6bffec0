/-
Check runs.

A check run looks at every source file under a path.  A file that cannot be read is reported with the
reason and a warning; a fault while its specifiers are resolved ends the run.  The notices of a run
are what it tells its user on the way, also if it ends in a fault.
-/
import SpecifierLint.Configuration
import SpecifierLint.Report.Basic
import SpecifierLint.Resolution
import SpecifierLint.Rule.Decision
import SpecifierLint.SourceTree

namespace SpecifierLint

/-- What a run tells its user. -/
inductive Notice where
  | step (message : Text)
  | warning (message : Text)
  | error (message : Text)
  deriving DecidableEq, Repr

namespace Run

/-- The directory listing of a disk by spelled paths; the empty name is the working directory. -/
def listing (d : Disk) : Sibling.Listing := fun directory =>
  (d.list (if directory.isEmpty then ['.'] else Path.unspelled directory)).toOption

/-- Checks the text of a source file. -/
def checkSource (d : Disk) (p : Policy) (source path : Text) : Except Fault FileReport :=
  match Resolution.targets d p.tryExtensions source path with
  | .error fault => .error fault
  | .ok targets =>
    .ok {
      path := path
      violations := targets.filterMap fun t => (Rule.decision p (listing d) t).violation? }

/-- A fault that is reported with its file and does not end the run. -/
def isReported : Fault → Bool
  | .access .zeroCharacter _ => false
  | _ => true

/-- Checks a source file. -/
def checkFile (d : Disk) (p : Policy) (path : Text) : Except Fault FileReport :=
  match d.readText path with
  | .ok source => checkSource d p source path
  | .error fault =>
    if isReported fault then .ok { path := path, error := some fault.message } else .error fault

/-- The warning about a file that could not be read. -/
def warnings (r : FileReport) : List Notice :=
  match r.error with
  | some reason => [.warning ("Skipping " ++ r.path ++ ": " ++ reason)]
  | none => []

/-- Checks files one after the other. -/
def checkFiles (d : Disk) (p : Policy) : List Text → List Notice × Except Fault (List FileReport)
  | [] => ([], .ok [])
  | path :: rest =>
    match checkFile d p path with
    | .error fault => ([], .error fault)
    | .ok report =>
      let (notices, reports) := checkFiles d p rest
      (warnings report ++ notices, reports.map (report :: ·))

/-- The announcement of a check run. -/
def announcement (count : Nat) (path : Text) : Notice :=
  .step ("Checking import specifiers in " ++ Text.ofNat count ++ " file(s) under " ++ path)

/-- The source files under a path that a configuration asks for. -/
def sourceFiles (d : Disk) (c : Configuration) (path : Text) : Except Fault (List Text) :=
  match c.sourceExtensions d.room.form with
  | .error fault => .error fault.fault
  | .ok suffixes =>
    match c.exclude d.room.form with
    | .error fault => .error fault.fault
    | .ok exclude => SourceTree.files d suffixes exclude path

/-- Checks every source file under a path. -/
def check (d : Disk) (c : Configuration) (path : Text) : List Notice × Except Fault CheckResult :=
  match sourceFiles d c path with
  | .error fault => ([], .error fault)
  | .ok files =>
    let (notices, reports) := checkFiles d c.policy files
    (announcement files.length path :: notices, reports.map (⟨·⟩))

end Run

end SpecifierLint
