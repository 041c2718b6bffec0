/-
The command line program.

The program looks at a snapshot of the file system: the tree of the project around the working
directory, the tree of a path that is given outside of it, and of the directories above the project
their `pyproject.toml` and `node_modules`.  The project is the nearest directory with a
`pyproject.toml` or a `package.json`.  A run works on the snapshot, and the files that it changed are
written afterwards.
-/
import SpecifierLint.CommandLine.Run

namespace SpecifierLint.Main

/-- Locations with their entries, and the locations that could not be read. -/
structure Snapshot where
  entries : List (Location × Entry) := []
  denied : List Location := []

/-- A file whose content may be asked for: a source of the project, or the manifest of a package. -/
def isWanted (location : Location) : Bool :=
  location.getLast? = some ("package.json" : Text) || !location.contains ("node_modules" : Text)

/-- The entry of a file. -/
def fileEntry (location : Location) : IO (Entry × Bool) := do
  if !isWanted location then return (.file (.text []), false)
  try
    let bytes ← IO.FS.readBinFile (String.ofList (Disk.pathOf location))
    return (.file (.ofBytes bytes.toList), false)
  catch _ => return (.file (.text []), true)

/-- Adds a directory entry and everything below it; links to directories are not followed. -/
partial def addTree (s : Snapshot) (entry : IO.FS.DirEntry) : IO Snapshot := do
  let location := Disk.locate entry.path.toString.toList
  if ← entry.path.isDir then
    let s := { s with entries := (location, .directory) :: s.entries }
    if (← entry.path.symlinkMetadata).type == .symlink then return s
    try
      let mut s := s
      for child in ← entry.path.readDir do
        s ← addTree s child
      return s
    catch _ => return { s with denied := location :: s.denied }
  else
    let (file, refused) ← fileEntry location
    return {
      entries := (location, file) :: s.entries
      denied := if refused then location :: s.denied else s.denied }

/-- Adds what a path leads to, with the directories above it. -/
def addPath (s : Snapshot) (path : Text) : IO Snapshot := do
  let location := Disk.locate path
  let above := (List.range location.length).map fun n => (location.take n, Entry.directory)
  match location.getLast? with
  | none => return s
  | some name =>
    let entry : IO.FS.DirEntry := ⟨String.ofList (Disk.pathOf location.dropLast), String.ofList name⟩
    if ← entry.path.pathExists then addTree { s with entries := s.entries ++ above } entry
    else return s

/-- The nearest of some directories with a manifest. -/
def projectOf : List Text → IO (Option Text)
  | [] => return none
  | directory :: rest => do
    let candidates := [("pyproject.toml" : Text), "package.json"].map (Path.joined directory)
    let mut found := false
    for file in candidates do
      let entry : IO.FS.DirEntry := ⟨"/", String.ofList (file.drop 1)⟩
      if ← entry.path.pathExists then found := true
    if found then return some directory else projectOf rest

/-- The disk that a run sees. -/
def snapshot (cwd : Text) (path : Option Text) : IO Disk := do
  let ancestry := Path.ancestry cwd
  let project := (← projectOf ancestry).getD cwd
  let mut s ← addPath {} project
  for directory in ancestry.drop 1 do
    for name in [("pyproject.toml" : Text), "node_modules"] do
      s ← addPath s (Path.joined directory name)
  if let some given := path then
    let target := Path.resolved cwd given
    unless (Disk.locate project).isPrefixOf (Disk.locate target) do
      s ← addPath s target
  return { Disk.ofEntries s.entries with denied := s.denied, cwd := Disk.locate cwd }

/-- The path among the arguments. -/
def pathOf (args : List Text) : Option Text :=
  match CommandLine.Request.ofArguments args with
  | .ok request => request.path?
  | .error _ => none

/-- The width of the console. -/
def columns : IO Nat := do
  return ((← IO.getEnv "COLUMNS").bind String.toNat?).getD 80

/-- Writes the files that a run changed. -/
def writeChanges (after earlier : Disk) : IO Unit := do
  for (path, content) in after.changedSince earlier do
    if let .text t := content then IO.FS.writeFile (String.ofList path) (String.ofList t)

/-- The wording of a breakdown. -/
def breakdownText : CommandLine.Breakdown → Text
  | .disk fault | .configuration (.disk fault) => fault.message
  | .configuration _ => "The configuration cannot be read."
  | .printing _ => "The report cannot be printed."

/-- The exit code of a run. -/
def exitCode : CommandLine.Ending → UInt32
  | .exit code => code.toUInt32
  | .help => 0
  | .usage _ => 2
  | .breakdown _ => 1

/-- Runs the program. -/
def run (args : List Text) : IO UInt32 := do
  let cwd := (← IO.currentDir).toString.toList
  let disk ← snapshot cwd (pathOf args)
  let outcome := CommandLine.run (← columns) disk args
  for line in outcome.stderr do
    IO.eprintln (String.ofList line)
  for line in outcome.stdout do
    IO.println (String.ofList line)
  if let .breakdown cause := outcome.ending then IO.eprintln (String.ofList (breakdownText cause))
  writeChanges outcome.disk disk
  return exitCode outcome.ending

end SpecifierLint.Main

/-- The program. -/
def main (args : List String) : IO UInt32 := SpecifierLint.Main.run (args.map String.toList)
