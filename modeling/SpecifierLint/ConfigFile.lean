/-
Finding the configuration file.

The configuration is the table `tool.ext-lint` of the nearest `pyproject.toml`, looked for in a
directory and those above it.  A file that cannot be opened, is no valid TOML, or has nothing under
that name is passed over; one that is not UTF-8, goes beyond a limit on numbers or nesting, or whose
`tool` is no table, is a fault.
-/
import SpecifierLint.Configuration
import SpecifierLint.Disk.Access
import SpecifierLint.Toml.Document
import SpecifierLint.Value.Mapping

namespace SpecifierLint.ConfigFile

/-- Why no configuration can be given. -/
inductive Trouble where
  | disk (fault : Fault)
  /-- A number in the document has too many digits. -/
  | longInteger
  /-- The document is nested too deep. -/
  | tooDeep
  | toolIsNoTable
  | sectionIsNoTable (fault : MappingFault)
  | invalid (fault : ConfigFault)

/-- The section of the linter, as it was written, and the table of all tools. -/
structure Found where
  linter : Value := .table []
  tools : Table := []

/-- The name of the linter's section. -/
def sectionName : Text := "ext-lint"

/-- The section of the linter in the table of a document, if it holds anything. -/
def sectionOf (document : Table) : Except Trouble (Option Found) :=
  match document.get? "tool" with
  | none => .ok none
  | some tool =>
    if !tool.isPresent then .ok none
    else
      match tool with
      | .table tools =>
        match Table.get? tools sectionName with
        | some linter => .ok (if linter.isPresent then some ⟨linter, tools⟩ else none)
        | none => .ok none
      | _ => .error .toolIsNoTable

/-- Looks into one directory. -/
def inDirectory (d : Disk) (directory : Text) : Except Trouble (Option Found) :=
  let file := Path.joined directory "pyproject.toml"
  match d.hasEntry file with
  | .error fault => .error (.disk fault)
  | .ok false => .ok none
  | .ok true =>
    match d.content file with
    | .error _ => .ok none
    | .ok (.raw _ fault) => .error (.disk (.encoding fault))
    | .ok (.text t) =>
      match Toml.read d.room.document t with
      | .error .invalid => .ok none
      | .error .longInteger => .error .longInteger
      | .error .tooDeep => .error .tooDeep
      | .ok document => sectionOf document

/-- The first directory with a section for the linter. -/
def firstIn (d : Disk) : List Text → Except Trouble Found
  | [] => .ok {}
  | directory :: rest =>
    match inDirectory d directory with
    | .error t => .error t
    | .ok (some found) => .ok found
    | .ok none => firstIn d rest

/-- The section that is nearest to a path. -/
def find (d : Disk) (start : Text) : Except Trouble Found :=
  if start.contains '\x00' then .error (.disk (.access .zeroCharacter start))
  else firstIn d (Path.ancestry (Path.resolved d.cwdPath start))

/-- The configuration of a section. -/
def Found.configuration (f : Found) : Except Trouble Configuration :=
  match Table.ofValue f.linter with
  | .error fault => .error (.sectionIsNoTable fault)
  | .ok table =>
    match Configuration.ofTable table with
    | .error fault => .error (.invalid fault)
    | .ok c => .ok c

/-- The configuration for the working directory of a disk. -/
def forDisk (d : Disk) : Except Trouble Configuration :=
  match find d d.cwdPath with
  | .error t => .error t
  | .ok found => found.configuration

end SpecifierLint.ConfigFile
