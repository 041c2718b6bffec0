/-
Resolving specifiers.

A relative or absolute specifier is looked up from the directory of the importing file: as a file,
with each of the extensions to try, and then as a directory, whose `package.json` may name a main
file and which otherwise has an `index`.  Any other specifier is looked up in the same way in the
`node_modules` directories above.  The result is the absolute path of the first file that is found.

What a search knows of the files it knows from a few questions, so that it is written for everything that
answers them.  The name of a main file comes from a document and can hold bytes that are no characters;
the paths that are tested for it, and the one that is found, are spelled paths.
-/
import SpecifierLint.Disk.Access
import SpecifierLint.Json.Reader
import SpecifierLint.Rule.CoreModule
import SpecifierLint.Rule.Target

namespace SpecifierLint

/-- The questions that a search asks. -/
structure FileSystem where
  /-- A path leads to a file. -/
  isFile : Text → Except Fault Bool
  /-- A spelled path leads to a file. -/
  isSpelledFile : Text → Except Fault Bool
  /-- A path leads to a directory. -/
  isDirectory : Text → Except Fault Bool
  /-- The text of a file. -/
  readText : Text → Except Fault Text
  /-- The path of a directory without links and double points. -/
  resolved : Text → Except Fault Text
  /-- The path of the working directory. -/
  cwdPath : Text
  /-- The levels that there is room for in a `package.json`. -/
  packageRoom : Nat

namespace Disk

/-- What a disk answers. -/
def fileSystem (d : Disk) : FileSystem where
  isFile := d.isFile
  isSpelledFile := d.isSpelledFile
  isDirectory := d.isDirectory
  readText := d.readText
  resolved path :=
    if path.contains '\x00' then .error (.access .zeroCharacter path)
    else .ok (Path.resolved d.cwdPath path)
  cwdPath := d.cwdPath
  packageRoom := d.room.package

instance : Coe Disk FileSystem := ⟨fileSystem⟩

@[simp] theorem fileSystem_isFile (d : Disk) : d.fileSystem.isFile = d.isFile := rfl

@[simp] theorem fileSystem_isSpelledFile (d : Disk) :
    d.fileSystem.isSpelledFile = d.isSpelledFile := rfl

@[simp] theorem fileSystem_isDirectory (d : Disk) : d.fileSystem.isDirectory = d.isDirectory := rfl

@[simp] theorem fileSystem_readText (d : Disk) : d.fileSystem.readText = d.readText := rfl

@[simp] theorem fileSystem_cwdPath (d : Disk) : d.fileSystem.cwdPath = d.cwdPath := rfl

@[simp] theorem fileSystem_packageRoom (d : Disk) : d.fileSystem.packageRoom = d.room.package := rfl

theorem fileSystem_resolved (d : Disk) {path : Text} (h : '\x00' ∉ path) :
    d.fileSystem.resolved path = .ok (Path.resolved d.cwdPath path) := if_neg (by simpa using h)

end Disk

namespace Resolution

/-! ### Candidates -/

/-- A target and the target with each extension. -/
def fileCandidates (extensions : List Text) (target : Text) : List Text :=
  target :: extensions.map fun e => Path.clean (target ++ e)

/-- The index files of a directory. -/
def indexCandidates (extensions : List Text) (target : Text) : List Text :=
  extensions.map fun e => Path.joined target ("index" ++ e)

/-- The first candidate that passes a test for files, as an absolute path. -/
def firstFile (fs : FileSystem) (isFile : Text → Except Fault Bool) :
    List Text → Except Fault (Option Text)
  | [] => .ok none
  | candidate :: rest =>
    match isFile candidate with
    | .error fault => .error fault
    | .ok true => .ok (some (Path.absolute fs.cwdPath candidate))
    | .ok false => firstFile fs isFile rest

/-! ### Packages -/

/-- The text under the key `main`. -/
def mainText? (value : Value) : Option Text :=
  (value.table?.bind (Table.get? · "main")).bind Value.text?

/-- What stands in a name for U+0000 or half of a surrogate pair: some halves stand for a byte, and all
else is nothing that a path can have. -/
def spelledOdd (code : Nat) : Text :=
  if 0xdc80 ≤ code && code ≤ 0xdcff then ['\x00', Char.ofNat (code - 0xdc00)] else ['\x00', '\x00']

/-- The name of the main file, as it is spelled, that the text of a `package.json` gives, where so many
levels can be nested. -/
def mainOf (room : Nat) (document : Text) : Except Fault (Option Text) :=
  match Json.read spelledOdd room document with
  | .error .tooDeep => .error .nesting
  | .error .malformed => .ok none
  | .ok value => .ok ((mainText? value).filter (! ·.isEmpty))

/-- The name of the main file of a package; a `package.json` that cannot be read names none, unless
it is nested too deep. -/
def packageMain (fs : FileSystem) (directory : Text) : Except Fault (Option Text) :=
  let file := Path.joined directory "package.json"
  match fs.isFile file with
  | .error fault => .error fault
  | .ok false => .ok none
  | .ok true =>
    match fs.readText file with
    | .error _ => .ok none
    | .ok document => mainOf fs.packageRoom document

/-- The candidates that a package with a main file has before its own index. -/
def mainCandidates (extensions : List Text) (directory name : Text) : List Text :=
  let target := Path.joined directory name
  let spelled := extensions.map Path.spell
  fileCandidates spelled target ++ indexCandidates spelled target

/-- The main file of a package. -/
def mainFile (fs : FileSystem) (extensions : List Text) (directory : Text) :
    Option Text → Except Fault (Option Text)
  | none => .ok none
  | some name => firstFile fs fs.isSpelledFile (mainCandidates extensions directory name)

/-- Looks a target up as a directory. -/
def loadDirectory (fs : FileSystem) (extensions : List Text) (target : Text) :
    Except Fault (Option Text) :=
  match fs.isDirectory target with
  | .error fault => .error fault
  | .ok false => .ok none
  | .ok true =>
    match (packageMain fs target).bind (mainFile fs extensions target) with
    | .error fault => .error fault
    | .ok (some path) => .ok (some path)
    | .ok none => firstFile fs fs.isFile (indexCandidates extensions target)

/-- Looks a target up as a file, then as a directory. -/
def load (fs : FileSystem) (extensions : List Text) (target : Text) : Except Fault (Option Text) :=
  match firstFile fs fs.isFile (fileCandidates extensions target) with
  | .error fault => .error fault
  | .ok (some path) => .ok (some path)
  | .ok none => loadDirectory fs extensions target

/-- The first target that leads to a file. -/
def loadFirst (fs : FileSystem) (extensions : List Text) : List Text → Except Fault (Option Text)
  | [] => .ok none
  | target :: rest =>
    match load fs extensions target with
    | .error fault => .error fault
    | .ok (some path) => .ok (some path)
    | .ok none => loadFirst fs extensions rest

/-! ### Specifiers -/

/-- The specifier is a path of its own: it is absolute or starts with a point component. -/
def isPathLike (specifier : Text) : Bool :=
  specifier = ['.'] || specifier = ['.', '.'] || ("./" : Text).isPrefixOf specifier
    || ("../" : Text).isPrefixOf specifier || Path.isAbsolute specifier

/-- The places of a package in the `node_modules` directories at and above a directory, nearest
first; a directory of that name has none inside. -/
def packageTargets (directory specifier : Text) : List Text :=
  ((Path.ancestry directory).filter (Path.lastPart · ≠ ("node_modules" : Text))).map
    fun place => Path.joined (Path.joined place "node_modules") specifier

/-- The file that a specifier names for a file in the given directory. -/
def resolve (fs : FileSystem) (extensions : List Text) (directory specifier : Text) :
    Except Fault (Option Text) :=
  if specifier.isEmpty || isCoreModule specifier then .ok none
  else if isPathLike specifier then load fs extensions (Path.joined directory specifier)
  else
    match fs.resolved directory with
    | .error fault => .error fault
    | .ok real => loadFirst fs extensions (packageTargets real specifier)

/-! ### Targets of a source file -/

/-- The path stands for a text without a file, which resolves nothing. -/
def isVirtual (path : Text) : Bool := path.head? = some '<'

/-- Resolves the specifiers of a source file one after the other. -/
def resolveAll (fs : FileSystem) (extensions : List Text) (directory path : Text) :
    List (Source.ImportKind × Source.Specifier) → Except Fault (List Target)
  | [] => .ok []
  | (kind, place) :: rest =>
    match resolve fs extensions directory place.value with
    | .error fault => .error fault
    | .ok resolved =>
      (resolveAll fs extensions directory path rest).map
        ({ specifier := place.value, resolved := resolved, place := place, kind := kind,
           sourcePath := some path } :: ·)

/-- The targets of a source text under the path of its file. -/
def targets (fs : FileSystem) (extensions : List Text) (source path : Text) :
    Except Fault (List Target) :=
  if isVirtual path then .ok []
  else
    resolveAll fs extensions (Path.dirName (Path.absolute fs.cwdPath path)) path
      (Source.specifiers source)

end Resolution

end SpecifierLint
