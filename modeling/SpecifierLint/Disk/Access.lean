/-
Access to a disk by path.

A path is walked component by component from the root or the working directory.  Before each
component, empty ones and points included, the place reached so far has to be a directory, and for
all but the empty ones one that can be searched.  Tests for existence take a missing name, a file in the
place of a directory, and a path with U+0000 for "no"; a name or path that is too long, or a directory that
cannot be searched, is a fault even there.

The path of a test can be a spelled one.  Its bytes are walked, so that it leads to a file whose name they
spell, and it stands in the message of a fault as it is spelled.
-/
import SpecifierLint.Disk.Basic
import SpecifierLint.Text.Quoted
import SpecifierLint.Value.Display

namespace SpecifierLint

/-- Why an access fails. -/
inductive AccessError where
  | noEntry
  | permission
  | notDirectory
  | isDirectory
  | nameTooLong
  | zeroCharacter
  deriving DecidableEq, Repr

/-- The number of an error. -/
def AccessError.number : AccessError → Nat
  | .noEntry => 2
  | .permission => 13
  | .notDirectory => 20
  | .isDirectory => 21
  | .nameTooLong => 36
  | .zeroCharacter => 0

/-- The wording of an error. -/
def AccessError.text : AccessError → Text
  | .noEntry => "No such file or directory"
  | .permission => "Permission denied"
  | .notDirectory => "Not a directory"
  | .isDirectory => "Is a directory"
  | .nameTooLong => "File name too long"
  | .zeroCharacter => "embedded null byte"

/-- The number and the wording of an error. -/
def AccessError.headline (e : AccessError) : Text :=
  "[Errno " ++ Text.ofNat e.number ++ "] " ++ e.text

/-- A failed access to a path, a file that is not UTF-8, a text with stray bytes that is to be written,
something that is nested too deep, or an integer that is too long to be written. -/
inductive Fault where
  | access (error : AccessError) (path : Text)
  | encoding (fault : Text.DecodeFault)
  | unencodable
  | nesting
  | longInteger
  deriving DecidableEq, Repr

/-- The wording of a fault. -/
def Fault.message : Fault → Text
  | .access .zeroCharacter _ => AccessError.zeroCharacter.text
  | .access error path => error.headline ++ ": " ++ Text.quotedPath path
  | .encoding fault => fault.message
  | .unencodable => "surrogates not allowed"
  | .nesting => "nested too deep"
  | .longInteger =>
    "Exceeds the limit (" ++ Text.ofNat integerDigits ++ " digits) for integer string conversion"

/-- A value that cannot be written, as a fault. -/
def FormFault.fault : FormFault → Fault
  | .longInteger => .longInteger
  | .tooDeep => .nesting

namespace Disk

/-! ### Walking -/

/-- The longest name, in bytes of UTF-8. -/
def longestName : Nat := 255

/-- The length from which on a path is too long, in bytes of UTF-8. -/
def pathLimit : Nat := 4096

/-- A directory in which names can be looked for. -/
def isSearchable (d : Disk) (location : Location) : Bool := !d.unsearchable.contains location

/-- Walks components from a location. -/
def walkFrom (d : Disk) (location : Location) : List Text → Except AccessError Location
  | [] => .ok location
  | c :: rest =>
    if d.entryAt? location ≠ some .directory then .error .notDirectory
    else if c ≠ [] && !d.isSearchable location then .error .permission
    else if c = [] || c = ['.'] then d.walkFrom location rest
    else if c = ['.', '.'] then d.walkFrom location.dropLast rest
    else if longestName < Text.utf8Length c then .error .nameTooLong
    else if (d.entryAt? (location ++ [c])).isSome then d.walkFrom (location ++ [c]) rest
    else .error .noEntry

/-- The location that the bytes of a path lead to. -/
def walkBytes (d : Disk) (path : Text) : Except AccessError Location :=
  if path.isEmpty then .error .noEntry
  else if pathLimit ≤ Text.utf8Length path then .error .nameTooLong
  else d.walkFrom (if Path.isAbsolute path then [] else d.cwd) (Text.split '/' path)

/-- The location that a path leads to. -/
def walk (d : Disk) (path : Text) : Except AccessError Location :=
  if path.contains '\x00' then .error .zeroCharacter else d.walkBytes path

/-- The entry at the end of a walk. -/
def arrive (d : Disk) : Except AccessError Location → Except AccessError (Location × Entry)
  | .error e => .error e
  | .ok location =>
    match d.entryAt? location with
    | some entry => .ok (location, entry)
    | none => .error .noEntry

/-- The location and the entry that a path leads to. -/
def reach (d : Disk) (path : Text) : Except AccessError (Location × Entry) := d.arrive (d.walk path)

/-! ### Tests -/

/-- Tests what was reached on a path; what is not there does not pass. -/
def verdict (passes : Entry → Bool) (path : Text) :
    Except AccessError (Location × Entry) → Except Fault Bool
  | .ok (_, entry) => .ok (passes entry)
  | .error .nameTooLong => .error (.access .nameTooLong path)
  | .error .permission => .error (.access .permission path)
  | .error _ => .ok false

/-- Tests the entry at a path. -/
def test (d : Disk) (passes : Entry → Bool) (path : Text) : Except Fault Bool :=
  verdict passes path (d.reach path)

/-- The path leads to a file. -/
def isFile (d : Disk) (path : Text) : Except Fault Bool := d.test Entry.isFile path

/-- The spelled path leads to a file. -/
def isSpelledFile (d : Disk) (path : Text) : Except Fault Bool :=
  if (Path.spelledBytes? path).isNone then .ok false
  else verdict Entry.isFile path (d.arrive (d.walkBytes (Path.unspelled path)))

/-- The path leads to a directory. -/
def isDirectory (d : Disk) (path : Text) : Except Fault Bool := d.test Entry.isDirectory path

/-- The path leads somewhere. -/
def hasEntry (d : Disk) (path : Text) : Except Fault Bool := d.test (fun _ => true) path

/-! ### Reading and writing -/

/-- The names in a directory, in the order of the disk. -/
def namesIn (d : Disk) (location : Location) : List Text :=
  d.entries.filterMap fun e =>
    match e.1.getLast? with
    | some name => if e.1.dropLast = location then some name else none
    | none => none

/-- Lists a directory. -/
def list (d : Disk) (path : Text) : Except Fault (List Text) :=
  match d.reach path with
  | .error e => .error (.access e path)
  | .ok (_, .file _) => .error (.access .notDirectory path)
  | .ok (location, .directory) =>
    if d.denied.contains location then .error (.access .permission path)
    else .ok (d.namesIn location)

/-- Opens a file for reading. -/
def content (d : Disk) (path : Text) : Except Fault Content :=
  match d.reach path with
  | .error e => .error (.access e path)
  | .ok (_, .directory) => .error (.access .isDirectory path)
  | .ok (location, .file c) =>
    if d.denied.contains location then .error (.access .permission path) else .ok c

/-- Reads a file as text, line endings as they are. -/
def readText (d : Disk) (path : Text) : Except Fault Text :=
  match d.content path with
  | .error fault => .error fault
  | .ok (.text t) => .ok t
  | .ok (.raw _ fault) => .error (.encoding fault)

/-- Writes the text of a file that exists. -/
def writeText (d : Disk) (path : Text) (t : Text) : Except Fault Disk :=
  match d.reach path with
  | .error e => .error (.access e path)
  | .ok (_, .directory) => .error (.access .isDirectory path)
  | .ok (location, .file _) =>
    if d.readonly.contains location then .error (.access .permission path)
    else .ok (d.replace location (.file (.text t)))

/-- Tries to write a text with stray bytes to a file that exists: the file is emptied before the text turns
out to have no encoding. -/
def writeStrays (d : Disk) (path : Text) : Disk × Fault :=
  match d.writeText path [] with
  | .error fault => (d, fault)
  | .ok emptied => (emptied, .unencodable)

end Disk

end SpecifierLint
