/-
The source files under a path.

Below a directory these are all files, at any depth, that are reached through directories that can be
listed, have one of the wanted suffixes, and are not excluded.  A file is excluded if a pattern
matches its path seen from the directory or one of the names in it.  They come in the order of their
paths.  A path to a single file stands for that file, whatever the patterns say.

The search goes through the directories from the top down, those in one directory in the order in which
it is listed.  In each it looks at the names, in this order as well, before it goes down.  It fails at the
first directory that is too long for a path or that there is no room to go down from, or at the first entry
with a wanted suffix that cannot be tested.
-/
import SpecifierLint.Disk.Access
import SpecifierLint.Wildcard

namespace SpecifierLint.SourceTree

/-- A pattern matches the relative path or one of its names. -/
def isExcluded (patterns : List Text) (relative : Location) : Bool :=
  patterns.any fun p =>
    Wildcard.covers p (Text.join ['/'] relative) || relative.any (Wildcard.covers p)

/-- The location is that of a directory whose names can be listed. -/
def isListable (d : Disk) (location : Location) : Bool :=
  d.entryAt? location = some .directory && !d.denied.contains location
    && (d.walk (Disk.pathOf location)).isOk

/-- Every directory from `top` down to the one that holds the entry can be listed. -/
def isReachable (d : Disk) (top location : Location) : Bool :=
  (List.range (location.length - top.length)).all fun n =>
    isListable d (location.take (top.length + n))

/-- The location is that of a source file below the directory `top`. -/
def isSource (d : Disk) (suffixes exclude : List Text) (top file : Location) : Bool :=
  top.isPrefixOf file && top.length < file.length && isReachable d top file
    && suffixes.contains (Path.suffix (file.getLastD []))
    && !isExcluded exclude (file.drop top.length)

/-- The source files below a directory. -/
def filesBelow (d : Disk) (suffixes exclude : List Text) (top : Location) : List Text :=
  Text.sorted <|
    (d.entries.filter fun e => e.2.isFile && isSource d suffixes exclude top e.1).map fun e =>
      Disk.pathOf e.1

/-- Where the entry of a location stands in the table. -/
def position (d : Disk) (location : Location) : Nat := (d.entries.map Prod.fst).idxOf location

/-- The way of the search down to a location: where each entry on it stands in the table. -/
def route (d : Disk) (location : Location) : List Nat :=
  (List.range location.length).map fun n => position d (location.take (n + 1))

/-- The step at which the search tests an entry, if it fails there: the way to the directory that is gone
through then, and the turn of the entry in it. -/
def nameSteps (d : Disk) (suffixes : List Text) (location : Location) :
    List ((List Nat × Nat) × Fault) :=
  if suffixes.contains (Path.suffix (location.getLastD [])) then
    match d.isFile (Disk.pathOf location) with
    | .error fault => [((route d location.dropLast, position d location + 1), fault)]
    | .ok _ => []
  else []

/-- The steps at which the search fails at a directory below `top`, or at `top` itself: before its names if
its path is too long, and behind them if there is no room to go down. -/
def directorySteps (d : Disk) (top location : Location) : List ((List Nat × Nat) × Fault) :=
  (match d.walk (Disk.pathOf location) with
    | .error .nameTooLong =>
      [((route d location, 0), .access .nameTooLong (Disk.pathOf location))]
    | _ => [])
    ++ if d.room.search ≤ location.length - top.length then
      [((route d location, d.entries.length + 1), .nesting)] else []

/-- One step of the search comes before another: its directory does, or it comes first in the same one. -/
def isEarlier (a b : List Nat × Nat) : Bool := a.1 < b.1 || (a.1 = b.1 && a.2 < b.2)

/-- The earlier one of two steps, each with its fault. -/
def earlier (best : Option ((List Nat × Nat) × Fault)) (next : (List Nat × Nat) × Fault) :
    Option ((List Nat × Nat) × Fault) :=
  match best with
  | none => some next
  | some found => some (if isEarlier next.1 found.1 then next else found)

/-- The search below a directory comes to the entry at a location. -/
def isMet (d : Disk) (top location : Location) : Bool :=
  top.isPrefixOf location && top.length < location.length && isReachable d top location

/-- What the search below a directory fails with. -/
def faultBelow? (d : Disk) (suffixes : List Text) (top : Location) : Option Fault :=
  let below := (d.entries.filter fun e => isMet d top e.1).flatMap fun e =>
    nameSteps d suffixes e.1 ++ if e.2.isDirectory then directorySteps d top e.1 else []
  ((directorySteps d top top ++ below).foldl earlier none).map Prod.snd

/-- The source files under a path. -/
def files (d : Disk) (suffixes exclude : List Text) (path : Text) : Except Fault (List Text) :=
  let top := Path.resolved d.cwdPath path
  if path.contains '\x00' then .error (.access .zeroCharacter path)
  else
    match d.isDirectory top with
    | .error fault => .error fault
    | .ok true =>
      match faultBelow? d suffixes (Disk.locate top) with
      | some fault => .error fault
      | none => .ok (filesBelow d suffixes exclude (Disk.locate top))
    | .ok false =>
      if suffixes.contains (Path.suffix (Path.lastPart top)) then
        match d.isFile top with
        | .error fault => .error fault
        | .ok found => .ok (if found then [top] else [])
      else .ok []

end SpecifierLint.SourceTree
