/-
Import targets.

A target is one import of a source file: the specifier as it was written, the file that it resolved
to if there is one, the place of the literal, and the form of the import.
-/
import SpecifierLint.Source.Scan

namespace SpecifierLint

/-- One import and the file that it names. -/
structure Target where
  specifier : Text
  resolved : Option Text
  place : Source.Specifier
  kind : Source.ImportKind := .staticImport
  sourcePath : Option Text := none
  deriving DecidableEq, Repr

/-- Line and column of the literal, after the path of the source file if it is known. -/
def Target.location (t : Target) : Text :=
  let position := Text.ofNat t.place.line ++ ":" ++ Text.ofInt t.place.column
  match t.sourcePath with
  | some path => if path.isEmpty then position else path ++ ":" ++ position
  | none => position

end SpecifierLint
