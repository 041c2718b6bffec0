/-
Specifiers that the rule leaves alone.

The rule says nothing about a specifier that resolved to no file, about the bare name of a package,
with or without a scope, and about a core module written with a slash at its end.
-/
import SpecifierLint.Rule.Target
import SpecifierLint.Rule.CoreModule

namespace SpecifierLint.Rule

/-- A slash of either direction. -/
def isSlash (c : Char) : Bool := c = '/' || c = '\\'

/-- A part of a package name: not empty and without slashes. -/
def isSegment (t : Text) : Bool := !t.isEmpty && !t.any isSlash

/-- The name of a package: one segment, or a scope with an at sign, a slash and one segment. -/
def isPackageName (specifier : Text) : Bool :=
  isSegment specifier ||
    match specifier with
    | '@' :: rest =>
      isSegment (rest.takeWhile (!isSlash ·)) && isSegment ((rest.dropWhile (!isSlash ·)).drop 1)
    | _ => false

/-- The text without one line break at its end. -/
def dropFinalBreak (t : Text) : Text := if t.getLast? = some '\n' then t.dropLast else t

/-- The name of a core module with one slash after it, at the end of the text or of its line. -/
def isCoreDirectory (specifier : Text) : Bool :=
  let line := dropFinalBreak specifier
  line.getLast?.any isSlash && coreModules.contains line.dropLast

/-- The rule says nothing about the target. -/
def isExempt (t : Target) : Bool :=
  (t.resolved.getD []).isEmpty || isPackageName t.specifier || isCoreDirectory t.specifier

end SpecifierLint.Rule
