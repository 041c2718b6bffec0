/-
Violations counted by extension.

The violations of a result are grouped by kind and extension.  The groups come in the order of their
keys, each with the number of its violations and of those that have an edit.
-/
import SpecifierLint.Report.Basic

namespace SpecifierLint

/-- The violations of one kind about one extension. -/
structure ExtensionCount where
  kind : Text
  extension : Text
  count : Nat
  fixable : Nat
  deriving DecidableEq, Repr

namespace ExtensionCount

/-- The key of a violation: its kind, then its extension. -/
def keyOf (v : Violation) : List Text := [v.kind.label, v.extension]

/-- The keys of violations, in order and without repetition. -/
def keys (vs : List Violation) : List (List Text) :=
  ((vs.map keyOf).eraseDups).mergeSort fun a b => !decide (b < a)

/-- The count of the violations with a key. -/
def ofKey (vs : List Violation) (key : List Text) : ExtensionCount :=
  let group := vs.filter (keyOf · = key)
  { kind := key.getD 0 []
    extension := key.getD 1 []
    count := group.length
    fixable := (group.filter (·.fixable)).length }

end ExtensionCount

/-- The violations of a result, counted by kind and extension. -/
def CheckResult.byExtension (r : CheckResult) : List ExtensionCount :=
  (ExtensionCount.keys r.violations).map (ExtensionCount.ofKey r.violations)

end SpecifierLint
