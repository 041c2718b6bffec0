/-
The decision about one import.

The canonical extension of a target is the extension of the resolved file; if the file has none, it
is that of the only TypeScript sibling, or else of the only sibling, and a target without a unique
sibling is let pass.  With the module flag TypeScript extensions count as `.js`.  The style of the
canonical extension then says whether the specifier has to end in it or must not.
-/
import SpecifierLint.Policy.Basic
import SpecifierLint.Rule.Exemption
import SpecifierLint.Rule.Violation
import SpecifierLint.Sibling

namespace SpecifierLint.Rule

/-- The extensions of TypeScript sources. -/
def typescriptExtensions : List Text := [".ts", ".tsx", ".d.ts"]

/-- Why no extension is added. -/
def ambiguousInsertion : Text :=
  "Fix withheld: several files share this basename, the extension to add is ambiguous."

/-- Why no extension is taken away. -/
def ambiguousRemoval : Text :=
  "Fix withheld: removing the extension would make resolution ambiguous between same-named files."

/-- The outcome of checking one target. -/
inductive Decision where
  | conforms
  | violates (violation : Violation)
  deriving DecidableEq, Repr

/-- The violation of a decision. -/
def Decision.violation? : Decision → Option Violation
  | .conforms => none
  | .violates v => some v

/-- The name of an outcome. -/
def Decision.outcome : Decision → Text
  | .conforms => "no_violation"
  | .violates v => if v.fixable then "violation_with_fix" else "violation_without_fix"

/-- One of the siblings stands out: it is the only one, or the only TypeScript source. -/
def hasUniqueSibling (siblings : List Text) : Bool :=
  siblings.length = 1 || (siblings.filter typescriptExtensions.contains).length = 1

/-- The extension that the target really has, if there is one that stands out. -/
def foundExtension? (resolvedExtension : Text) (siblings : List Text) : Option Text :=
  if !resolvedExtension.isEmpty then some resolvedExtension
  else if hasUniqueSibling siblings then
    (siblings.filter typescriptExtensions.contains).head?.or siblings.head?
  else none

/-- With the module flag TypeScript extensions count as `.js`. -/
def canonical (esm : Bool) (extension : Text) : Text :=
  if esm && typescriptExtensions.contains extension then ".js" else extension

/-- The violation of a target. -/
def violationOf (t : Target) (kind : ViolationKind) (extension : Text) (fix : Option Edit)
    (withheld : Option Text) : Decision :=
  .violates {
    kind := kind
    extension := extension
    message := kind.message extension
    location := t.location
    place := t.place
    fix := fix
    withheld := withheld
    importKind := t.kind }

/-- The extension is missing: it is added before the closing quote if one sibling stands out. -/
def requireExtension (t : Target) (siblings : List Text) (extension : Text) : Decision :=
  if hasUniqueSibling siblings then
    violationOf t .requireExtension extension
      (some (.insertAt (t.place.stop - 1) extension)) none
  else violationOf t .requireExtension extension none (some ambiguousInsertion)

/-- The extension is too much: its last occurrence is taken out of the specifier if there is one
sibling. -/
def forbidExtension (t : Target) (siblings : List Text) (extension : Text) : Decision :=
  if siblings.length = 1 then
    let start : Int := t.place.start + 1 + ((Text.lastOffset? extension t.specifier).getD 0 : Nat)
    violationOf t .forbidExtension extension
      (some (.remove start (start + extension.length))) none
  else violationOf t .forbidExtension extension none (some ambiguousRemoval)

/-- The decision about one target under a policy, where the listing shows the siblings. -/
def decision (p : Policy) (listing : Sibling.Listing) (t : Target) : Decision :=
  if isExempt t then .conforms
  else
    let path := t.resolved.getD []
    let siblings := Sibling.extensions listing path
    match foundExtension? (Path.extension path) siblings with
    | none => .conforms
    | some found =>
      let extension := canonical p.esm found
      let written := Path.extension t.specifier
      match p.styleFor extension with
      | .always =>
        if extension = written then .conforms else requireExtension t siblings extension
      | .never =>
        if extension = written then forbidExtension t siblings extension else .conforms

end SpecifierLint.Rule
