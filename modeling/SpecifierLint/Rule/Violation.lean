/-
Violations.

A violation says that a specifier lacks an extension or carries one that it must not, and holds the
edit that mends it, or the reason why none is offered.
-/
import SpecifierLint.Rule.Target
import SpecifierLint.Edit

namespace SpecifierLint

/-- The code of the rule. -/
def ruleCode : Text := "file-extension-in-import"

/-- What is wrong with a specifier. -/
inductive ViolationKind where
  | requireExtension
  | forbidExtension
  deriving DecidableEq, Repr

namespace ViolationKind

/-- The name of a kind in reports. -/
def label : ViolationKind → Text
  | .requireExtension => "requireExt"
  | .forbidExtension => "forbidExt"

/-- The message of a kind about an extension. -/
def message (extension : Text) : ViolationKind → Text
  | .requireExtension => "require file extension '" ++ extension ++ "'."
  | .forbidExtension => "forbid file extension '" ++ extension ++ "'."

/-- Every kind, in the order in which they are explained. -/
def all : List ViolationKind := [.requireExtension, .forbidExtension]

/-- The kind with a name. -/
def ofLabel? (text : Text) : Option ViolationKind := all.find? (·.label = text)

end ViolationKind

/-- A specifier that breaks the policy. -/
structure Violation where
  code : Text := ruleCode
  kind : ViolationKind
  extension : Text
  message : Text
  location : Text
  place : Source.Specifier
  fix : Option Edit := none
  withheld : Option Text := none
  importKind : Source.ImportKind := .staticImport
  deriving DecidableEq, Repr

namespace Violation

/-- An edit is offered. -/
def fixable (v : Violation) : Bool := v.fix.isSome

/-- The edit that the rule offers for a violation of its own. -/
def offeredFix (v : Violation) : Option Edit := if v.code = ruleCode then v.fix else none

/-- How to mend the violation by hand. -/
def instructions (v : Violation) : Text :=
  match v.kind with
  | .requireExtension =>
    "Append '" ++ v.extension ++ "' to the specifier '" ++ v.place.value
      ++ "'. If several files share the basename, pick the one the import is meant to load."
  | .forbidExtension =>
    "Remove '" ++ v.extension ++ "' from the specifier '" ++ v.place.value
      ++ "', or rename the sibling files so the extensionless import resolves to a single file."

end Violation

end SpecifierLint
