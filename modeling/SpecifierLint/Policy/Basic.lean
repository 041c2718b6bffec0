/-
Extension policies.

A policy says for every file extension whether specifiers have to carry it or must not, which
extensions are tried when a specifier is resolved, and whether TypeScript sources count as `.js`.
Main statement:

* **`Policy.styleFor_of_lookup`** — an extension with an override has the style of the override.
-/
import SpecifierLint.Value.Display

namespace SpecifierLint

/-- Whether specifiers carry an extension. -/
inductive Style where
  | always
  | never
  deriving DecidableEq, Repr

/-- The word for a style. -/
def Style.label : Style → Text
  | .always => "always"
  | .never => "never"

/-- The style that a text names. -/
def Style.ofLabel? (t : Text) : Option Style :=
  if t = Style.always.label then some .always
  else if t = Style.never.label then some .never
  else none

/-- The style that a configuration value names. -/
def Style.ofValue? : Value → Option Style
  | .text t => Style.ofLabel? t
  | _ => none

theorem Style.ofLabel?_label (s : Style) : Style.ofLabel? s.label = some s := by
  cases s <;> decide

/-- What is wrong with a configuration. -/
inductive ConfigFault where
  /-- A value that names no style, and the option that it was given for. -/
  | badStyle (value : Value) (key : Text)
  /-- A key of the override table that is no extension. -/
  | badKey (key : Text)
  /-- Rule options that are neither a text nor a list. -/
  | badOptions

/-- The wording of a fault.  It quotes the value that names no style, and fails with the form of it. -/
def ConfigFault.message (room : Nat) : ConfigFault → Except FormFault Text
  | .badStyle value key =>
    (value.form room).map fun form =>
      "Invalid style " ++ form ++ " for '" ++ key ++ "': expected 'always' or 'never'."
  | .badKey key =>
    .ok ("Invalid extension override key " ++ Text.quoted key ++ ": extensions must start with '.'.")
  | .badOptions => .ok "'options' must be a style string or a list."

/-- The extensions that are tried if the configuration names none. -/
def defaultTryExtensions : List Text := [".js", ".json", ".node"]

/-- The effective configuration of one run. -/
structure Policy where
  defaultStyle : Style := .always
  overrides : List (Text × Style) := []
  tryExtensions : List Text := defaultTryExtensions
  esm : Bool := false
  deriving DecidableEq, Repr

namespace Policy

/-- The style of an extension: its override, or the default. -/
def styleFor (p : Policy) (extension : Text) : Style :=
  (p.overrides.lookup extension).getD p.defaultStyle

theorem styleFor_of_lookup {p : Policy} {extension : Text} {s : Style}
    (h : p.overrides.lookup extension = some s) : p.styleFor extension = s := by
  simp [styleFor, h]

end Policy

end SpecifierLint
