/-
Configurations.

A configuration is a table with the keys `options`, `settings`, `exclude` and `source_extensions`,
together with the policy that its options and settings amount to.  It can be overridden by a style
and a module flag from the command line, which go into the options and are read again from there.
-/
import SpecifierLint.Policy.Options

namespace SpecifierLint

/-- The file extensions of sources if the configuration names none. -/
def defaultSourceExtensions : List Text :=
  [".js", ".mjs", ".cjs", ".jsx", ".ts", ".tsx", ".mts", ".cts"]

/-- The patterns of excluded files if the configuration names none. -/
def defaultExclude : List Text := ["node_modules", "dist", "build", "coverage", ".git"]

/-- A table and its policy. -/
structure Configuration where
  table : Table
  policy : Policy

namespace Configuration

/-- The rule options of a table: a single style, or a list. -/
def optionsOf (table : Table) : Except ConfigFault (List Value) :=
  match table.get? "options" with
  | none => .ok []
  | some (.text t) => .ok [.text t]
  | some (.list items) => .ok items
  | some _ => .error .badOptions

/-- The shared settings of a table. -/
def settingsOf (table : Table) : Table := ((table.get? "settings").bind Value.table?).getD []

/-- The configuration of a table. -/
def ofTable (table : Table) : Except ConfigFault Configuration :=
  match optionsOf table with
  | .error fault => .error fault
  | .ok options => (Options.policy options (settingsOf table)).map (⟨table, ·⟩)

/-- The items of a list under a key as texts, or the default if there is no list. -/
def textList (table : Table) (key : Text) (default : List Text) (room : Nat) :
    Except FormFault (List Text) :=
  match table.get? key with
  | some (.list items) => items.mapM (Value.display · room)
  | _ => .ok default

/-- The patterns of excluded files. -/
def exclude (c : Configuration) : Nat → Except FormFault (List Text) :=
  textList c.table "exclude" defaultExclude

/-- The file extensions of sources. -/
def sourceExtensions (c : Configuration) : Nat → Except FormFault (List Text) :=
  textList c.table "source_extensions" defaultSourceExtensions

/-- Rule options with a style in the first place; the others stay. -/
def withStyle (options : List Value) : Option Value → List Value
  | none => options
  | some style => style :: options.drop 1

/-- Rule options with the module flag in the second place; what stood after it is dropped. -/
def withEsm (options : List Value) : Option Value → List Value
  | none => options
  | some esm =>
    [options.headD .null, .table ((Options.overrideTable options).set Options.esmKey esm)]

/-- The configuration with a style and a module flag put over its own. -/
def override (c : Configuration) (style esm : Option Value) : Except ConfigFault Configuration :=
  match optionsOf c.table with
  | .error fault => .error fault
  | .ok options =>
    ofTable (c.table.set "options" (.list (withEsm (withStyle options style) esm)))

end Configuration

end SpecifierLint
