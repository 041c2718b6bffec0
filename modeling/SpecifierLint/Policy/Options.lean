/-
Policies from rule options and shared settings.

The first rule option is the default style.  The second is a table: `tryExtensions` and `esm` are
reserved keys, every other key is an extension with a style of its own.  The shared settings may
hold a table `node` with the two reserved keys.  Each of them is looked up on its own, first in the
rule options and then in the settings; a value of the wrong type is as good as none.
-/
import SpecifierLint.Policy.Basic

namespace SpecifierLint.Options

/-- The key of the extensions to try. -/
def tryExtensionsKey : Text := "tryExtensions"

/-- The key of the flag for ECMAScript modules. -/
def esmKey : Text := "esm"

/-- The table of the second rule option, empty if there is none. -/
def overrideTable : List Value → Table
  | _ :: .table entries :: _ => entries
  | _ => []

/-- The table `node` of the shared settings, empty if there is none. -/
def nodeTable (settings : Table) : Table :=
  ((settings.get? "node").bind Value.table?).getD []

/-- The extensions to try that a table names: a list of texts that is not empty. -/
def tryExtensions? (t : Table) : Option (List Text) :=
  match t.get? tryExtensionsKey with
  | some (.list items) => if items.isEmpty then none else items.mapM Value.text?
  | _ => none

/-- The table sets the flag for ECMAScript modules; only the value true does. -/
def setsEsm (t : Table) : Bool :=
  match t.get? esmKey with
  | some (.bool true) => true
  | _ => false

/-- A key with a meaning of its own, which is no extension. -/
def isReserved (key : Text) : Bool := key = tryExtensionsKey || key = esmKey

/-- Reads the style of one entry of the override table. -/
def styleOf (key : Text) (value : Value) : Except ConfigFault Style :=
  match Style.ofValue? value with
  | some s => .ok s
  | none => .error (.badStyle value key)

/-- The styles of the extensions, or the fault of the first entry that has one. -/
def overrides : Table → Except ConfigFault (List (Text × Style))
  | [] => .ok []
  | (key, value) :: rest =>
    if isReserved key then overrides rest
    else if key.head? ≠ some '.' then .error (.badKey key)
    else
      match styleOf key value with
      | .error fault => .error fault
      | .ok s => (overrides rest).map ((key, s) :: ·)

/-- The default style: the first rule option, unless there is none or it is null. -/
def defaultStyle : List Value → Except ConfigFault Style
  | [] => .ok .always
  | .null :: _ => .ok .always
  | value :: _ => styleOf "options[0]" value

/-- The policy of rule options and shared settings. -/
def policy (options : List Value) (settings : Table) : Except ConfigFault Policy :=
  match defaultStyle options with
  | .error fault => .error fault
  | .ok style =>
    match overrides (overrideTable options) with
    | .error fault => .error fault
    | .ok styles =>
      .ok {
        defaultStyle := style
        overrides := styles
        tryExtensions :=
          ((tryExtensions? (overrideTable options)).or (tryExtensions? (nodeTable settings))).getD
            defaultTryExtensions
        esm := setsEsm (overrideTable options) || setsEsm (nodeTable settings) }

end SpecifierLint.Options
