/-
Guidance about rules.

A registry is a table that gives each rule code an entry with a display name and instructions.  A
rule can also be found by the symbol of an entry.  What the registry does not say is made up: the
name from the code in title case, the instructions from the entry `_default` or a fixed sentence.
Entries of the wrong shape are faults of their own.
-/
import SpecifierLint.Room
import SpecifierLint.Text.TitleCase
import SpecifierLint.Value.Mapping

namespace SpecifierLint.Guidance

/-- What is wrong with a registry. -/
inductive RegistryFault where
  /-- An entry cannot be made a table. -/
  | badEntry (fault : MappingFault)
  /-- An entry that is searched for a symbol is no table. -/
  | notSearchable
  /-- The default entry has no keys to look up. -/
  | noKeys
  /-- A value of an entry cannot be written. -/
  | unwritable (fault : FormFault)
  deriving DecidableEq, Repr

/-- A value of an entry as a text. -/
def written (v : Value) : Except RegistryFault Text :=
  match v.display ({} : Room).form with
  | .ok t => .ok t
  | .error fault => .error (.unwritable fault)

/-- The registry that a file holds; what is no table is an empty registry. -/
def registryOf (v : Value) : Table := v.table?.getD []

/-- The value is a given text. -/
def isText (t : Text) : Value → Bool
  | .text s => s = t
  | _ => false

/-- The first entry with a symbol. -/
def findSymbol (code : Text) : Table → Except RegistryFault (Option Table)
  | [] => .ok none
  | (_, .table entry) :: rest =>
    if (Table.get? entry "symbol").any (isText code) then .ok (some entry)
    else findSymbol code rest
  | _ :: _ => .error .notSearchable

/-- The entry of a rule: under its code if something is there, else by its symbol. -/
def entry (registry : Table) (code : Text) : Except RegistryFault (Option Table) :=
  match registry.get? code with
  | some v =>
    if v.isPresent then
      match Table.ofValue v with
      | .ok table => .ok (some table)
      | .error fault => .error (.badEntry fault)
    else findSymbol code registry
  | none => findSymbol code registry

/-- A code as a name: its hyphens become spaces, and the words are in title case. -/
def nameOf (code : Text) : Text :=
  Text.titleCase (code.map fun c => if c = '-' then ' ' else c)

/-- The value of a key, if it counts as present. -/
def presentValue? (t : Table) (key : Text) : Option Value := (t.get? key).filter Value.isPresent

/-- The name of a rule for its readers. -/
def displayName (registry : Table) (code : Text) : Except RegistryFault Text :=
  match entry registry code with
  | .error fault => .error fault
  | .ok none => .ok (nameOf code)
  | .ok (some table) =>
    match (presentValue? table "display_name").or (presentValue? table "short_description") with
    | some v => written v
    | none => .ok (nameOf code)

/-- The key of the instructions. -/
def instructionsKey : Text := "manual_instructions"

/-- The instructions if the registry gives none. -/
def fallbackInstructions : Text := "See project docs. Fix the violation at the reported location."

/-- The instructions of the default entry. -/
def defaultInstructions (registry : Table) : Except RegistryFault Text :=
  match registry.get? "_default" with
  | none => .ok fallbackInstructions
  | some v =>
    if !v.isPresent then .ok fallbackInstructions
    else
      match v with
      | .table t => ((Table.get? t instructionsKey).map written).getD (.ok fallbackInstructions)
      | .text t => if Text.occursIn instructionsKey t then .error .noKeys else .ok fallbackInstructions
      | .list items =>
        if items.any (isText instructionsKey) then .error .noKeys else .ok fallbackInstructions
      | _ => .error .noKeys

/-- How to mend a violation of a rule by hand. -/
def manualInstructions (registry : Table) (code : Text) : Except RegistryFault Text :=
  match entry registry code with
  | .error fault => .error fault
  | .ok found =>
    match found.bind (Table.get? · instructionsKey) with
    | some v => written v
    | none => defaultInstructions registry

end SpecifierLint.Guidance
