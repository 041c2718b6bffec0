/-
The explanation of the rule.

It gives the name of the rule and what the registry says about it, the messages of the rule, and the
policy that is in force.
-/
import SpecifierLint.Policy.Basic
import SpecifierLint.Printout
import SpecifierLint.Rule.Violation

namespace SpecifierLint.Guidance

open Console

/-- The extension of a message that speaks of any extension. -/
def anyExtension : Text := "\x7bext\x7d"

/-- Prints the messages. -/
def messageSteps (width : Nat) : List PrintStep :=
  ViolationKind.all.map fun k => .ofText width ("  " ++ k.label ++ ": " ++ k.message anyExtension)

/-- The overrides of a policy, in the order of their extensions. -/
def overridesText (p : Policy) : Text :=
  let sorted := p.overrides.mergeSort fun a b => Text.notAfter a.1 b.1
  "\x7b" ++ Text.join ", " (sorted.map fun (e, s) => e ++ "=" ++ s.label) ++ "\x7d"

/-- The policy in one line. -/
def policyText (p : Policy) : Text :=
  "Active policy: default=" ++ p.defaultStyle.label ++ " overrides=" ++ overridesText p
    ++ " tryExtensions=" ++ Text.quotedList p.tryExtensions
    ++ " esm=" ++ Value.boolWord p.esm

/-- Prints a value of an entry, if it counts as present. -/
def entrySteps (width : Nat) (before : Text) (entry : Table) (key : Text) : List PrintStep :=
  match presentValue? entry key with
  | some v => [.ofGuidance (written v) fun t => .ofMarkup width (before ++ t)]
  | none => []

/-- The explanation of the rule under a policy. -/
def explanation (width : Nat) (registry : Table) (p : Policy) : Printout :=
  match entry registry ruleCode with
  | .error fault => { fault := some (.registry fault) }
  | .ok found =>
    let table := found.getD []
    let name := displayName registry ruleCode
    let instructions := manualInstructions registry ruleCode
    .ofSteps ([.ofGuidance name fun n => .ofMarkup width ("[bold]" ++ n ++ "[/] (" ++ ruleCode ++ ")")]
      ++ entrySteps width [] table "short_description"
      ++ entrySteps width "\n" table "proactive_guidance"
      ++ messageSteps width
      ++ [.ofGuidance instructions fun i => .ofMarkup width ("\nManual fixes: " ++ i),
          .ofText width (dropControls (showNames ("\n" ++ policyText p)))])

end SpecifierLint.Guidance
