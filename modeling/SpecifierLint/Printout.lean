/-
What is printed, step by step.

A printout is made of steps, each of which prints some lines or fails.  The first step that fails
ends it, and the lines of the steps before it stay.  Main statement:

* **`Printout.fault_eq_none_iff`** — a printout has no fault exactly if none of its steps fails.
-/
import SpecifierLint.Console.Markup
import SpecifierLint.Guidance.Basic

namespace SpecifierLint

/-- Why something cannot be printed. -/
inductive PrintFault where
  | registry (fault : Guidance.RegistryFault)
  | markup (fault : Console.MarkupFault)
  deriving DecidableEq, Repr

/-- Printed lines, and the fault that ended them. -/
structure Printout where
  lines : List Text := []
  fault : Option PrintFault := none

/-- One step of a printout. -/
abbrev PrintStep := Except PrintFault (List Text)

namespace PrintStep

/-- Prints a text as it is. -/
def ofText (width : Nat) (t : Text) : PrintStep := .ok (Console.wrap width (t : Console.Styled))

/-- Prints a markup. -/
def ofMarkup (width : Nat) (markup : Text) : PrintStep :=
  (Console.printed width markup).mapError .markup

/-- Prints what a registry says, as a step. -/
def ofGuidance (said : Except Guidance.RegistryFault Text) (step : Text → PrintStep) : PrintStep :=
  match said with
  | .ok t => step t
  | .error fault => .error (.registry fault)

/-- The step fails. -/
def fails : PrintStep → Bool
  | .ok _ => false
  | .error _ => true

end PrintStep

namespace Printout

/-- The printout of steps. -/
def ofSteps : List PrintStep → Printout
  | [] => {}
  | .ok lines :: rest =>
    let later := ofSteps rest
    { later with lines := lines ++ later.lines }
  | .error fault :: _ => { fault := some fault }

/-- A printout has no fault exactly if none of its steps fails. -/
theorem fault_eq_none_iff (steps : List PrintStep) :
    (ofSteps steps).fault = none ↔ ∀ s ∈ steps, s.fails = false := by
  induction steps with
  | nil => simp [ofSteps]
  | cons s rest ih => cases s <;> simp [ofSteps, PrintStep.fails, ih]

end Printout

end SpecifierLint
