/-
Outcomes that are mapped.

A run that maps the outcome of a part succeeds exactly if the part does.  Main statement:

* **`map_eq_ok`** — a mapped outcome is a success exactly if the outcome is one.
-/
import Mathlib.Data.List.Basic

namespace SpecifierLint.Outcome

/-- A mapped outcome is a success exactly if the outcome is one. -/
theorem map_eq_ok {ε α β : Type} {f : α → β} {x : Except ε α} {b : β} :
    x.map f = .ok b ↔ ∃ a, x = .ok a ∧ f a = b := by
  cases x with
  | error e => simp [Except.map]
  | ok a => simp [Except.map]

end SpecifierLint.Outcome
