/-
The services of the program.

The parts that a run is put together from are registered under keys.  Main statement:

* **`Service.find_key`** — every service is found under its key.
-/
import SpecifierLint.Text.Basic

namespace SpecifierLint

/-- A part of the program that is registered under a key. -/
inductive Service where
  | configuration
  | telemetry
  | files
  | guidance
  | fixer
  deriving DecidableEq, Repr

/-- A key that nothing is registered under. -/
structure Unregistered where
  key : Text
  deriving DecidableEq, Repr

/-- The wording of the fault. -/
def Unregistered.message (u : Unregistered) : Text :=
  "Dependency '" ++ u.key ++ "' not registered."

namespace Service

/-- Every service. -/
def all : List Service := [.configuration, .telemetry, .files, .guidance, .fixer]

/-- The key of a service. -/
def key : Service → Text
  | .configuration => "ConfigurationLoader"
  | .telemetry => "TelemetryPort"
  | .files => "FileSystemGateway"
  | .guidance => "GuidanceService"
  | .fixer => "TextEditFixerGateway"

/-- The name under which a service answers. -/
def name : Service → Text
  | .telemetry => "ProjectTelemetry"
  | s => s.key

/-- The service with a key. -/
def find (key : Text) : Except Unregistered Service :=
  match all.find? (·.key = key) with
  | some s => .ok s
  | none => .error ⟨key⟩

theorem find_key (s : Service) : find s.key = .ok s := by
  cases s <;> rfl

end Service

end SpecifierLint
