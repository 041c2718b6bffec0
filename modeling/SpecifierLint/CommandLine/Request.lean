/-
What a run of the program is asked to do.

The arguments are the options of the program, the name of a command, and the options and operands of
that command.  A request for help is met before anything else about the same command is looked at.
-/
import SpecifierLint.CommandLine.Options

namespace SpecifierLint.CommandLine

/-- Settings that are put over the configuration. -/
structure Overrides where
  style : Option Text := none
  esm : Option Bool := none
  deriving DecidableEq, Repr

/-- How a check is reported. -/
structure Presentation where
  format : Text := "table"
  view : Text := "by_file"
  deriving DecidableEq, Repr

/-- A request to the program. -/
inductive Request where
  | help
  | check (path : Option Text) (presentation : Presentation) (overrides : Overrides)
  | fix (path : Option Text) (dryRun : Bool) (overrides : Overrides)
  | explain
  deriving DecidableEq, Repr

/-! ### Commands -/

/-- The commands of the program. -/
inductive Command where
  | check
  | fix
  | explain
  deriving DecidableEq, Repr

namespace Command

/-- Every command. -/
def all : List Command := [.check, .fix, .explain]

/-- The name of a command. -/
def name : Command → Text
  | .check => "check"
  | .fix => "fix"
  | .explain => "explain"

/-- The command with a name. -/
def ofName? (t : Text) : Option Command := all.find? (·.name = t)

/-- The switch that asks for help. -/
def helpSwitch : Spelling := { name := "--help" }

/-- The options that set the overrides. -/
def overrideSpellings : List Spelling :=
  [{ name := "--style", takesValue := true }, { name := "--esm" }, { name := "--no-esm" }]

/-- The options of a command. -/
def grammar : Command → Grammar
  | .check =>
    { spellings :=
        [{ name := "--format", takesValue := true }, { name := "-f", takesValue := true },
         { name := "--view", takesValue := true }] ++ overrideSpellings ++ [helpSwitch] }
  | .fix => { spellings := [{ name := "--dry-run" }] ++ overrideSpellings ++ [helpSwitch] }
  | .explain => { spellings := [helpSwitch] }

/-- The number of operands that a command takes at most. -/
def capacity : Command → Nat
  | .check | .fix => 1
  | .explain => 0

/-- The overrides among the arguments; the last setting counts. -/
def overrides (a : Arguments) : Overrides where
  style := a.value? ["--style"]
  esm := (a.last? ["--esm", "--no-esm"]).map fun s => s.1 = ("--esm" : Text)

/-- The request that the arguments of a command make. -/
def request (a : Arguments) : Command → Request
  | .check =>
    .check a.operands.head?
      { format := (a.value? ["--format", "-f"]).getD "table"
        view := (a.value? ["--view"]).getD "by_file" }
      (overrides a)
  | .fix => .fix a.operands.head? (a.has "--dry-run") (overrides a)
  | .explain => .explain

/-- Reads the arguments of a command. -/
def read (c : Command) (args : List Text) : Except UsageFault Request :=
  match c.grammar.read args with
  | .error fault => .error fault
  | .ok a =>
    if a.has helpSwitch.name then .ok .help
    else
      match a.operands.drop c.capacity with
      | operand :: _ => .error (.extraOperand operand)
      | [] => .ok (c.request a)

end Command

/-! ### The program -/

namespace Request

/-- The options of the program itself; the first operand ends them. -/
def grammar : Grammar where
  spellings := [{ name := "--verbose" }, { name := "-v" }, Command.helpSwitch]
  mixed := false

/-- The name of no command: if it looks like an option, it is read as one of the program first. -/
def unknown (name : Text) (args : List Text) : Except UsageFault Request :=
  match grammar.read args with
  | .error fault => .error fault
  | .ok a => if a.has Command.helpSwitch.name then .ok .help else .error (.unknownCommand name)

/-- The request that the arguments of the program make. -/
def ofArguments (args : List Text) : Except UsageFault Request :=
  match grammar.read args with
  | .error fault => .error fault
  | .ok a =>
    if a.has Command.helpSwitch.name then .ok .help
    else
      match a.operands with
      | [] => .error .missingCommand
      | name :: rest =>
        match Command.ofName? name with
        | some command => command.read rest
        | none => unknown name a.operands

end Request

/-- The summary of the usage. -/
def usage : List Text :=
  ["Usage: ext-lint [-v] COMMAND [ARGS]...",
   "",
   "Enforce file extensions in import/require specifiers.",
   "",
   "  check [PATH]   Report import specifiers whose file extension breaks the configured style.",
   "                   --format, -f TEXT   Output: table or json",
   "                   --view TEXT         Table view: by_file (default) or by_extension",
   "                   --style TEXT        Override the default style: always or never",
   "                   --esm / --no-esm    Treat TypeScript sources as .js",
   "  fix [PATH]     Add or remove extensions where the fix is unambiguous.",
   "                   --dry-run           Show what would change without writing",
   "                   --style TEXT        Override the default style: always or never",
   "                   --esm / --no-esm    Treat TypeScript sources as .js",
   "  explain        Show guidance for the file-extension-in-import rule.",
   "",
   "  --verbose, -v  Enable debug logging.",
   "  --help         Show this message and exit."]

example : (Request.ofArguments [("check" : Text), "src", "-fjson", "--no-esm"]).toOption
    = some (.check (some "src") { format := "json" } { esm := some false }) := by decide +kernel

example : (Request.ofArguments [("fix" : Text), "--dry-run", "--", "-x"]).toOption
    = some (.fix (some "-x") true {}) := by decide +kernel

end SpecifierLint.CommandLine
