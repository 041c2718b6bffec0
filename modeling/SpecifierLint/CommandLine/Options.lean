/-
Options among the arguments of a command.

A command names its options, and says of each whether a value comes with it.  A long option takes its
value after an equals sign or from the next argument; short options can be written together, and the
rest of their argument is the value of the first one that takes one.  Two hyphens end the options.
Arguments that are no options are operands; where they may not be mixed with options, the first one
ends the options as well.  Main statement:

* **`Grammar.read_operands`** — arguments that do not look like options are all operands.
-/
import SpecifierLint.Text.Quoted

namespace SpecifierLint.CommandLine

/-- What is wrong with the arguments of a run. -/
inductive UsageFault where
  | unknownOption (name : Text)
  | missingValue (name : Text)
  | unexpectedValue (name : Text)
  | missingCommand
  | unknownCommand (name : Text)
  | extraOperand (operand : Text)
  | unreadablePath (path : Text)
  deriving DecidableEq, Repr

namespace UsageFault

/-- The wording of a fault. -/
def message : UsageFault → Text
  | .unknownOption name => "No such option: " ++ name
  | .missingValue name => "Option " ++ Text.quoted name ++ " requires an argument."
  | .unexpectedValue name => "Option " ++ Text.quoted name ++ " does not take a value."
  | .missingCommand => "Missing command."
  | .unknownCommand name => "No such command " ++ Text.quoted name ++ "."
  | .extraOperand operand => "Got unexpected extra argument (" ++ operand ++ ")"
  | .unreadablePath path => "Path " ++ Text.quoted path ++ " is not readable."

/-- The fault is shown below a summary of the usage; faults about the value of an option that exists
are shown alone. -/
def showsUsage : UsageFault → Bool
  | .missingValue _ | .unexpectedValue _ => false
  | _ => true

end UsageFault

/-- An option, under one of its names. -/
structure Spelling where
  name : Text
  takesValue : Bool := false
  deriving DecidableEq, Repr

/-- An option with its value, which is empty for a switch. -/
abbrev Setting := Text × Text

/-- The options and operands of a command, each in the order of the arguments. -/
structure Arguments where
  settings : List Setting := []
  operands : List Text := []
  deriving DecidableEq, Repr

namespace Arguments

/-- Settings that come before all others. -/
def withSettings (earlier : List Setting) (a : Arguments) : Arguments :=
  { a with settings := earlier ++ a.settings }

/-- An operand that comes before all others. -/
def withOperand (operand : Text) (a : Arguments) : Arguments :=
  { a with operands := operand :: a.operands }

/-- The last setting under one of some names. -/
def last? (a : Arguments) (names : List Text) : Option Setting :=
  (a.settings.filter fun s => names.contains s.1).getLast?

/-- The last value under one of some names. -/
def value? (a : Arguments) (names : List Text) : Option Text := (a.last? names).map Prod.snd

/-- A switch is set. -/
def has (a : Arguments) (name : Text) : Bool := (a.last? [name]).isSome

end Arguments

/-- The options of a command, and whether operands may stand between them. -/
structure Grammar where
  spellings : List Spelling
  mixed : Bool := true

/-- What one argument says: settings, and an option that waits for the next argument. -/
structure Reading where
  settings : List Setting := []
  waiting : Option Text := none
  deriving DecidableEq, Repr

namespace Grammar

/-- The option with a name. -/
def find? (g : Grammar) (name : Text) : Option Spelling := g.spellings.find? (·.name = name)

/-- Reads short options that are written together. -/
def readShort (g : Grammar) : Text → Except UsageFault Reading
  | [] => .ok {}
  | c :: rest =>
    match g.find? ['-', c] with
    | none => .error (.unknownOption ['-', c])
    | some s =>
      if s.takesValue then
        .ok (if rest.isEmpty then { waiting := some s.name } else { settings := [(s.name, rest)] })
      else (g.readShort rest).map fun r => { r with settings := (s.name, []) :: r.settings }

/-- Reads a long option with the value after its equals sign, if there is one. -/
def readLong (s : Spelling) : Option Text → Except UsageFault Reading
  | some value =>
    if s.takesValue then .ok { settings := [(s.name, value)] } else .error (.unexpectedValue s.name)
  | none =>
    .ok (if s.takesValue then { waiting := some s.name } else { settings := [(s.name, [])] })

/-- The argument starts with two hyphens. -/
def isLong (argument : Text) : Bool := ['-', '-'].isPrefixOf argument

/-- The text before the first equals sign, and the one after it. -/
def cutAtEquals (argument : Text) : Text × Option Text :=
  let name := argument.takeWhile (· ≠ '=')
  (name, (argument.drop name.length).tail?)

/-- Reads one argument that looks like an option. -/
def readOption (g : Grammar) (argument : Text) : Except UsageFault Reading :=
  if isLong argument then
    let (name, value) := cutAtEquals argument
    match g.find? name with
    | some s => readLong s value
    | none => .error (.unknownOption name)
  else g.readShort (argument.drop 1)

/-- The argument looks like an option: something follows its hyphen. -/
def looksLikeOption (argument : Text) : Bool :=
  argument.head? = some '-' && 1 < argument.length

/-- Reads the arguments of a command. -/
def read (g : Grammar) : List Text → Except UsageFault Arguments
  | [] => .ok {}
  | argument :: rest =>
    if argument = ['-', '-'] then .ok { operands := rest }
    else if looksLikeOption argument then
      match g.readOption argument with
      | .error fault => .error fault
      | .ok ⟨settings, none⟩ => (g.read rest).map (·.withSettings settings)
      | .ok ⟨settings, some name⟩ =>
        match rest with
        | [] => .error (.missingValue name)
        | value :: rest => (g.read rest).map (·.withSettings (settings ++ [(name, value)]))
    else if g.mixed then (g.read rest).map (·.withOperand argument)
    else .ok { operands := argument :: rest }

/-- Arguments that do not look like options are all operands. -/
theorem read_operands (g : Grammar) (args : List Text)
    (h : ∀ a ∈ args, looksLikeOption a = false) : g.read args = .ok { operands := args } := by
  induction args with
  | nil => rfl
  | cons a rest ih =>
    have ha : looksLikeOption a = false := h a (by simp)
    have hne : a ≠ ['-', '-'] := by
      rintro rfl
      simp [looksLikeOption] at ha
    have hrest := ih fun x hx => h x (by simp [hx])
    cases hm : g.mixed <;>
      simp [read, hne, ha, hm, hrest, Except.map, Arguments.withOperand]

end Grammar

end SpecifierLint.CommandLine
