/-
Status lines on the console.

Every line starts with the name of the project in brackets.  A quiet console leaves out the greeting
and the steps, but neither warnings nor errors.
-/
import SpecifierLint.Console.Markup
import SpecifierLint.Console.Wrap
import SpecifierLint.Run.Check

namespace SpecifierLint.Console

/-- The first line of the greeting. -/
def banner : Text := "ext-lint :: file extensions in import specifiers"

/-- Where status lines go and how they look. -/
structure Telemetry where
  project : Text
  color : Text := "cyan"
  welcome : Text := []
  quiet : Bool := false
  width : Nat := 80

namespace Telemetry

/-- Prints a markup. -/
def print (t : Telemetry) (markup : Text) : Except MarkupFault (List Text) := printed t.width markup

/-- The name of the project in brackets, protected. -/
def tag (t : Telemetry) : Text := escape ("[" ++ t.project ++ "]")

/-- The greeting. -/
def handshake (t : Telemetry) : Except MarkupFault (List Text) :=
  if t.quiet then .ok []
  else
    match t.print ("[bold " ++ t.color ++ "]" ++ banner ++ "[/]") with
    | .error fault => .error fault
    | .ok first =>
      if t.welcome.isEmpty then .ok first
      else (t.print ("[" ++ t.color ++ "]" ++ t.welcome ++ "[/]")).map (first ++ ·)

/-- The lines of a notice. -/
def lines (t : Telemetry) : Notice → Except MarkupFault (List Text)
  | .step message =>
    if t.quiet then .ok [] else t.print ("[" ++ t.color ++ "]" ++ t.tag ++ "[/] " ++ escape message)
  | .warning message => t.print ("[yellow]" ++ t.tag ++ " WARNING:[/] " ++ escape message)
  | .error message => t.print ("[bold red]" ++ t.tag ++ " ERROR:[/] " ++ escape message)

end Telemetry

end SpecifierLint.Console
