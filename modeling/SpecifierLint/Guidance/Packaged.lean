/-
The registry that comes with the linter.
-/
import SpecifierLint.Guidance.Basic
import SpecifierLint.Rule.Violation

namespace SpecifierLint.Guidance

/-- The entry of the rule about file extensions. -/
def extensionEntry : Table :=
  [("display_name", .text "File Extension In Import"),
   ("symbol", .text ruleCode),
   ("short_description",
     .text "Enforce the style of file extensions in import specifiers."),
   ("fixable", .bool true),
   ("manual_instructions",
     .text <| "No automatic fix is offered when several files share the imported basename "
       ++ "(for example foo.js and foo.json). Add or remove the extension by hand so the "
       ++ "specifier names exactly the file you mean, or rename the sibling files."),
   ("proactive_guidance",
     .text <| "Under ESM every relative specifier needs its full extension. TypeScript "
       ++ "sources are written as '.js' when the \"esm\" option is enabled."),
   ("references", .list [.text "https://nodejs.org/api/esm.html#mandatory-file-extensions"])]

/-- The packaged registry. -/
def packaged : Table :=
  [(ruleCode, .table extensionEntry),
   ("_default", .table [("manual_instructions", .text fallbackInstructions)])]

end SpecifierLint.Guidance
