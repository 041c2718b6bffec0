/-
Siblings of a resolved file.

The siblings of a file are the entries of its directory whose names start with its stem and a point.
What follows the stem is kept whole, so beside `foo.ts` the file `foo.d.ts` has the extension
`.d.ts`.  A directory that cannot be listed has no entries.
-/
import SpecifierLint.Path.Basic

namespace SpecifierLint.Sibling

/-- The names in a directory, if it can be listed. -/
abbrev Listing := Text → Option (List Text)

/-- The stem of a file: its name without the extension. -/
def stem (path : Text) : Text := (Path.splitExtension (Path.baseName path)).1

/-- The extensions of the files with the same stem, in the order of the listing. -/
def extensions (listing : Listing) (path : Text) : List Text :=
  let front := stem path
  ((listing (Path.dirName path)).getD []).filterMap fun name =>
    if (front ++ ['.']).isPrefixOf name then some (name.drop front.length) else none

end SpecifierLint.Sibling
