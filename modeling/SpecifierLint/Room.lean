/-
Room for nested calls.

Calls can only be nested so deep, and what is left of that depends on how many of them are open already.
Where the program goes down level by level it fails when nothing is left.  Unless it is said otherwise
the room is that of a program with some fifteen calls open, where a thousand are allowed in all.
-/

namespace SpecifierLint

/-- How many levels there is room for, in each of the places where the program goes down. -/
structure Room where
  /-- The levels of a `package.json`. -/
  package : Nat := 985
  /-- The calls of the reader of a `pyproject.toml`. -/
  document : Nat := 985
  /-- The levels of a value that is written out. -/
  form : Nat := 985
  /-- The directories below the one where a search for source files starts. -/
  search : Nat := 985
  deriving DecidableEq, Repr

end SpecifierLint
