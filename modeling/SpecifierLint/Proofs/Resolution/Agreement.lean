/-
Resolution and checks on disks that agree.

Resolution asks a disk for kinds of entries and reads one kind of file, `package.json`.  On disks that
agree except in files of other names every specifier therefore has the same target, every target the
same siblings, and every source text the same violations.  Main statements:

* **`getLast?_of_walk_package`** — the path of a `package.json` leads to a file of that name;
* **`resolve_eq`** — specifiers resolve alike;
* **`checkSource_congr`** — a source text has the same violations, if the siblings decide alike;
* **`checkFile_eq`** — so has a file that was not touched.
-/
import SpecifierLint.Run.Check
import SpecifierLint.Proofs.Disk.Agreement

namespace SpecifierLint

/-- No touched file has the name of a package description. -/
def SparesPackages (touched : Location → Prop) : Prop :=
  ∀ l, touched l → l.getLast? ≠ some ("package.json" : Text)

/-- The path of a `package.json` leads to a file of that name. -/
theorem Disk.getLast?_of_walk_package {d : Disk} {directory : Text} {l : Location}
    (h : d.walk (Path.joined directory "package.json") = .ok l) :
    l.getLast? = some ("package.json" : Text) := by
  obtain ⟨_, _, _, hwalk⟩ := walk_eq_ok.1 h
  have hdown : Path.IsDown ("package.json" : Text) := by
    refine ⟨⟨?_, ?_, ?_⟩, ?_⟩ <;> decide
  have hend := eq_follow_of_walkFrom hwalk
  rw [← Path.foldl_follow_parts, Path.parts_joined (by decide), Path.parts_of_isPart hdown.1,
    List.foldl_append, List.foldl_cons, List.foldl_nil, Path.follow_of_isDown hdown] at hend
  rw [hend, List.getLast?_concat]

variable {touched : Location → Prop} {d e : Disk}

namespace Resolution

variable (h : d.SameShape touched e)

include h

theorem firstFile_eq (isFile : Text → Except Fault Bool) (candidates : List Text) :
    firstFile e isFile candidates = firstFile d isFile candidates := by
  induction candidates with
  | nil => rfl
  | cons candidate rest ih =>
    rw [firstFile, firstFile, e.fileSystem_cwdPath, h.cwdPath_eq, ih]
    rfl

theorem mainFile_eq (extensions : List Text) (directory : Text) :
    mainFile e extensions directory = mainFile d extensions directory := by
  funext main
  cases main with
  | none => rfl
  | some name =>
    have htest : e.isSpelledFile = d.isSpelledFile := funext h.isSpelledFile_eq
    rw [mainFile, mainFile, e.fileSystem_isSpelledFile, htest, firstFile_eq h]
    rfl

variable (hpackages : SparesPackages touched)

include hpackages

theorem packageMain_eq (directory : Text) : packageMain e directory = packageMain d directory := by
  -- the one file that a search reads has a name that no touched file has
  have hread : e.readText (Path.joined directory "package.json")
      = d.readText (Path.joined directory "package.json") := by
    refine h.readText_eq fun l hl ht => hpackages l ht ?_
    exact Disk.getLast?_of_walk_package hl
  simp only [packageMain, Disk.fileSystem_isFile, Disk.fileSystem_readText,
    Disk.fileSystem_packageRoom, h.isFile_eq, h.room, hread]

theorem load_eq (extensions : List Text) (target : Text) :
    load e extensions target = load d extensions target := by
  have htest : e.isFile = d.isFile := funext h.isFile_eq
  simp only [load, loadDirectory, Disk.fileSystem_isFile, Disk.fileSystem_isDirectory, htest,
    firstFile_eq h, h.isDirectory_eq, packageMain_eq h hpackages, mainFile_eq h]

theorem loadFirst_eq (extensions : List Text) (targets : List Text) :
    loadFirst e extensions targets = loadFirst d extensions targets := by
  induction targets with
  | nil => rfl
  | cons target rest ih => rw [loadFirst, loadFirst, load_eq h hpackages, ih]

/-- A specifier resolves alike on disks of the same shape. -/
theorem resolve_eq (extensions : List Text) (directory specifier : Text) :
    resolve e extensions directory specifier = resolve d extensions directory specifier := by
  have hresolved : e.fileSystem.resolved directory = d.fileSystem.resolved directory := by
    simp only [Disk.fileSystem, h.cwdPath_eq]
  simp only [resolve, load_eq h hpackages, loadFirst_eq h hpackages, hresolved]

theorem resolveAll_eq (extensions : List Text) (directory path : Text)
    (found : List (Source.ImportKind × Source.Specifier)) :
    resolveAll e extensions directory path found = resolveAll d extensions directory path found := by
  induction found with
  | nil => rfl
  | cons x rest ih =>
    obtain ⟨kind, place⟩ := x
    rw [resolveAll, resolveAll, resolve_eq h hpackages, ih]

theorem targets_eq (extensions : List Text) (source path : Text) :
    targets e extensions source path = targets d extensions source path := by
  simp only [targets, Disk.fileSystem_cwdPath, h.cwdPath_eq, resolveAll_eq h hpackages]

end Resolution

namespace Run

/-- A source text has the same violations on disks of the same shape on which the same is decided about
every target. -/
theorem checkSource_congr {p : Policy} (h : d.SameShape touched e) (hpackages : SparesPackages touched)
    (hdecision : Rule.decision p (listing e) = Rule.decision p (listing d)) (source path : Text) :
    checkSource e p source path = checkSource d p source path := by
  simp only [checkSource, Resolution.targets_eq h hpackages, hdecision]

/-- So has a file that was not touched. -/
theorem checkFile_congr {p : Policy} (h : d.SameShape touched e) (hpackages : SparesPackages touched)
    (hdecision : Rule.decision p (listing e) = Rule.decision p (listing d)) {path : Text}
    (hpath : ∀ l, d.walk path = .ok l → ¬ touched l) : checkFile e p path = checkFile d p path := by
  simp only [checkFile, h.readText_eq hpath, checkSource_congr h hpackages hdecision]

variable (h : d.AgreeOff touched e)

include h

theorem listing_eq : listing e = listing d := by
  funext directory
  rw [listing, listing, h.list_eq]

/-- A file that was not touched has the same report on disks that agree. -/
theorem checkFile_eq (hpackages : SparesPackages touched) (p : Policy) {path : Text}
    (hpath : ∀ l, d.walk path = .ok l → ¬ touched l) : checkFile e p path = checkFile d p path :=
  checkFile_congr h.toSameShape hpackages (by rw [listing_eq h]) hpath

end Run

end SpecifierLint
