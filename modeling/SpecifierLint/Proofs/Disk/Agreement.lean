/-
Disks that agree except in some files.

Rewriting a file changes what this file holds and nothing else: every name, every directory and every
other file is as before.  What a disk answers therefore stays the same, unless it is the content of a
rewritten file.  Main statements:

* **`agreeOff_of_writeText`** — a disk agrees with the disk after a write, except in the names of the file
  that was written;
* **`SameShape.walk_eq`**, **`SameShape.isFile_eq`**, **`SameShape.isDirectory_eq`** — walks and tests
  are the same on disks with entries of the same kinds at the same locations;
* **`SameShape.readText_eq`** — so is the text of a file that was not touched;
* **`AgreeOff.list_eq`**, **`AgreeOff.files_eq`** — if the order is the same too, so are the listings of
  directories and the source files under a path.
-/
import SpecifierLint.SourceTree
import SpecifierLint.Proofs.Disk.Walk

namespace SpecifierLint.Disk

/-- The locations of a disk in its order, and which of them are files. -/
def outline (d : Disk) : List (Location × Bool) := d.entries.map fun e => (e.1, e.2.isFile)

/-- Everything of a disk but its entries. -/
structure Frame where
  denied : List Location
  readonly : List Location
  unsearchable : List Location
  links : List (Location × Nat)
  cwd : Location
  room : Room

def frame (d : Disk) : Frame := ⟨d.denied, d.readonly, d.unsearchable, d.links, d.cwd, d.room⟩

/-- The disks have entries of the same kinds at the same locations.  They differ at most in the order of
their tables, and in what the touched files hold. -/
structure SameShape (touched : Location → Prop) (d e : Disk) : Prop where
  kind : ∀ l, (e.entryAt? l).map Entry.isFile = (d.entryAt? l).map Entry.isFile
  entryAt? : ∀ l, ¬ touched l → e.entryAt? l = d.entryAt? l
  frame : e.frame = d.frame

/-- The second disk differs from the first one at most in what the touched files hold. -/
structure AgreeOff (touched : Location → Prop) (d e : Disk) : Prop extends SameShape touched d e where
  outline : e.outline = d.outline

namespace SameShape

variable {touched : Location → Prop} {d e : Disk} (h : SameShape touched d e)

include h

theorem denied : e.denied = d.denied := congrArg Frame.denied h.frame

theorem readonly : e.readonly = d.readonly := congrArg Frame.readonly h.frame

theorem unsearchable : e.unsearchable = d.unsearchable := congrArg Frame.unsearchable h.frame

theorem links : e.links = d.links := congrArg Frame.links h.frame

theorem cwd : e.cwd = d.cwd := congrArg Frame.cwd h.frame

theorem room : e.room = d.room := congrArg Frame.room h.frame

end SameShape

theorem lookup_outline (d : Disk) (l : Location) :
    d.outline.lookup l = (d.entries.lookup l).map Entry.isFile := by
  rw [outline]
  induction d.entries with
  | nil => rfl
  | cons e rest ih =>
    obtain ⟨k, x⟩ := e
    rw [List.map_cons, List.lookup_cons, List.lookup_cons]
    cases l == k with
    | true => rfl
    | false => exact ih

namespace AgreeOff

variable {touched touched' : Location → Prop} {d e f : Disk}

theorem of_outline (houtline : e.outline = d.outline)
    (hentry : ∀ l, ¬ touched l → e.entryAt? l = d.entryAt? l) (hframe : e.frame = d.frame) :
    AgreeOff touched d e := by
  refine ⟨⟨fun l => ?_, hentry, hframe⟩, houtline⟩
  rw [Disk.entryAt?, Disk.entryAt?]
  split
  · rfl
  · rw [← lookup_outline, ← lookup_outline, houtline]

theorem refl (touched : Location → Prop) (d : Disk) : AgreeOff touched d d :=
  of_outline rfl (fun _ _ => rfl) rfl

theorem trans (h : AgreeOff touched d e) (h' : AgreeOff touched e f) : AgreeOff touched d f :=
  of_outline (h'.outline.trans h.outline) (fun l hl => (h'.entryAt? l hl).trans (h.entryAt? l hl))
    (h'.frame.trans h.frame)

theorem mono (h : AgreeOff touched d e) (hsub : ∀ l, touched l → touched' l) :
    AgreeOff touched' d e :=
  of_outline h.outline (fun l hl => h.entryAt? l fun ht => hl (hsub l ht)) h.frame

theorem symm (h : AgreeOff touched d e) : AgreeOff touched e d :=
  of_outline h.outline.symm (fun l hl => (h.entryAt? l hl).symm) h.frame.symm

end AgreeOff

/-! ### Names of one file -/

theorem isSame_comm (d : Disk) (a b : Location) : d.isSame a b = d.isSame b a := by
  rw [isSame, isSame, Bool.eq_iff_iff, isSameIn_iff, isSameIn_iff]
  grind

theorem isSame_trans {d : Disk} {a b c : Location} (h : d.isSame a b = true)
    (h' : d.isSame b c = true) : d.isSame a c = true := by
  rw [isSame, isSameIn_iff] at h h' ⊢
  grind

theorem lookup_eq_of_isSame {d : Disk} {a b : Location} (h : d.isSame a b = true) :
    d.entries.lookup a = d.entries.lookup b := by
  rcases isSameIn_iff.1 h with rfl | ⟨n, ha, hb⟩
  · rfl
  · have hmem {l : Location} (hl : d.links.lookup l = some n) : l ∈ d.links.map Prod.fst := by
      have hsome : (d.links.lookup l).isSome := by rw [hl]; rfl
      obtain ⟨e, he, hle⟩ := List.lookup_isSome_iff.1 hsome
      exact List.mem_map.2 ⟨e, he, (eq_of_beq hle).symm⟩
    exact d.shared a (hmem ha) b (hmem hb) (ha.trans hb.symm)

theorem isLinkFree_of_links {d : Disk} (h : d.links = []) : d.IsLinkFree := by
  intro a b hsame
  rcases isSameIn_iff.1 hsame with rfl | ⟨n, ha, _⟩
  · rfl
  · rw [h] at ha
    exact absurd ha (by simp)

theorem SameShape.isLinkFree {touched : Location → Prop} {d e : Disk} (h : SameShape touched d e)
    (hfree : d.IsLinkFree) : e.IsLinkFree := by
  intro a b hsame
  rw [isSame, h.links] at hsame
  exact hfree a b hsame

/-! ### Writing a file -/

theorem outline_replace {d : Disk} {location : Location} {old : Content} (new : Content)
    (hroot : location ≠ []) (h : d.entryAt? location = some (.file old)) :
    (d.replace location (.file new)).outline = d.outline := by
  rw [Disk.entryAt?, if_neg hroot] at h
  simp only [outline, replace, replaceIn, List.map_map]
  refine List.map_congr_left fun e he => ?_
  by_cases hl : d.isSame location e.1 = true
  · -- all names of the file are names of a file
    have hfile := lookup_of_mem d.nodup he
    rw [← lookup_eq_of_isSame hl, h] at hfile
    rw [Function.comp_apply, if_pos hl, ← Option.some.inj hfile]
    rfl
  · rw [Function.comp_apply, if_neg hl]

theorem writeText_eq_ok {d e : Disk} {path t : Text} :
    d.writeText path t = .ok e ↔
      ∃ l old, d.walk path = .ok l ∧ d.entryAt? l = some (.file old) ∧ l ∉ d.readonly
        ∧ e = d.replace l (.file (.text t)) := by
  rw [writeText]
  constructor
  · intro h
    split at h
    · exact absurd h (by simp)
    · exact absurd h (by simp)
    · next l old hreach =>
      obtain ⟨hwalk, hentry⟩ := reach_eq_ok.1 hreach
      split at h
      · exact absurd h (by simp)
      · next hallowed =>
        cases h
        exact ⟨l, old, hwalk, hentry, by simpa using hallowed, rfl⟩
  · rintro ⟨l, old, hwalk, hentry, hallowed, rfl⟩
    rw [reach_eq_ok.2 ⟨hwalk, hentry⟩]
    dsimp only
    rw [if_neg (by simpa using hallowed)]

/-- A disk agrees with the disk after a write, except in the names of the file that was written. -/
theorem agreeOff_of_writeText {d e : Disk} {path t : Text} (h : d.writeText path t = .ok e) :
    AgreeOff (fun l => ∃ k, d.walk path = .ok k ∧ d.isSame k l = true) d e := by
  obtain ⟨l, old, hwalk, hentry, _, rfl⟩ := writeText_eq_ok.1 h
  refine .of_outline (outline_replace _ (ne_nil_of_file hentry) hentry) (fun k hk => ?_) rfl
  exact entryAt?_replace_of_ne d _ (Bool.eq_false_iff.2 fun hsame => hk ⟨l, hwalk, hsame⟩)

/-- If no file has several names, this is the one file that was written. -/
theorem AgreeOff.of_isLinkFree {d e : Disk} {path : Text} (hfree : d.IsLinkFree)
    (h : AgreeOff (fun l => ∃ k, d.walk path = .ok k ∧ d.isSame k l = true) d e) :
    AgreeOff (fun l => d.walk path = .ok l) d e := by
  refine h.mono ?_
  rintro l ⟨k, hwalk, hsame⟩
  rwa [← hfree k l hsame]

/-- The same write keeps disks in agreement. -/
theorem AgreeOff.replace {touched : Location → Prop} {d e : Disk} (h : AgreeOff touched d e)
    {l : Location} {old old' : Content} (new : Content) (hd : d.entryAt? l = some (.file old))
    (he : e.entryAt? l = some (.file old')) :
    AgreeOff touched (d.replace l (.file new)) (e.replace l (.file new)) := by
  have hroot := ne_nil_of_file hd
  refine .of_outline ?_ (fun k hk => ?_) h.frame
  · rw [outline_replace new hroot hd, outline_replace new hroot he, h.outline]
  · have hsame : e.isSame l = d.isSame l := by
      funext m
      rw [isSame, isSame, h.links]
    simp only [Disk.entryAt?, Disk.replace, lookup_replaceIn, hsame] at hk ⊢
    have hthere := h.entryAt? k hk
    have hkind := h.kind k
    simp only [Disk.entryAt?] at hthere hkind
    split
    · rfl
    · next hk =>
      rw [if_neg hk, if_neg hk] at hthere
      rw [hthere]

theorem replace_comm (d : Disk) {l m : Location} (x y : Entry) (h : d.isSame l m = false) :
    (d.replace l x).replace m y = (d.replace m y).replace l x := by
  have hsame (k : Location) (z : Entry) : (d.replace k z).isSame = d.isSame := rfl
  have hentries : (replaceIn (replaceIn d.entries (d.isSame l) x) (d.isSame m) y)
      = replaceIn (replaceIn d.entries (d.isSame m) y) (d.isSame l) x := by
    simp only [replaceIn, List.map_map]
    refine List.map_congr_left fun e _ => ?_
    by_cases hl : d.isSame l e.1 = true
    · -- a location is a name of one of the files at most
      have hm : d.isSame m e.1 = false := by
        refine Bool.eq_false_iff.2 fun hm => ?_
        rw [isSame_comm] at hm
        rw [isSame_trans hl hm] at h
        exact absurd h (by simp)
      simp [hl, hm]
    · by_cases hm : d.isSame m e.1 = true
      · simp [hl, hm]
      · simp [hl, hm]
  simp only [Disk.replace, Disk.mk.injEq, and_true]
  exact hentries

/-! ### Views of the outline -/

theorem namesIn_eq_outline (d : Disk) (location : Location) :
    d.namesIn location = d.outline.filterMap fun e =>
      match e.1.getLast? with
      | some name => if e.1.dropLast = location then some name else none
      | none => none := by
  rw [namesIn, outline, List.filterMap_map]
  rfl

theorem filesBelow_eq_outline (d : Disk) (suffixes exclude : List Text) (top : Location) :
    SourceTree.filesBelow d suffixes exclude top =
      Text.sorted ((d.outline.filter fun e =>
        e.2 && SourceTree.isSource d suffixes exclude top e.1).map fun e => pathOf e.1) := by
  rw [SourceTree.filesBelow, outline, List.filter_map, List.map_map]
  rfl

theorem faultBelow?_eq_outline (d : Disk) (suffixes : List Text) (top : Location) :
    SourceTree.faultBelow? d suffixes top =
      ((SourceTree.directorySteps d top top
        ++ (d.outline.filter fun e => SourceTree.isMet d top e.1).flatMap fun e =>
          SourceTree.nameSteps d suffixes e.1
            ++ if e.2 then [] else SourceTree.directorySteps d top e.1).foldl
        SourceTree.earlier none).map Prod.snd := by
  have hkind (e : Location × Entry) :
      (if e.2.isDirectory then SourceTree.directorySteps d top e.1 else [])
        = if e.2.isFile then [] else SourceTree.directorySteps d top e.1 := by
    obtain ⟨l, x⟩ := e
    cases x <;> rfl
  rw [SourceTree.faultBelow?, outline, List.filter_map, List.flatMap_map]
  simp only [hkind]
  rfl

theorem position_eq_outline (d : Disk) (l : Location) :
    SourceTree.position d l = (d.outline.map Prod.fst).idxOf l := by
  rw [SourceTree.position, outline, List.map_map]
  rfl

/-! ### Answers of disks of the same shape -/

namespace SameShape

variable {touched : Location → Prop} {d e : Disk} (h : SameShape touched d e)

include h

/-- At a location both disks have nothing, or both have an entry of the same kind. -/
theorem entryAt?_cases (l : Location) :
    (e.entryAt? l = none ∧ d.entryAt? l = none)
      ∨ ∃ x y, e.entryAt? l = some x ∧ d.entryAt? l = some y ∧ x.isFile = y.isFile := by
  have hkind := h.kind l
  cases he : e.entryAt? l with
  | none =>
    rw [he, Option.map_none, eq_comm, Option.map_eq_none_iff] at hkind
    exact .inl ⟨rfl, hkind⟩
  | some x =>
    rw [he, Option.map_some, eq_comm, Option.map_eq_some_iff] at hkind
    obtain ⟨y, hd, hyx⟩ := hkind
    exact .inr ⟨x, y, rfl, hd, hyx.symm⟩

theorem isSome_entryAt? (l : Location) : (e.entryAt? l).isSome = (d.entryAt? l).isSome := by
  rcases h.entryAt?_cases l with ⟨he, hd⟩ | ⟨x, y, he, hd, _⟩
  · rw [he, hd]
  · rw [he, hd]
    rfl

theorem entryAt?_eq_directory (l : Location) :
    e.entryAt? l = some .directory ↔ d.entryAt? l = some .directory := by
  rcases h.entryAt?_cases l with ⟨he, hd⟩ | ⟨x, y, he, hd, hkind⟩
  · rw [he, hd]
  · rw [he, hd]
    cases x <;> cases y <;> simp [Entry.isFile] at hkind ⊢

theorem walkFrom_eq (location : Location) (cs : List Text) :
    e.walkFrom location cs = d.walkFrom location cs := by
  induction cs generalizing location with
  | nil => rfl
  | cons c rest ih =>
    rw [walkFrom, walkFrom, isSearchable, isSearchable, h.unsearchable]
    simp only [ne_eq, h.entryAt?_eq_directory location, h.isSome_entryAt? (location ++ [c]), ih]

theorem walkBytes_eq (path : Text) : e.walkBytes path = d.walkBytes path := by
  rw [walkBytes, walkBytes, h.cwd, h.walkFrom_eq]

theorem walk_eq (path : Text) : e.walk path = d.walk path := by
  rw [walk, walk, h.walkBytes_eq]

theorem cwdPath_eq : e.cwdPath = d.cwdPath := by
  rw [cwdPath, cwdPath, h.cwd]

/-- A walk arrives nowhere on both disks, for the same reason, or at entries of the same kind. -/
theorem arrive_cases (walked : Except AccessError Location) :
    (∃ fault, e.arrive walked = .error fault ∧ d.arrive walked = .error fault)
      ∨ ∃ l x y, e.arrive walked = .ok (l, x) ∧ d.arrive walked = .ok (l, y)
        ∧ x.isFile = y.isFile := by
  cases walked with
  | error fault => exact .inl ⟨fault, rfl, rfl⟩
  | ok l =>
    rw [arrive, arrive]
    rcases h.entryAt?_cases l with ⟨he, hd⟩ | ⟨x, y, he, hd, hkind⟩
    · rw [he, hd]
      exact .inl ⟨_, rfl, rfl⟩
    · rw [he, hd]
      exact .inr ⟨l, x, y, rfl, rfl, hkind⟩

/-- A path leads nowhere on both disks, for the same reason, or to one location, at which they have
entries of the same kind. -/
theorem reach_cases (path : Text) :
    (∃ fault, e.reach path = .error fault ∧ d.reach path = .error fault)
      ∨ ∃ l x y, e.reach path = .ok (l, x) ∧ d.reach path = .ok (l, y) ∧ x.isFile = y.isFile := by
  rw [reach, reach, h.walk_eq]
  exact h.arrive_cases (d.walk path)

theorem verdict_eq {passes : Entry → Bool}
    (hp : ∀ x y : Entry, x.isFile = y.isFile → passes x = passes y) (path : Text)
    (walked : Except AccessError Location) :
    verdict passes path (e.arrive walked) = verdict passes path (d.arrive walked) := by
  rcases h.arrive_cases walked with ⟨fault, he, hd⟩ | ⟨l, x, y, he, hd, hkind⟩
  · rw [he, hd]
  · rw [he, hd]
    simp only [verdict, hp x y hkind]

theorem test_eq {passes : Entry → Bool} (hp : ∀ x y : Entry, x.isFile = y.isFile → passes x = passes y)
    (path : Text) : e.test passes path = d.test passes path := by
  rw [test, test, reach, reach, h.walk_eq, h.verdict_eq hp]

theorem isFile_eq (path : Text) : e.isFile path = d.isFile path :=
  h.test_eq (fun _ _ hxy => hxy) path

theorem isSpelledFile_eq (path : Text) : e.isSpelledFile path = d.isSpelledFile path := by
  have hpass : ∀ x y : Entry, x.isFile = y.isFile → x.isFile = y.isFile := fun _ _ hxy => hxy
  rw [isSpelledFile, isSpelledFile, h.walkBytes_eq, h.verdict_eq hpass]

theorem isDirectory_eq (path : Text) : e.isDirectory path = d.isDirectory path := by
  refine h.test_eq (fun x y hxy => ?_) path
  cases x <;> cases y <;> simp_all [Entry.isFile, Entry.isDirectory]

theorem content_eq {path : Text} (hpath : ∀ l, d.walk path = .ok l → ¬ touched l) :
    e.content path = d.content path := by
  have hreach : e.reach path = d.reach path := by
    rw [reach, reach, h.walk_eq]
    cases hwalk : d.walk path with
    | error fault => rfl
    | ok l => rw [arrive, arrive, h.entryAt? l (hpath l hwalk)]
  rw [content, content, hreach, h.denied]

theorem readText_eq {path : Text} (hpath : ∀ l, d.walk path = .ok l → ¬ touched l) :
    e.readText path = d.readText path := by
  rw [readText, readText, h.content_eq hpath]

open SourceTree

theorem isReachable_eq (top location : Location) :
    isReachable e top location = isReachable d top location := by
  simp only [isReachable, isListable, h.entryAt?_eq_directory, h.denied, h.walk_eq]

theorem isMet_eq (top location : Location) : isMet e top location = isMet d top location := by
  rw [isMet, isMet, h.isReachable_eq]

theorem isSource_eq (suffixes exclude : List Text) (top : Location) :
    isSource e suffixes exclude top = isSource d suffixes exclude top := by
  funext file
  rw [isSource, isSource, h.isReachable_eq]

end SameShape

/-! ### Listings of disks that agree -/

namespace AgreeOff

variable {touched : Location → Prop} {d e : Disk} (h : AgreeOff touched d e)

include h

theorem namesIn_eq (location : Location) : e.namesIn location = d.namesIn location := by
  rw [namesIn_eq_outline, namesIn_eq_outline, h.outline]

theorem list_eq (path : Text) : e.list path = d.list path := by
  rw [list, list]
  rcases h.reach_cases path with ⟨fault, he, hd⟩ | ⟨l, x, y, he, hd, hkind⟩
  · rw [he, hd]
  · rw [he, hd]
    cases x <;> cases y <;> simp_all [Entry.isFile, h.denied, h.namesIn_eq]

open SourceTree

theorem filesBelow_eq (suffixes exclude : List Text) (top : Location) :
    filesBelow e suffixes exclude top = filesBelow d suffixes exclude top := by
  rw [filesBelow_eq_outline, filesBelow_eq_outline, h.outline, h.isSource_eq]

theorem route_eq : route e = route d := by
  have hposition : position e = position d := by
    funext l
    rw [position_eq_outline, position_eq_outline, h.outline]
  funext l
  simp only [route, hposition]

theorem nameSteps_eq (suffixes : List Text) : nameSteps e suffixes = nameSteps d suffixes := by
  funext l
  simp only [nameSteps, h.isFile_eq, h.route_eq, position_eq_outline, h.outline]

theorem directorySteps_eq (top location : Location) :
    directorySteps e top location = directorySteps d top location := by
  have hlength (f : Disk) : f.entries.length = f.outline.length := by
    rw [Disk.outline, List.length_map]
  simp only [directorySteps, h.walk_eq, h.route_eq, h.room, hlength, h.outline]

theorem faultBelow?_eq (suffixes : List Text) (top : Location) :
    faultBelow? e suffixes top = faultBelow? d suffixes top := by
  simp only [faultBelow?_eq_outline, h.outline, h.isMet_eq, h.nameSteps_eq, h.directorySteps_eq]

/-- Disks that agree have the same source files under a path. -/
theorem files_eq (suffixes exclude : List Text) (path : Text) :
    files e suffixes exclude path = files d suffixes exclude path := by
  simp only [files, h.cwdPath_eq, h.isDirectory_eq, h.isFile_eq, h.filesBelow_eq,
    h.faultBelow?_eq]

end AgreeOff

end SpecifierLint.Disk
