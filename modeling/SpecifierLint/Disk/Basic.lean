/-
Disks.

A disk is a finite table from locations to entries.  A location is the list of names from the root
down; the root itself is always a directory.  No location stands twice in the table, no name in it is
empty, a point or a double point or holds a slash or U+0000, and the order of the table is the order
in which directories are listed.  A file holds a text, or bytes that are not UTF-8 together with the
fault that a reader meets.

Some locations may not be read, some may not be written, and some directories can be listed but not
searched, so that nothing in them can be reached.  A file can have several names; they stand in the table
each with the content of the file, and a change of the file is seen under all of them.  There are no
symbolic links, so every location has one path without double points, and every name is a text.  Main
statements:

* **`entryAt?_replace_self`** — a replaced file holds the new content;
* **`entryAt?_replace_of_ne`** — the entries that are no names of it are as before.
-/
import SpecifierLint.Path.Spelled
import SpecifierLint.Room

namespace SpecifierLint

/-- The names from the root down. -/
abbrev Location := List Text

/-- What a file holds. -/
inductive Content where
  | text (t : Text)
  | raw (bytes : List UInt8) (fault : Text.DecodeFault)
  deriving DecidableEq, Repr

/-- The content of given bytes: their text, if they are UTF-8. -/
def Content.ofBytes (bytes : List UInt8) : Content :=
  match Text.decode bytes with
  | .ok t => .text t
  | .error fault => .raw bytes fault

/-- A directory, or a file with its content. -/
inductive Entry where
  | directory
  | file (content : Content)
  deriving DecidableEq, Repr

/-- The entry is a file. -/
def Entry.isFile : Entry → Bool
  | .file _ => true
  | .directory => false

/-- The entry is a directory. -/
def Entry.isDirectory : Entry → Bool
  | .directory => true
  | .file _ => false

/-- A table of entries, the locations that may not be read or written, the directories that cannot be
searched, the names of files that have several with the number of the file, the working directory, and
the room that there is for nested calls. -/
structure Disk where
  entries : List (Location × Entry) := []
  denied : List Location := []
  readonly : List Location := []
  unsearchable : List Location := []
  links : List (Location × Nat) := []
  cwd : Location := []
  room : Room := {}
  nodup : (entries.map Prod.fst).Nodup := by decide
  named : ∀ location ∈ entries.map Prod.fst, location.all isEntryName := by decide
  /-- The names of one file stand for the same content. -/
  shared : ∀ a ∈ links.map Prod.fst, ∀ b ∈ links.map Prod.fst,
    links.lookup a = links.lookup b → entries.lookup a = entries.lookup b := by decide
  linked : ∀ a ∈ links.map Prod.fst, a ∈ entries.map Prod.fst := by decide

namespace Disk

/-- The order of locations: name by name, each by code points. -/
def before (a b : Location × Entry) : Bool := !decide (b.1 < a.1)

/-- The entry at a location. -/
def entryAt? (d : Disk) (location : Location) : Option Entry :=
  if location = [] then some .directory else d.entries.lookup location

/-- The location of an absolute path without double points. -/
def locate (path : Text) : Location := Path.parts path

/-- The absolute path of a location. -/
def pathOf (location : Location) : Text := '/' :: Text.join ['/'] location

/-- The path of the working directory. -/
def cwdPath (d : Disk) : Text := pathOf d.cwd

/-- Two locations are names of one file in a table of links. -/
def isSameIn (links : List (Location × Nat)) (a b : Location) : Bool :=
  a = b || ((links.lookup a).isSome && links.lookup a = links.lookup b)

/-- Two locations are the same, or names of one file. -/
def isSame (d : Disk) (a b : Location) : Bool := isSameIn d.links a b

/-- No file has several names. -/
def IsLinkFree (d : Disk) : Prop := ∀ a b, d.isSame a b = true → a = b

/-! ### Making a disk -/

/-- Keeps the entries that stand above all locations kept before them, and above `last`. -/
def keepAbove (last : Location) : List (Location × Entry) → List (Location × Entry)
  | [] => []
  | e :: rest => if last < e.1 then e :: keepAbove e.1 rest else keepAbove last rest

theorem lt_of_mem_keepAbove {last : Location} {entries : List (Location × Entry)}
    {e : Location × Entry} (h : e ∈ keepAbove last entries) : last < e.1 := by
  induction entries generalizing last with
  | nil => simp [keepAbove] at h
  | cons x rest ih =>
    simp only [keepAbove] at h
    split at h
    · next hx =>
      rcases List.mem_cons.1 h with rfl | h
      · exact hx
      · exact List.lt_trans hx (ih h)
    · exact ih h

theorem nodup_keepAbove (last : Location) (entries : List (Location × Entry)) :
    ((keepAbove last entries).map Prod.fst).Nodup := by
  induction entries generalizing last with
  | nil => simp [keepAbove]
  | cons x rest ih =>
    simp only [keepAbove]
    split
    · rw [List.map_cons, List.nodup_cons]
      refine ⟨fun h => ?_, ih x.1⟩
      obtain ⟨e, he, hx⟩ := List.mem_map.1 h
      have hlt := lt_of_mem_keepAbove he
      rw [hx] at hlt
      exact List.lt_irrefl x.1 hlt
    · exact ih last

theorem mem_of_mem_keepAbove {last : Location} {entries : List (Location × Entry)}
    {e : Location × Entry} (h : e ∈ keepAbove last entries) : e ∈ entries := by
  induction entries generalizing last with
  | nil => simp [keepAbove] at h
  | cons x rest ih =>
    simp only [keepAbove] at h
    split at h
    · rcases List.mem_cons.1 h with rfl | h
      · exact List.mem_cons_self ..
      · exact List.mem_cons_of_mem _ (ih h)
    · exact List.mem_cons_of_mem _ (ih h)

/-- The disk with the given entries, in the order of their locations; of several entries for one
location the first one counts, and a location with a name that no entry can have is left out. -/
def ofEntries (entries : List (Location × Entry)) : Disk where
  entries := keepAbove [] ((entries.filter fun e => e.1.all isEntryName).mergeSort before)
  nodup := nodup_keepAbove [] _
  named := by
    intro location h
    obtain ⟨e, he, rfl⟩ := List.mem_map.1 h
    exact (List.mem_filter.1 (List.mem_mergeSort.1 (mem_of_mem_keepAbove he))).2
  shared := by simp
  linked := by simp

/-! ### Changing a disk -/

/-- The table with the entries of some locations replaced. -/
def replaceIn (entries : List (Location × Entry)) (isPlace : Location → Bool) (entry : Entry) :
    List (Location × Entry) :=
  entries.map fun e => if isPlace e.1 then (e.1, entry) else e

theorem map_fst_replaceIn (entries : List (Location × Entry)) (isPlace : Location → Bool)
    (entry : Entry) : (replaceIn entries isPlace entry).map Prod.fst = entries.map Prod.fst := by
  induction entries with
  | nil => rfl
  | cons e rest ih =>
    simp only [replaceIn, List.map_cons] at ih ⊢
    rw [ih]
    split <;> rfl

theorem lookup_replaceIn (entries : List (Location × Entry)) (isPlace : Location → Bool)
    (entry : Entry) (location : Location) :
    (replaceIn entries isPlace entry).lookup location
      = if isPlace location then (entries.lookup location).map fun _ => entry
        else entries.lookup location := by
  induction entries with
  | nil => simp [replaceIn]
  | cons e rest ih =>
    obtain ⟨l, x⟩ := e
    simp only [replaceIn, List.map_cons] at ih ⊢
    by_cases hl : location = l
    · subst hl
      by_cases hplace : isPlace location = true
      · simp [hplace]
      · simp [hplace]
    · have hne : (location == l) = false := by simpa using hl
      have hfst : (if isPlace l = true then (l, entry) else (l, x)).1 = l := by split <;> rfl
      rw [List.lookup_cons, hfst, hne, List.lookup_cons, hne]
      exact ih

theorem isSameIn_iff {links : List (Location × Nat)} {a b : Location} :
    isSameIn links a b = true ↔
      a = b ∨ ∃ n, links.lookup a = some n ∧ links.lookup b = some n := by
  rw [isSameIn, Bool.or_eq_true, decide_eq_true_iff, Bool.and_eq_true, decide_eq_true_iff,
    Option.isSome_iff_exists]
  grind

/-- Of two names of one file both are names of any file, or none. -/
theorem isSameIn_congr {links : List (Location × Nat)} {a b : Location}
    (ha : a ∈ links.map Prod.fst) (h : links.lookup a = links.lookup b) (location : Location) :
    isSameIn links location a = isSameIn links location b := by
  obtain ⟨e, he, rfl⟩ := List.mem_map.1 ha
  obtain ⟨n, hn⟩ := Option.isSome_iff_exists.1
    (List.lookup_isSome_iff.2 ⟨e, he, beq_self_eq_true e.1⟩)
  rw [Bool.eq_iff_iff, isSameIn_iff, isSameIn_iff]
  grind

/-- Gives the file or directory at a location a new value, under all names that it has. -/
def replace (d : Disk) (location : Location) (entry : Entry) : Disk :=
  { d with
    entries := replaceIn d.entries (d.isSame location) entry
    nodup := by rw [map_fst_replaceIn]; exact d.nodup
    named := by rw [map_fst_replaceIn]; exact d.named
    shared := by
      intro a ha b hb h
      rw [lookup_replaceIn, lookup_replaceIn, isSame, isSame, isSameIn_congr ha h,
        d.shared a ha b hb h]
    linked := by rw [map_fst_replaceIn]; exact d.linked }

theorem lookup_eq_of_perm {entries others : List (Location × Entry)} (h : entries.Perm others)
    (hnodup : (entries.map Prod.fst).Nodup) (location : Location) :
    entries.lookup location = others.lookup location := by
  induction h with
  | nil => rfl
  | cons e _ ih =>
    rw [List.map_cons, List.nodup_cons] at hnodup
    rw [List.lookup_cons, List.lookup_cons, ih hnodup.2]
  | swap a b rest =>
    rw [List.map_cons, List.nodup_cons, List.map_cons] at hnodup
    have hne : b.1 ≠ a.1 := fun heq => hnodup.1 (heq ▸ List.mem_cons_self ..)
    rw [List.lookup_cons, List.lookup_cons, List.lookup_cons, List.lookup_cons]
    by_cases ha : location = a.1
    · have hb : (location == b.1) = false := by simpa [ha] using hne.symm
      rw [hb]
    · have ha' : (location == a.1) = false := by simpa using ha
      rw [ha']
  | trans hab _ ih₁ ih₂ => rw [ih₁ hnodup, ih₂ ((hab.map Prod.fst).nodup_iff.1 hnodup)]

/-- Adds an entry in its place, or gives an existing one a new value; nothing changes if no entry can
have one of the names. -/
def put (d : Disk) (location : Location) (entry : Entry) : Disk :=
  if h : location ∈ d.entries.map Prod.fst then d.replace location entry
  else if hnames : location.all isEntryName then
    have hp := List.mergeSort_perm ((location, entry) :: d.entries) before
    have hnodup : (((location, entry) :: d.entries).map Prod.fst).Nodup :=
      List.nodup_cons.2 ⟨h, d.nodup⟩
    { d with
      entries := ((location, entry) :: d.entries).mergeSort before
      nodup := (hp.map Prod.fst).nodup_iff.2 hnodup
      named := by
        intro l hl
        rcases List.mem_cons.1 ((hp.map Prod.fst).mem_iff.1 hl) with rfl | hl
        · exact hnames
        · exact d.named l hl
      shared := by
        -- the new entry stands at none of the locations that are names of files with several
        have hother : ∀ a ∈ d.links.map Prod.fst, (a == location) = false := by
          intro a ha
          rw [beq_eq_false_iff_ne]
          rintro rfl
          exact h (d.linked a ha)
        intro a ha b hb hab
        rw [lookup_eq_of_perm hp ((hp.map Prod.fst).nodup_iff.2 hnodup),
          lookup_eq_of_perm hp ((hp.map Prod.fst).nodup_iff.2 hnodup), List.lookup_cons,
          List.lookup_cons, hother a ha, hother b hb]
        exact d.shared a ha b hb hab
      linked := fun a ha => (hp.map Prod.fst).mem_iff.2 (List.mem_cons_of_mem _ (d.linked a ha)) }
  else d

/-- Adds a directory unless something is there already. -/
def ensureDirectory (d : Disk) (location : Location) : Disk :=
  if (d.entryAt? location).isSome then d else d.put location .directory

/-- Adds a directory and all directories above it. -/
def makeDirectories (d : Disk) (location : Location) : Disk :=
  (List.range (location.length + 1)).foldl (fun d n => d.ensureDirectory (location.take n)) d

/-- Puts a file somewhere, with the directories above it. -/
def putFile (d : Disk) (location : Location) (content : Content) : Disk :=
  (d.makeDirectories location.dropLast).put location (.file content)

theorem lookup_filter_fst {β : Type} (entries : List (Location × β)) (keep : Location → Bool)
    (location : Location) :
    (entries.filter fun e => keep e.1).lookup location
      = if keep location then entries.lookup location else none := by
  induction entries with
  | nil => simp
  | cons e rest ih =>
    obtain ⟨l, x⟩ := e
    by_cases hl : location = l
    · subst hl
      by_cases hkeep : keep location = true
      · simp [hkeep]
      · simp only [Bool.not_eq_true] at hkeep
        simp only [List.filter_cons, hkeep, Bool.false_eq_true, if_false] at ih ⊢
        exact ih
    · have hne : (location == l) = false := by simpa using hl
      rw [List.lookup_cons, hne, List.filter_cons]
      split
      · rw [List.lookup_cons, hne]
        exact ih
      · exact ih

/-- Takes away an entry and everything below it. -/
def erase (d : Disk) (location : Location) : Disk :=
  let keep : Location → Bool := fun l => !location.isPrefixOf l
  have hkeep {β : Type} {entries : List (Location × β)} {l : Location} :
      l ∈ (entries.filter fun e => keep e.1).map Prod.fst ↔
        keep l = true ∧ l ∈ entries.map Prod.fst := by
    simp only [List.mem_map, List.mem_filter]
    constructor
    · rintro ⟨e, ⟨he, hl⟩, rfl⟩
      exact ⟨hl, e, he, rfl⟩
    · rintro ⟨hl, e, he, rfl⟩
      exact ⟨e, ⟨he, hl⟩, rfl⟩
  { d with
    entries := d.entries.filter fun e => keep e.1
    links := d.links.filter fun e => keep e.1
    nodup := d.nodup.sublist (List.filter_sublist.map Prod.fst)
    named := fun l h => d.named l ((List.filter_sublist.map Prod.fst).subset h)
    shared := by
      intro a ha b hb h
      obtain ⟨hka, ha⟩ := hkeep.1 ha
      obtain ⟨hkb, hb⟩ := hkeep.1 hb
      rw [lookup_filter_fst, lookup_filter_fst, if_pos hka, if_pos hkb] at h ⊢
      exact d.shared a ha b hb h
    linked := fun a ha => hkeep.2 ⟨(hkeep.1 ha).1, d.linked a (hkeep.1 ha).2⟩ }

/-- A replaced entry has its new value. -/
theorem entryAt?_replace_self {d : Disk} {location : Location} {old : Entry} (entry : Entry)
    (hroot : location ≠ []) (h : d.entryAt? location = some old) :
    (d.replace location entry).entryAt? location = some entry := by
  simp only [entryAt?, hroot, if_false, replace] at h ⊢
  rw [lookup_replaceIn, h]
  simp [isSame, isSameIn]

/-- All entries that are no names of the file are as before. -/
theorem entryAt?_replace_of_ne (d : Disk) {location other : Location} (entry : Entry)
    (h : d.isSame location other = false) :
    (d.replace location entry).entryAt? other = d.entryAt? other := by
  simp only [entryAt?, replace]
  rw [lookup_replaceIn, h]
  simp

end Disk

end SpecifierLint
